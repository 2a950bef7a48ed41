import NetCalyx.Wire.Loops

/-!
# A loop over frames

When the octets in front of a parser are cut into frames and the parser, on any frame,
does not look behind it, what a loop computes is a fold over the frames: `runEach` says
what one frame does to the state, and `repeatWhile_frames` that the loop does the same.
Unlike the rules for reading back what was written, this holds for frames that are refused
as well.

A parser that leaves alone what comes behind the octets it needs (`Extends`) goes through a
loop over longer octets in the same way, until it comes to what was added
(`repeatWhile_extends`).
-/

namespace Wire
open StateParser List

variable {σ τ ε α : Type} {go : Octets → Bool} {p : StateParser σ ε α}

/-- What the parser does on a frame is `run`, whatever comes behind the frame. -/
def Framed (p : StateParser σ ε α) (frame : Octets) (run : σ → σ × Except (Err ε) α) : Prop :=
  ∀ s rest, p s (frame ++ rest) = ((run s).1, (run s).2.map fun a => (rest, a))

/-- What the parser does on octets alone. -/
def alone (p : StateParser σ ε α) (bs : Octets) (s : σ) : σ × Except (Err ε) α :=
  ((p s bs).1, (p s bs).2.map Prod.snd)

theorem eq_ok_of_map {β : Type} {read : σ × Except ε α} {f : α → β} {s : σ} {b : β}
    (h : (read.1, read.2.map f) = (s, .ok b)) : ∃ a, read = (s, .ok a) ∧ f a = b := by
  obtain ⟨s', _ | a⟩ := read <;> cases h
  exact ⟨a, rfl, rfl⟩

variable {frame : Octets}

theorem Framed.alone_eq {run : σ → σ × Except (Err ε) α} (h : Framed p frame run) :
    alone p frame = run := by
  funext s
  have hs := h s []
  rw [append_nil] at hs
  rw [alone, hs]
  rcases run s with ⟨s', _ | a⟩ <;> rfl

theorem Framed.eq_alone {run : σ → σ × Except (Err ε) α} (h : Framed p frame run) :
    Framed p frame (alone p frame) := by
  rwa [h.alone_eq]

theorem Framed.mapErr {run : σ → σ × Except (Err ε) α} (h : Framed p frame run) {ε' : Type}
    (f : ε → ε') :
    Framed (p.mapErr f) frame fun s => ((run s).1, (run s).2.mapError (Err.map f)) := by
  intro s rest
  rw [StateParser.mapErr, h]
  dsimp only
  rcases run s with ⟨s', _ | a⟩ <;> rfl

variable {bs : Octets}

/-- A parser that takes note of what it read. -/
theorem Settles.framed {p : Parser ε α} (h : Settles p bs) (f : σ → α → σ) :
    Framed (.noted p f) bs (alone (.noted p f) bs) := by
  obtain ⟨r, hr⟩ := h
  have hrun : Framed (.noted p f) bs fun s => (r.toOption.elim s (f s), r.mapError .error) := by
    intro s rest
    rw [StateParser.noted, bind_apply, liftP, hr]
    cases r <;> rfl
  exact hrun.eq_alone

/-- A header, and a parser that runs on the octets that it delimits. -/
theorem Decodes.framed_within {β : Type} {p : Parser ε α} {a : α} (h : Decodes p bs a)
    (data : α → Octets) (q : α → StateParser σ ε β) :
    Framed (.liftP p >>= fun a => .within (data a) (q a)) bs (alone (q a) (data a)) := by
  intro s rest
  rw [(Reads.liftP h s).run_bind, StateParser.within, alone]
  rcases q a s (data a) with ⟨s', _ | ⟨left, b⟩⟩ <;> rfl

theorem Settles.framed_within {β : Type} {p : Parser ε α} (h : Settles p bs) (data : α → Octets)
    (q : α → StateParser σ ε β) :
    ∃ run, Framed (.liftP p >>= fun a => .within (data a) (q a)) bs run := by
  obtain ⟨e | a, hr⟩ := h
  · refine ⟨fun s => (s, .error (.error e)), fun s rest => ?_⟩
    rw [bind_apply, liftP, hr]
    rfl
  · exact ⟨_, Decodes.framed_within hr data q⟩

/-- The frames one after the other, until one is refused. -/
def runEach (run : τ → σ → σ × Except (Err ε) α) : List τ → σ → σ × Except (Err ε) (List α)
  | [], s => (s, .ok [])
  | frame :: frames, s =>
    match run frame s with
    | (s', .error e) => (s', .error e)
    | (s', .ok a) =>
      match runEach run frames s' with
      | (s'', .error e) => (s'', .error e)
      | (s'', .ok as) => (s'', .ok (a :: as))

theorem length_of_runEach {run : τ → σ → σ × Except (Err ε) α} {frames : List τ} {s s' : σ}
    {as : List α} (h : runEach run frames s = (s', .ok as)) : as.length = frames.length := by
  induction frames generalizing s as with
  | nil =>
    cases h
    rfl
  | cons frame frames ih =>
    rw [runEach] at h
    split at h
    · cases h
    · split at h
      · cases h
      · cases h
        rw [length_cons, length_cons, ih ‹_›]

section Loop

variable [NomError ε] {enc : τ → Octets}
  {run : τ → σ → σ × Except (Err ε) α} {frames : List τ} {tail : Octets}

theorem repeatRounds_frames (hp : ∀ frame ∈ frames, Framed p (enc frame) (run frame))
    (hgo : ∀ frame ∈ frames, ∀ rest, go (enc frame ++ rest) = true) (htail : go tail = false) {n : Nat}
    (hn : frames.length ≤ n) (s : σ) :
    repeatRounds go p n s (frames.flatMap enc ++ tail) =
      ((runEach run frames s).1, (runEach run frames s).2.map fun as => (tail, as)) := by
  induction frames generalizing s n with
  | nil => cases n <;> simp [repeatRounds, htail, runEach, Except.map]
  | cons frame frames ih =>
    rw [forall_mem_cons] at hp hgo
    rw [length_cons] at hn
    obtain ⟨n, rfl⟩ : ∃ m, n = m + 1 := ⟨n - 1, by omega⟩
    rw [flatMap_cons, append_assoc]
    simp only [repeatRounds, hgo.1 _, if_true, hp.1 s, runEach]
    rcases run frame s with ⟨s', e | a⟩
    · rfl
    · dsimp only [Except.map]
      rw [ih hp.2 hgo.2 (by omega)]
      rcases runEach run frames s' with ⟨s'', _ | as⟩ <;> rfl

variable (go) in
/-- The loop over frames, and a tail behind them that ends it. -/
theorem repeatWhile_frames (hp : ∀ frame ∈ frames, Framed p (enc frame) (run frame))
    (hgo : ∀ frame ∈ frames, ∀ rest, go (enc frame ++ rest) = true) (htail : go tail = false)
    (hne : ∀ frame ∈ frames, enc frame ≠ []) (s : σ) :
    repeatWhile go p s (frames.flatMap enc ++ tail) =
      ((runEach run frames s).1, (runEach run frames s).2.map fun as => (tail, as)) := by
  refine repeatRounds_frames hp hgo htail ?_ s
  rw [length_append]
  exact (length_le_flatMap hne).trans (Nat.le_add_right _ _)

/-- The loop over frames with nothing behind them. -/
theorem repeatWhile_onlyFrames (hp : ∀ frame ∈ frames, Framed p (enc frame) (run frame))
    (hne : ∀ frame ∈ frames, enc frame ≠ []) (s : σ) :
    repeatWhile (fun buf => !buf.isEmpty) p s (frames.flatMap enc) =
      ((runEach run frames s).1, (runEach run frames s).2.map fun as => ([], as)) := by
  rw [← append_nil (frames.flatMap enc)]
  exact repeatWhile_frames _ hp (fun a ha => not_isEmpty_append (hne a ha)) rfl hne s

end Loop

/-- Octets in frames of the same length, and fewer behind them. -/
theorem exists_frames {k : Nat} (hk : 0 < k) (bs : Octets) : ∃ (frames : List Octets) (tail : Octets),
    bs = frames.flatten ++ tail ∧ (∀ frame ∈ frames, frame.length = k) ∧
      frames.length = bs.length / k ∧ tail.length = bs.length % k := by
  induction hn : bs.length / k generalizing bs with
  | zero =>
    refine ⟨[], bs, rfl, nofun, rfl, (Nat.mod_eq_of_lt ?_).symm⟩
    exact (Nat.div_eq_zero_iff.mp hn).resolve_left hk.ne'
  | succ n ih =>
    have hle : k ≤ bs.length := by
      by_contra hlt
      rw [Nat.div_eq_of_lt (not_le.mp hlt)] at hn
      cases hn
    have hrest : (bs.drop k).length = bs.length - k := length_drop
    have hdiv := Nat.div_eq_sub_div hk hle
    obtain ⟨frames, tail, hbs, hframes, hcount, htail⟩ := ih (bs.drop k) (by rw [hrest]; omega)
    refine ⟨bs.take k :: frames, tail, ?_, ?_, by rw [length_cons, hcount], ?_⟩
    · rw [flatten_cons, append_assoc, ← hbs, take_append_drop]
    · rw [forall_mem_cons]
      exact ⟨length_take_of_le hle, hframes⟩
    · rw [htail, hrest, ← Nat.mod_eq_sub_mod hle]

/-! ## Parsers that leave alone what comes behind -/

section Extends

variable {ε' β : Type}

/-- What the parser accepts it accepts in the same way when more comes behind. -/
def Extends (p : Parser ε α) : Prop :=
  ∀ buf rest a more, p buf = .ok (rest, a) → p (buf ++ more) = .ok (rest ++ more, a)

theorem ReadsFront.longer {k : Nat} {p : Parser ε α} (h : ReadsFront k p) : Extends p := by
  intro buf rest a more ha
  obtain ⟨front, rfl, -, hread⟩ := h buf rest a ha
  rw [append_assoc]
  exact hread _

/-- The same for a parser with a state. -/
def ExtendsState (p : StateParser σ ε α) : Prop :=
  ∀ s buf s' rest a more, p s buf = (s', .ok (rest, a)) →
    p s (buf ++ more) = (s', .ok (rest ++ more, a))

namespace ExtendsState

theorem liftP {p : Parser ε α} (hp : Extends p) :
    ExtendsState (liftP p : StateParser σ ε α) := by
  intro s buf s' rest a more h
  obtain ⟨rfl, ha⟩ := liftP_eq_ok.mp h
  exact liftP_eq_ok.mpr ⟨rfl, hp buf rest a more ha⟩

theorem noted {p : Parser ε α} (hp : Extends p) (f : σ → α → σ) :
    ExtendsState (StateParser.noted p f) := by
  intro s buf s' rest a more h
  obtain ⟨t, mid, b, hread, hnote⟩ := bind_eq_ok h
  cases hnote
  exact run_bind (liftP hp s buf t rest a more hread) _

theorem mapErr (hp : ExtendsState p) (f : ε → ε') : ExtendsState (p.mapErr f) := by
  intro s buf s' rest a more h
  have ha := hp s buf s' rest a more (StateParser.mapErr_eq_ok h)
  rw [StateParser.mapErr, ha]

end ExtendsState

section Loop

variable [NomError ε] {s s' : σ} {buf more : Octets}
  {as : List α} (hp : ExtendsState p) (hgo : ∀ buf more, go buf = true → go (buf ++ more) = true)
include hp hgo

/-- A loop that used up its octets comes to what was put behind them, with as many rounds
left as it did not need. -/
theorem Rounds.extends {n : Nat} {rest : Octets} (h : Rounds go p n s buf as s' rest)
    (hrest : rest = []) (spare : Nat) :
    repeatRounds go p (as.length + spare) s (buf ++ more) =
      match repeatRounds go p spare s' more with
      | (t, .error e) => (t, .error e)
      | (t, .ok (rest, later)) => (t, .ok (rest, as ++ later)) := by
  induction h with
  | @stop n s buf =>
    rw [hrest, length_nil, Nat.zero_add, nil_append]
    rcases repeatRounds go p spare s more with ⟨t, _ | ⟨rest, later⟩⟩ <;> rfl
  | @next n s t s' buf mid rest a as hround hfirst _ ih =>
    rw [length_cons, Nat.add_right_comm]
    simp only [repeatRounds, hgo buf more hround, if_true,
      hp s buf t mid a more hfirst, ih hrest]
    rcases repeatRounds go p spare s' more with ⟨t, _ | ⟨rest', later'⟩⟩ <;> rfl

variable (h : repeatWhile go p s buf = (s', .ok ([], as)))
include h

/-- A loop that used up its octets ends in front of what was put behind them, if the loop
does not go on there. -/
theorem repeatWhile_extends (hmore : go more = false) :
    repeatWhile go p s (buf ++ more) = (s', .ok (more, as)) := by
  have hrounds := repeatRounds_eq_ok.mp h
  have hlength := hrounds.length_le
  have hend (n : Nat) : repeatRounds go p n s' more = (s', .ok (more, [])) :=
    repeatRounds_eq_ok.mpr (.stop hmore)
  have hfuel : (buf ++ more).length = as.length + (buf.length - as.length + more.length) := by
    rw [length_append]
    omega
  rw [repeatWhile, hfuel, hrounds.extends hp hgo rfl, hend]
  simp

/-- If the loop goes on there and the parser fails, so does the loop. -/
theorem repeatWhile_extends_error {t : σ} {e : Err ε} (hmore : go more = true) (hne : more ≠ [])
    (herror : p s' more = (t, .error e)) :
    repeatWhile go p s (buf ++ more) = (t, .error e) := by
  have hrounds := repeatRounds_eq_ok.mp h
  have hlength := hrounds.length_le
  have hpos : 0 < more.length := length_pos_iff.mpr hne
  have hfuel : (buf ++ more).length = as.length + (buf.length - as.length + more.length - 1 + 1) := by
    rw [length_append]
    omega
  rw [repeatWhile, hfuel, hrounds.extends hp hgo rfl]
  simp [repeatRounds, hmore, herror]

end Loop

end Extends

end Wire
