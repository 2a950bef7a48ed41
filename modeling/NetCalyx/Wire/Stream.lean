import NetCalyx.Wire.Octets

/-!
# Decoders fed from a stream

A decoder is called on a buffer: it takes something off the front and returns it, or
it asks for more. `drain` calls it until it asks for more, and `feed` appends one
chunk after the other to the buffer, with a `drain` after each.

`Incremental decode Inv` collects what makes the cuts invisible: more input behind the
buffer does not change what a call returns, and a call that had to wait leaves
nothing behind that a later call could see. The invariant `Inv` relates the state,
the buffer and what is still to come, so that it may speak about the whole stream.
`Incremental.feed_eq` is the result: any chunking gives what the stream gives at once.
-/

namespace Wire

variable {σ β o : Type}

/-- One call: the state after it, what it leaves in the buffer, and what it returns;
`none` asks for more input. -/
def Decoder (σ β o : Type) := σ → List β → σ × List β × Option o

/-- What several calls leave, and all they returned. -/
structure Drained (σ β o : Type) where
  state : σ
  rest : List β
  items : List o

/-- Items that were returned before. -/
def Drained.behind (items : List o) (later : Drained σ β o) : Drained σ β o :=
  { later with items := items ++ later.items }

/-- `drain` with a bound on the number of calls. -/
def drainRounds (decode : Decoder σ β o) : Nat → σ → List β → Drained σ β o
  | 0, s, buf => ⟨s, buf, []⟩
  | n + 1, s, buf =>
    match decode s buf with
    | (s', rest, none) => ⟨s', rest, []⟩
    | (s', rest, some item) => (drainRounds decode n s' rest).behind [item]

/-- Call the decoder until it asks for more. One that takes something off the buffer
with each item needs at most one call more than there are elements. -/
def drain (decode : Decoder σ β o) (s : σ) (buf : List β) : Drained σ β o :=
  drainRounds decode (buf.length + 1) s buf

/-- Append the chunks one by one, and drain the buffer after each. -/
def feed (decode : Decoder σ β o) : σ → List β → List (List β) → Drained σ β o
  | s, buf, [] => ⟨s, buf, []⟩
  | s, buf, chunk :: chunks =>
    let first := drain decode s (buf ++ chunk)
    (feed decode first.state first.rest chunks).behind first.items

/-- A call that takes an item off the buffer, whatever of the future stands behind the
buffer already. -/
structure Returns (decode : Decoder σ β o) (s : σ) (buf future : List β) (s' : σ) (rest : List β)
    (item : o) : Prop where
  shorter : rest.length < buf.length
  run : ∀ more, more <+: future → decode s (buf ++ more) = (s', rest ++ more, some item)

/-- A call that has to wait, of which a later call sees nothing. -/
structure Waits (decode : Decoder σ β o) (s : σ) (buf future : List β) (s' : σ) (rest : List β) :
    Prop where
  shorter : rest.length ≤ buf.length
  run : decode s buf = (s', rest, none)
  resume : ∀ more, more <+: future → decode s' (rest ++ more) = decode s (buf ++ more)

variable {decode : Decoder σ β o} {s s' : σ} {buf rest more future : List β} {item : o}

theorem Returns.run_now (h : Returns decode s buf future s' rest item) :
    decode s buf = (s', rest, some item) := by
  simpa using h.run [] List.nil_prefix

/-- Part of the future has arrived. -/
theorem Returns.append (h : Returns decode s buf (more ++ future) s' rest item) :
    Returns decode s (buf ++ more) future s' (rest ++ more) item where
  shorter := by simpa using h.shorter
  run further hfurther := by
    obtain ⟨later, rfl⟩ := hfurther
    simpa using h.run (more ++ further) ⟨later, by simp⟩

/-- A decoder that does not notice where its input was cut. The invariant is about
the state, the buffer and the input still to come. -/
structure Incremental (decode : Decoder σ β o) (Inv : σ → List β → List β → Prop) : Prop where
  call : ∀ {s buf future}, Inv s buf future →
    (∃ s' rest, Waits decode s buf future s' rest ∧ Inv s' rest future) ∨
      ∃ s' rest item, Returns decode s buf future s' rest item ∧ Inv s' rest future
  arrives : ∀ {s buf more future}, Inv s buf (more ++ future) → Inv s (buf ++ more) future

namespace Incremental

variable {Inv : σ → List β → List β → Prop}

theorem drain_none (h : decode s buf = (s', rest, none)) : drain decode s buf = ⟨s', rest, []⟩ := by
  simp [drain, drainRounds, h]

section

variable (hd : Incremental decode Inv)
include hd

/-- More rounds than elements change nothing. -/
theorem drainRounds_eq (hi : Inv s buf future) {n m : Nat} (hn : buf.length < n)
    (hm : buf.length < m) : drainRounds decode n s buf = drainRounds decode m s buf := by
  induction n generalizing s buf m with
  | zero => omega
  | succ n ih =>
    obtain ⟨m, rfl⟩ : ∃ k, m = k + 1 := ⟨m - 1, by omega⟩
    obtain ⟨s', rest, hwait, -⟩ | ⟨s', rest, item, hret, hi'⟩ := hd.call hi
    · simp only [drainRounds, hwait.run]
    · have hlt := hret.shorter
      simp only [drainRounds, hret.run_now, ih hi' (show rest.length < n by omega)
        (show rest.length < m by omega)]

theorem drain_some (h : Returns decode s buf future s' rest item) (hi : Inv s' rest future) :
    drain decode s buf = (drain decode s' rest).behind [item] := by
  have hrounds := hd.drainRounds_eq hi h.shorter (Nat.lt_succ_self rest.length)
  simp only [drain, drainRounds, h.run_now, hrounds]

/-- A call that had to wait can be made again with what it has left. -/
theorem drain_resume (h : Waits decode s buf (more ++ future) s' rest)
    (hi : Inv s' rest (more ++ future)) :
    drain decode s' (rest ++ more) = drain decode s (buf ++ more) := by
  have hshorter := h.shorter
  have hrounds := hd.drainRounds_eq (hd.arrives hi) (Nat.lt_succ_self (rest ++ more).length)
    (show (rest ++ more).length < (buf ++ more).length + 1 by simp; omega)
  rw [drain, Nat.add_one, hrounds]
  simp only [drain, drainRounds, h.resume more (List.prefix_append _ _)]

/-- When the buffer is drained, the invariant holds again and nothing more can be taken. -/
theorem drain_settled (hi : Inv s buf future) :
    Inv (drain decode s buf).state (drain decode s buf).rest future ∧
      decode (drain decode s buf).state (drain decode s buf).rest =
        ((drain decode s buf).state, (drain decode s buf).rest, none) := by
  induction hlen : buf.length using Nat.strongRecOn generalizing s buf with
  | _ n ih =>
    obtain ⟨s', rest, hwait, hi'⟩ | ⟨s', rest, item, hret, hi'⟩ := hd.call hi
    · -- with nothing new, the call that waits is the same call again
      have hagain := hwait.resume [] List.nil_prefix
      simp only [List.append_nil] at hagain
      rw [drain_none hwait.run]
      exact ⟨hi', hagain.trans hwait.run⟩
    · have hlt := hret.shorter
      rw [hd.drain_some hret hi']
      exact ih rest.length (by omega) hi' rfl

/-- Draining a longer buffer is draining its front, and then what is left of it
together with the other part. -/
theorem drain_append (hi : Inv s buf (more ++ future)) :
    drain decode s (buf ++ more) =
      (drain decode (drain decode s buf).state ((drain decode s buf).rest ++ more)).behind
        (drain decode s buf).items := by
  induction hlen : buf.length using Nat.strongRecOn generalizing s buf with
  | _ n ih =>
    obtain ⟨s', rest, hwait, hi'⟩ | ⟨s', rest, item, hret, hi'⟩ := hd.call hi
    · rw [drain_none hwait.run]
      exact (hd.drain_resume hwait hi').symm
    · have hlt := hret.shorter
      rw [hd.drain_some hret.append (hd.arrives hi'), hd.drain_some hret hi',
        ih rest.length (by omega) hi' rfl]
      rfl

/-- Any chunking of a stream gives what the stream gives at once. -/
theorem feed_eq {chunks : List (List β)} (hi : Inv s buf chunks.flatten)
    (hsettled : decode s buf = (s, buf, none)) :
    feed decode s buf chunks = drain decode s (buf ++ chunks.flatten) := by
  induction chunks generalizing s buf with
  | nil => simp [feed, drain_none hsettled]
  | cons chunk chunks ih =>
    have hfirst := hd.arrives hi
    have hwhole : Inv s (buf ++ chunk) (chunks.flatten ++ []) := by rwa [List.append_nil]
    obtain ⟨hi', hrest⟩ := hd.drain_settled hfirst
    rw [feed, ih hi' hrest, List.flatten_cons, ← List.append_assoc]
    exact (hd.drain_append hwhole).symm

end

end Incremental

/-! ## Decoders that fail -/

/-- A decoder whose calls may fail. After a failure the state is `none`, and nothing more is
returned. -/
def untilError {ε : Type} (decode : σ → List β → σ × List β × Except ε (Option o)) :
    Decoder (Option σ) β o
  | none, _ => (none, [], none)
  | some s, buf =>
    match decode s buf with
    | (s', rest, .ok item) => (some s', rest, item)
    | (_, _, .error _) => (none, [], none)

section UntilError

variable {ε : Type} {decode : σ → List β → σ × List β × Except ε (Option o)}

theorem waits_untilError_none : Waits (untilError decode) none buf future none [] :=
  ⟨Nat.zero_le _, rfl, fun _ _ => rfl⟩

theorem waits_untilError (hrest : rest.length ≤ buf.length)
    (hrun : decode s buf = (s', rest, .ok none))
    (hresume : ∀ more, more <+: future → decode s' (rest ++ more) = decode s (buf ++ more)) :
    Waits (untilError decode) (some s) buf future (some s') rest :=
  ⟨hrest, by rw [untilError, hrun], fun more hmore => by
    rw [untilError, untilError, hresume more hmore]⟩

theorem returns_untilError (hrest : rest.length < buf.length)
    (hrun : ∀ more, more <+: future → decode s (buf ++ more) = (s', rest ++ more, .ok (some item))) :
    Returns (untilError decode) (some s) buf future (some s') rest item :=
  ⟨hrest, fun more hmore => by rw [untilError, hrun more hmore]⟩

theorem fails_untilError
    (hrun : ∀ more, more <+: future → ∃ s' rest err, decode s (buf ++ more) = (s', rest, .error err)) :
    Waits (untilError decode) (some s) buf future none [] := by
  have hfails (more : List β) (hmore : more <+: future) :
      untilError decode (some s) (buf ++ more) = (none, [], none) := by
    obtain ⟨s', rest, err, herr⟩ := hrun more hmore
    rw [untilError, herr]
  refine ⟨Nat.zero_le _, ?_, fun more hmore => (hfails more hmore).symm⟩
  simpa using hfails [] List.nil_prefix

end UntilError

end Wire
