import NetCalyx.Wire.Parser

/-!
# Parsers that carry a state

A parser may read and change a state on its way, and the changes stay when it
fails. `Reads p s bs a s'` is the counterpart of `Decodes`: from state `s` the
parser reads exactly `bs` from the front of any input, returns `a` and leaves
state `s'`.

The loop is `repeatWhile`: as long as the rest of the input satisfies a
condition, read one more element. `repeatWhile_ok` is its rule, for a list of
elements whose encodings are read one by one while the state moves on.
-/

namespace Wire
open List

def StateParser (σ ε α : Type) := σ → Octets → σ × Except (Err ε) (Octets × α)

variable {σ ε ε' α β : Type}
variable {s s' : σ} {a : α} {as : List α}

namespace StateParser

def ret (a : α) : StateParser σ ε α := fun s buf => (s, .ok (buf, a))

def andThen (p : StateParser σ ε α) (f : α → StateParser σ ε β) : StateParser σ ε β :=
  fun s buf =>
    match p s buf with
    | (s', .error e) => (s', .error e)
    | (s', .ok (rest, a)) => f a s' rest

instance : Monad (StateParser σ ε) where
  pure := ret
  bind := andThen

/-- A parser that does not use the state. -/
def liftP (p : Parser ε α) : StateParser σ ε α := fun s buf => (s, p buf)

def state : StateParser σ ε σ := fun s buf => (s, .ok (buf, s))

def modify (f : σ → σ) : StateParser σ ε Unit := fun s buf => (f s, .ok (buf, ()))

/-- Read something, and take note of it in the state. -/
abbrev noted (p : Parser ε α) (f : σ → α → σ) : StateParser σ ε α := do
  let a ← liftP p
  modify (f · a)
  pure a

def mapErr (f : ε → ε') (p : StateParser σ ε α) : StateParser σ ε' α := fun s buf =>
  match p s buf with
  | (s', .error e) => (s', .error (e.map f))
  | (s', .ok r) => (s', .ok r)

/-- Run `p` on `data`, drop what it leaves there, and go on with the input. -/
def within (data : Octets) (p : StateParser σ ε α) : StateParser σ ε α := fun s buf =>
  match p s data with
  | (s', .error e) => (s', .error e)
  | (s', .ok (_, a)) => (s', .ok (buf, a))

/-- Run a parser whose state is a part of the state. -/
def zoom {τ : Type} (get : σ → τ) (set : σ → τ → σ) (p : StateParser τ ε α) : StateParser σ ε α :=
  fun s buf =>
    let (t, result) := p (get s) buf
    (set s t, result)

/-- `repeatWhile` with a bound on the number of rounds. -/
def repeatRounds [NomError ε] (go : Octets → Bool) (p : StateParser σ ε α) :
    Nat → StateParser σ ε (List α)
  | 0 => fun s buf =>
    if go buf then (s, .error (.error (NomError.nom .many0))) else (s, .ok (buf, []))
  | n + 1 => fun s buf =>
    if go buf then
      match p s buf with
      | (s', .error e) => (s', .error e)
      | (s', .ok (rest, a)) =>
        match repeatRounds go p n s' rest with
        | (s'', .error e) => (s'', .error e)
        | (s'', .ok (rest', as)) => (s'', .ok (rest', a :: as))
    else (s, .ok (buf, []))

/-- Read elements as long as the input satisfies the condition. A parser that
reads at least one octet in each round needs at most as many rounds as there are
octets; one that does not would repeat for ever, which is the `many0` error. -/
def repeatWhile [NomError ε] (go : Octets → Bool) (p : StateParser σ ε α) :
    StateParser σ ε (List α) := fun s buf =>
  repeatRounds go p buf.length s buf

theorem bind_apply (p : StateParser σ ε α) (f : α → StateParser σ ε β) (s : σ) (buf : Octets) :
    (p >>= f) s buf = match p s buf with
      | (s', .error e) => (s', .error e)
      | (s', .ok (rest, a)) => f a s' rest := rfl

variable {buf rest : Octets} {p : StateParser σ ε α}

/-- A first step that is known to succeed can be taken. -/
theorem run_bind (h : p s buf = (s', .ok (rest, a))) (f : α → StateParser σ ε β) :
    (p >>= f) s buf = f a s' rest := by
  rw [bind_apply, h]

/-- A first step that asks for the state. -/
theorem state_bind (f : σ → StateParser σ ε β) : (state >>= f) s buf = f s s buf := rfl

variable {f : α → StateParser σ ε β}

/-- From a successful sequence, the two successful parts. -/
theorem bind_eq_ok {b : β} (h : (p >>= f) s buf = (s', .ok (rest, b))) :
    ∃ t mid a, p s buf = (t, .ok (mid, a)) ∧ f a t mid = (s', .ok (rest, b)) := by
  rw [bind_apply] at h
  rcases hp : p s buf with ⟨t, r⟩
  rw [hp] at h
  cases r with
  | error e => cases h
  | ok r => exact ⟨t, r.1, r.2, rfl, h⟩

theorem liftP_eq_ok {p : Parser ε α} {r : Octets × α} :
    liftP p s buf = (s', .ok r) ↔ s' = s ∧ p buf = .ok r := by
  simp only [liftP, Prod.mk.injEq, eq_comm]

/-- A first step that does not use the state. -/
theorem liftP_bind_eq_ok {p : Parser ε α} {b : β} (h : (liftP p >>= f) s buf = (s', .ok (rest, b))) :
    ∃ mid a, p buf = .ok (mid, a) ∧ f a s mid = (s', .ok (rest, b)) := by
  obtain ⟨t, mid, a, hlift, hf⟩ := bind_eq_ok h
  obtain ⟨rfl, hp⟩ := liftP_eq_ok.mp hlift
  exact ⟨mid, a, hp, hf⟩

theorem mapErr_eq_ok {f : ε → ε'} {r : Octets × α} (h : mapErr f p s buf = (s', .ok r)) :
    p s buf = (s', .ok r) := by
  unfold mapErr at h
  rcases hp : p s buf with ⟨t, q⟩
  rw [hp] at h
  cases q with
  | error e => cases h
  | ok q =>
    cases h
    rfl

/-- What is run on delimited octets leaves the input as it was. -/
theorem within_eq_ok {data : Octets} :
    within data p s buf = (s', .ok (rest, a)) ↔
      rest = buf ∧ ∃ left, p s data = (s', .ok (left, a)) := by
  unfold within
  rcases hp : p s data with ⟨t, q⟩
  cases q with
  | error e => simp
  | ok q =>
    obtain ⟨left, a'⟩ := q
    simp only [Prod.mk.injEq, Except.ok.injEq]
    constructor
    · rintro ⟨rfl, rfl, rfl⟩
      exact ⟨rfl, left, rfl, rfl, rfl⟩
    · rintro ⟨rfl, left', rfl, rfl, rfl⟩
      exact ⟨rfl, rfl, rfl⟩

/-- A last step that only builds the result. -/
theorem run_map (h : p s buf = (s', .ok (rest, a))) (f : α → β) :
    (p >>= fun x => pure (f x)) s buf = (s', .ok (rest, f a)) :=
  run_bind h _

end StateParser

open StateParser

variable {p : StateParser σ ε α}

/-- From state `s`, `p` reads exactly `bs` from the front of any input, returns
`a` and leaves state `s'`. -/
def Reads (p : StateParser σ ε α) (s : σ) (bs : Octets) (a : α) (s' : σ) : Prop :=
  ∀ rest, p s (bs ++ rest) = (s', .ok (rest, a))

namespace Reads

variable {bs : Octets}

theorem run_nil (h : Reads p s bs a s') : p s bs = (s', .ok ([], a)) := by
  simpa using h []

theorem pure (s : σ) (a : α) : Reads (Pure.pure a : StateParser σ ε α) s [] a s := fun _ => rfl

variable (hp : Reads p s bs a s')
include hp

theorem run_bind (f : α → StateParser σ ε β) (rest : Octets) :
    (p >>= f) s (bs ++ rest) = f a s' rest :=
  StateParser.run_bind (hp rest) f

variable {f : α → StateParser σ ε β}

theorem bind {s'' : σ} {cs : Octets} {b : β} (hf : Reads (f a) s' cs b s'') :
    Reads (p >>= f) s (bs ++ cs) b s'' := by
  intro rest
  rw [append_assoc, hp.run_bind]
  exact hf rest

theorem last {s'' : σ} {b : β} (hf : Reads (f a) s' [] b s'') : Reads (p >>= f) s bs b s'' := by
  have h := hp.bind hf
  rwa [append_nil] at h

theorem map (f : α → β) : Reads (p >>= fun x => Pure.pure (f x)) s bs (f a) s' :=
  hp.last (pure s' (f a))

omit hp

theorem liftP {p : Parser ε α} (hp : Decodes p bs a) (s : σ) :
    Reads (StateParser.liftP p) s bs a s := by
  intro rest
  rw [StateParser.liftP, hp rest]

theorem modify (f : σ → σ) (s : σ) :
    Reads (StateParser.modify f : StateParser σ ε Unit) s [] () (f s) := fun _ => rfl

theorem noted {p : Parser ε α} (hp : Decodes p bs a) (f : σ → α → σ) (s : σ) :
    Reads (StateParser.noted p f) s bs a (f s a) := by
  intro rest
  rw [StateParser.noted, (liftP hp s).run_bind]
  rfl

theorem mapErr (hp : Reads p s bs a s') (f : ε → ε') :
    Reads (StateParser.mapErr f p) s bs a s' := by
  intro rest
  rw [StateParser.mapErr, hp rest]

theorem within {data left : Octets} (h : p s data = (s', .ok (left, a))) :
    Reads (StateParser.within data p) s [] a s' := by
  intro rest
  rw [StateParser.within, h]
  rfl

end Reads

/-! ## The rule for the loop -/

/-- The elements are read one after the other, each from the state that the ones
before it leave. -/
def ReadsEach (p : StateParser σ ε α) (enc : α → Octets) (next : σ → α → σ) :
    σ → List α → Prop
  | _, [] => True
  | s, a :: as => Reads p s (enc a) a (next s a) ∧ ReadsEach p enc next (next s a) as

theorem ReadsEach.of_forall {enc : α → Octets} {next : σ → α → σ}
    (h : ∀ a ∈ as, ∀ s, Reads p s (enc a) a (next s a)) (s : σ) : ReadsEach p enc next s as := by
  induction as generalizing s with
  | nil => trivial
  | cons a as ih =>
    exact ⟨h a mem_cons_self s, ih (fun b hb => h b (mem_cons_of_mem a hb)) (next s a)⟩

section Loop

variable {go : Octets → Bool} {enc : α → Octets} {next : σ → α → σ}

/-- A loop that comes to an end within `n` rounds: what they read, the state that they leave and
the octets before which the loop stops. -/
inductive Rounds (go : Octets → Bool) (p : StateParser σ ε α) :
    Nat → σ → Octets → List α → σ → Octets → Prop
  | stop {n : Nat} {s : σ} {buf : Octets} (h : go buf = false) : Rounds go p n s buf [] s buf
  | next {n : Nat} {s t s' : σ} {buf mid rest : Octets} {a : α} {as : List α} (h : go buf = true)
      (hp : p s buf = (t, .ok (mid, a))) (hrest : Rounds go p n t mid as s' rest) :
      Rounds go p (n + 1) s buf (a :: as) s' rest

theorem rounds_of_reads {tail : Octets} {n : Nat} (hread : ReadsEach p enc next s as)
    (hgo : ∀ a ∈ as, ∀ rest, go (enc a ++ rest) = true) (htail : go tail = false)
    (hn : as.length ≤ n) :
    Rounds go p n s (as.flatMap enc ++ tail) as (as.foldl next s) tail := by
  induction as generalizing s n with
  | nil => exact .stop htail
  | cons a as ih =>
    rw [forall_mem_cons] at hgo
    obtain ⟨n, rfl⟩ := Nat.exists_eq_add_one_of_ne_zero (Nat.ne_zero_of_lt hn)
    rw [flatMap_cons, append_assoc]
    exact .next (hgo.1 _) (hread.1 _) (ih hread.2 hgo.2 (Nat.le_of_succ_le_succ hn))

variable [NomError ε]

theorem repeatRounds_eq_ok {n : Nat} {buf rest : Octets} :
    StateParser.repeatRounds go p n s buf = (s', .ok (rest, as)) ↔
      Rounds go p n s buf as s' rest := by
  constructor
  · intro h
    induction n generalizing s buf as with
    | zero =>
      unfold StateParser.repeatRounds at h
      split at h
      · cases h
      · cases h
        exact .stop (Bool.eq_false_iff.mpr ‹_›)
    | succ n ih =>
      unfold StateParser.repeatRounds at h
      split at h
      · rename_i hgo
        rcases hp : p s buf with ⟨t, e | ⟨mid, a⟩⟩
        · simp [hp] at h
        · rcases hrest : StateParser.repeatRounds go p n t mid with ⟨t', e | r⟩
          · simp [hp, hrest] at h
          · simp only [hp, hrest] at h
            cases h
            exact .next hgo hp (ih hrest)
      · cases h
        exact .stop (Bool.eq_false_iff.mpr ‹_›)
  · intro h
    induction h with
    | @stop n s buf hgo => cases n <;> simp [StateParser.repeatRounds, hgo]
    | next hgo hp _ ih => simp only [StateParser.repeatRounds, hgo, if_true, hp, ih]

variable (go) in
/-- Elements that make the loop go on, and a tail that ends it. -/
theorem repeatWhile_ok {tail : Octets} (hread : ReadsEach p enc next s as)
    (hgo : ∀ a ∈ as, ∀ rest, go (enc a ++ rest) = true) (htail : go tail = false)
    (hne : ∀ a ∈ as, enc a ≠ []) :
    repeatWhile go p s (as.flatMap enc ++ tail) =
      (as.foldl next s, .ok (tail, as)) := by
  refine repeatRounds_eq_ok.mpr (rounds_of_reads hread hgo htail ?_)
  rw [length_append]
  have := length_le_flatMap hne
  omega

theorem not_isEmpty_append {bs : Octets} (h : bs ≠ []) (rest : Octets) :
    (!(bs ++ rest).isEmpty) = true := by
  simp [h]

/-- The loop that ends when nothing is left. -/
theorem repeatWhile_tillEmpty (hread : ReadsEach p enc next s as) (hne : ∀ a ∈ as, enc a ≠ []) :
    repeatWhile (fun buf => !buf.isEmpty) p s (as.flatMap enc) =
      (as.foldl next s, .ok ([], as)) := by
  rw [← append_nil (as.flatMap enc)]
  exact repeatWhile_ok _ hread (fun a ha => not_isEmpty_append (hne a ha)) rfl hne

variable (go) in
/-- The loop over a parser that does not use the state. -/
theorem repeatWhile_liftP {q : Parser ε α} {tail : Octets} (hread : ∀ a ∈ as, Decodes q (enc a) a)
    (hgo : ∀ a ∈ as, ∀ rest, go (enc a ++ rest) = true) (htail : go tail = false)
    (hne : ∀ a ∈ as, enc a ≠ []) (s : σ) :
    repeatWhile go (.liftP q) s (as.flatMap enc ++ tail) = (s, .ok (tail, as)) := by
  have hloop := repeatWhile_ok _ (ReadsEach.of_forall (fun a ha s => Reads.liftP (hread a ha) s) s)
    hgo htail hne
  rwa [foldl_fixed] at hloop

variable {item : β → Octets}

/-- The loop over items that are read from any state, each of which gives `val` and adds to
the state what `next` says. -/
theorem repeatWhile_items {val : β → α} (add : σ → β → σ) {bs : List β}
    (hread : ∀ b ∈ bs, ∀ s, Reads p s (item b) (val b) (add s b)) (hne : ∀ b ∈ bs, item b ≠ []) :
    repeatWhile (fun buf => !buf.isEmpty) p s (bs.flatMap item) =
      (bs.foldl add s, .ok ([], bs.map val)) := by
  have hn := length_le_flatMap hne
  refine repeatRounds_eq_ok.mpr ?_
  generalize (bs.flatMap item).length = n at hn
  induction bs generalizing s n with
  | nil => exact .stop rfl
  | cons b bs ih =>
    rw [forall_mem_cons] at hread hne
    obtain ⟨n, rfl⟩ := Nat.exists_eq_add_one_of_ne_zero (Nat.ne_zero_of_lt hn)
    exact .next (not_isEmpty_append hne.1 _) (hread.1 s _)
      (ih hread.2 hne.2 n (Nat.le_of_succ_le_succ hn))

/-- The loop over framed items, when an item can be read or not whatever the state: it reads
one element for each item if and only if every item can be read. -/
theorem repeatWhile_framed_iff {Good : β → Prop} {V : β → α → Prop} {I : σ → Prop} {bs : List β}
    (hgood : ∀ b, Good b → ∀ s, I s → ∃ a s', Reads p s (item b) a s' ∧ V b a ∧ I s')
    (hbad : ∀ b s rest s' r, I s → p s (item b ++ rest) = (s', .ok r) → Good b)
    (hne : ∀ b, item b ≠ []) (hs : I s) :
    (∃ s' as, repeatWhile (fun buf => !buf.isEmpty) p s (bs.flatMap item) =
        (s', .ok ([], as)) ∧ List.Forall₂ V bs as) ↔ ∀ b ∈ bs, Good b := by
  have hn : bs.length ≤ (bs.flatMap item).length := length_le_flatMap fun b _ => hne b
  simp only [repeatWhile, repeatRounds_eq_ok]
  generalize (bs.flatMap item).length = n at hn
  induction bs generalizing s n with
  | nil => exact iff_of_true ⟨s, [], .stop rfl, .nil⟩ (by simp)
  | cons b bs ih =>
    obtain ⟨n, rfl⟩ := Nat.exists_eq_add_one_of_ne_zero (Nat.ne_zero_of_lt hn)
    rw [forall_mem_cons, flatMap_cons]
    have hnext := fun t (ht : I t) => ih ht n (Nat.le_of_succ_le_succ hn)
    constructor
    · rintro ⟨s', as, hrounds, hall⟩
      generalize hbuf : item b ++ bs.flatMap item = buf, hend : ([] : Octets) = rest at hrounds
      cases hrounds with
      | stop hstop => cases hall
      | next _ hp hrest =>
        subst hbuf hend
        have hb := hbad b s _ _ _ hs hp
        obtain ⟨a, t, hread, -, ht⟩ := hgood b hb s hs
        cases (hread _).symm.trans hp
        exact ⟨hb, (hnext _ ht).mp ⟨s', _, hrest, (forall₂_cons.mp hall).2⟩⟩
    · rintro ⟨hb, hbs⟩
      obtain ⟨a, t, hread, hv, ht⟩ := hgood b hb s hs
      obtain ⟨s', as, hrest, hall⟩ := (hnext t ht).mpr hbs
      exact ⟨s', a :: as, .next (not_isEmpty_append (hne b) _) (hread _) hrest, .cons hv hall⟩

end Loop

/-! ## Parsers that do not look at their state

A parser that only takes notes gives the same result from every state. What is
said once for a change `f` of the state is how the notes taken before a parse stay
apart from those taken in it.
-/

/-- It makes no difference whether the state is changed by `f` before the parse or
behind it. -/
def Commutes (f : σ → σ) (p : StateParser σ ε α) : Prop :=
  ∀ s buf, p (f s) buf = (f (p s buf).1, (p s buf).2)

namespace Commutes

variable {f : σ → σ}

theorem pure (a : α) : Commutes f (Pure.pure a : StateParser σ ε α) := fun _ _ => rfl

theorem liftP (p : Parser ε α) : Commutes f (StateParser.liftP p : StateParser σ ε α) :=
  fun _ _ => rfl

theorem modify {g : σ → σ} (h : ∀ s, g (f s) = f (g s)) :
    Commutes f (StateParser.modify g : StateParser σ ε Unit) := by
  intro s buf
  simp only [StateParser.modify, h]

theorem bind {q : α → StateParser σ ε β} (hp : Commutes f p) (hq : ∀ a, Commutes f (q a)) :
    Commutes f (p >>= q) := by
  intro s buf
  show andThen p q (f s) buf =
    (f (andThen p q s buf).1, (andThen p q s buf).2)
  unfold andThen
  rw [hp s buf]
  rcases p s buf with ⟨s', r⟩
  cases r with
  | error e => rfl
  | ok r => exact hq r.2 s' r.1

theorem ite {c : Prop} [Decidable c] {p q : StateParser σ ε α} (hp : Commutes f p)
    (hq : Commutes f q) : Commutes f (if c then p else q) := by
  split
  · exact hp
  · exact hq

theorem mapErr (hp : Commutes f p) (g : ε → ε') : Commutes f (StateParser.mapErr g p) := by
  intro s buf
  unfold StateParser.mapErr
  rw [hp s buf]
  rcases p s buf with ⟨s', r⟩
  cases r <;> rfl

theorem within (hp : Commutes f p) (data : Octets) : Commutes f (StateParser.within data p) := by
  intro s buf
  unfold StateParser.within
  rw [hp s data]
  rcases p s data with ⟨s', r⟩
  cases r <;> rfl

theorem repeatRounds [NomError ε] (hp : Commutes f p) (go : Octets → Bool) (n : Nat) :
    Commutes f (StateParser.repeatRounds go p n) := by
  induction n with
  | zero =>
    intro s buf
    unfold StateParser.repeatRounds
    split <;> rfl
  | succ n ih =>
    intro s buf
    unfold StateParser.repeatRounds
    split
    · rw [hp s buf]
      rcases p s buf with ⟨s', r⟩
      cases r with
      | error e => rfl
      | ok r =>
        -- the state of the round has moved past `f`, and the other rounds do the same
        simp only [ih s' r.1]
        rcases StateParser.repeatRounds go p n s' r.1 with ⟨s'', r'⟩
        cases r' <;> rfl
    · rfl

theorem repeatWhile [NomError ε] (hp : Commutes f p) (go : Octets → Bool) :
    Commutes f (repeatWhile go p) :=
  fun s buf => hp.repeatRounds go buf.length s buf

end Commutes

end Wire
