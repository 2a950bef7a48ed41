import NetCalyx.Wire.Positional
import NetCalyx.Wire.Settled
import NetCalyx.Wire.Stateful

/-!
# Loops that end

`Takes k p` says that `p` reads at least `k` octets when it succeeds, and `ReadsFront k p` that these
octets alone decide what it returns. `Fixed k p` says that it reads exactly `k` octets, and that these
decide what it does also where it fails. A loop over a parser ends when each round reads at least one
octet. The loops of this library have as many rounds as there are
octets and answer with the `many0` error when these are used up, where the loop of a program would
go on. `Unrolls` is the loop of a program, without a bound: what it leads to is reached after
finitely many rounds. `ends_repeatWhile` and `unrolls_parseTillEmpty` say that a loop whose
rounds all read something leads to what the library computes.

What the rounds of a loop note in the state adds up (`Notes.repeatWhile`).
-/

namespace Wire
open StateParser List

variable {σ τ ε ε' α β : Type}

/-! ## What a parser reads -/

/-- Whenever `p` succeeds, it has read exactly `k` octets. -/
def Drops (k : Nat) (p : Parser ε α) : Prop :=
  ∀ buf rest a, p buf = .ok (rest, a) → rest = buf.drop k

theorem Drops.beUint [NomError ε] (w : Nat) : Drops (w / 8) (Wire.beUint w : Parser ε _) := by
  intro buf rest x h
  obtain ⟨mid, bs, hbs, hx⟩ := Parser.bind_eq_ok h
  obtain ⟨hlen, rfl⟩ := takeOr_eq_ok.mp hbs
  cases hx
  rw [← hlen, drop_left]

theorem Drops.mapRes {k : Nat} {p : Parser ε α} (hp : Drops k p) (f : α → Except ε β) :
    Drops k (Wire.mapRes p f) := by
  intro buf rest b h
  obtain ⟨a, ha, -⟩ := mapRes_eq_ok.mp h
  exact hp buf rest a ha

/-- Whenever `p` succeeds, it has read at least `k` octets. -/
def Takes (k : Nat) (p : Parser ε α) : Prop :=
  ∀ buf rest a, p buf = .ok (rest, a) → rest.length + k ≤ buf.length

/-- What `p` accepts has a front of at least `k` octets that `p` reads in the same way, whatever
follows. -/
def ReadsFront (k : Nat) (p : Parser ε α) : Prop :=
  ∀ buf rest a, p buf = .ok (rest, a) →
    ∃ front, buf = front ++ rest ∧ k ≤ front.length ∧ Decodes p front a

namespace ReadsFront

variable {p : Parser ε α} {k : Nat}

theorem takes (h : ReadsFront k p) : Takes k p := by
  intro buf rest a ha
  obtain ⟨front, rfl, hle, -⟩ := h buf rest a ha
  rw [length_append]
  omega

theorem mono {k' : Nat} (h : ReadsFront k p) (hle : k' ≤ k) : ReadsFront k' p := by
  intro buf rest a ha
  obtain ⟨front, hbuf, hfront, hread⟩ := h buf rest a ha
  exact ⟨front, hbuf, hle.trans hfront, hread⟩

theorem any (h : ReadsFront k p) : ReadsFront 0 p :=
  h.mono (Nat.zero_le k)

theorem pure (a : α) : ReadsFront 0 (Pure.pure a : Parser ε α) := by
  intro buf rest b hb
  cases hb
  exact ⟨[], rfl, le_refl _, .pure a⟩

theorem fail (k : Nat) (e : ε) : ReadsFront k (Parser.fail e : Parser ε α) := by
  intro buf rest a ha
  cases ha

theorem lift (r : Except ε α) : ReadsFront 0 (Parser.lift r) := by
  cases r with
  | error e => exact fail 0 e
  | ok a => exact pure a

variable {go : Octets → Bool} {buf rest : Octets} {as : List α} {f : α → Parser ε β} {s' s : σ}
variable (hp : ReadsFront k p)
include hp

theorem bind {m : Nat} (hf : ∀ a, ReadsFront m (f a)) : ReadsFront (k + m) (p >>= f) := by
  intro buf rest b hb
  obtain ⟨mid, a, ha, hrest⟩ := Parser.bind_eq_ok hb
  obtain ⟨front, rfl, hfront, hread⟩ := hp buf mid a ha
  obtain ⟨behind, rfl, hbehind, hread'⟩ := hf a mid rest b hrest
  refine ⟨front ++ behind, (append_assoc ..).symm, ?_, hread.bind hread'⟩
  rw [length_append]
  exact Nat.add_le_add hfront hbehind

/-- A first step that already reads enough. -/
theorem first {m : α → Nat} (hf : ∀ a, ReadsFront (m a) (f a)) : ReadsFront k (p >>= f) :=
  hp.bind fun a => (hf a).any

theorem ite {c : Prop} [Decidable c] {q : Parser ε α} (hq : ReadsFront k q) :
    ReadsFront k (if c then p else q) := by
  split
  · exact hp
  · exact hq

theorem mapErr (f : ε → ε') : ReadsFront k (Parser.mapErr f p) := by
  intro buf rest a ha
  obtain ⟨front, hbuf, hle, hread⟩ := hp buf rest a (Parser.mapErr_eq_ok.mp ha)
  exact ⟨front, hbuf, hle, hread.mapErr f⟩

theorem mapRes (f : α → Except ε β) : ReadsFront k (Wire.mapRes p f) :=
  hp.first fun a => lift (f a)

omit hp

theorem take [NomError ε] (n : Nat) : ReadsFront n (Wire.take n : Parser ε Octets) := by
  intro buf rest bs h
  obtain ⟨hlen, rfl⟩ := takeOr_eq_ok.mp h
  exact ⟨bs, rfl, hlen.ge, decodes_take hlen⟩

theorem beUint [NomError ε] (w : Nat) : ReadsFront (w / 8) (Wire.beUint w : Parser ε _) :=
  (take (w / 8)).first fun _ => pure _

theorem within {data : Octets} : ReadsFront 0 (Parser.within data p) := by
  intro buf rest a ha
  obtain ⟨rfl, left, hleft⟩ := Parser.within_eq_ok.mp ha
  exact ⟨[], rfl, le_refl _, .within hleft⟩

theorem count (hp : ReadsFront k p) (n : Nat) : ReadsFront (n * k) (Wire.count p n) := by
  induction n with
  | zero => exact (pure []).mono (by omega)
  | succ n ih =>
    refine (hp.bind fun a => ih.first fun as => pure (a :: as)).mono ?_
    rw [Nat.succ_mul]
    omega

theorem readEach {read : τ → Parser ε α} {least : τ → Nat}
    (h : ∀ spec, ReadsFront (least spec) (read spec)) (specs : List τ) :
    ReadsFront (specs.map least).sum (Wire.readEach read specs) := by
  induction specs with
  | nil => exact pure []
  | cons spec specs ih => exact (h spec).bind fun _ => ih.first fun _ => pure _

end ReadsFront

/-- `p` takes `k` octets, and what it makes of them does not depend on what follows. -/
structure Fixed (k : Nat) (p : Parser ε α) : Prop where
  enough : ∀ buf rest a, p buf = .ok (rest, a) → k ≤ buf.length
  settles : ∀ bs : Octets, bs.length = k → Settles p bs

namespace Fixed

variable {k m : Nat} {p : Parser ε α}

/-- A parser that is computed from the first octets. -/
theorem of_eq {r : Octets → Except ε α}
    (h : ∀ buf, k ≤ buf.length → p buf = settled (r (buf.take k)) (buf.drop k))
    (hshort : ∀ buf, buf.length < k → ∃ e, p buf = .error e) : Fixed k p where
  enough buf rest a ha := by
    by_contra hlt
    obtain ⟨e, he⟩ := hshort buf (not_le.mp hlt)
    rw [he] at ha
    cases ha
  settles bs hbs := by
    refine ⟨r bs, fun rest => ?_⟩
    rw [h _ (by rw [length_append]; omega), take_left' hbs, drop_left' hbs]

theorem readsFront (h : Fixed k p) : ReadsFront k p := by
  intro buf rest a ha
  have hlength : (buf.take k).length = k := length_take_of_le (h.enough buf rest a ha)
  obtain ⟨r, hr⟩ := h.settles (buf.take k) hlength
  have hbuf := hr (buf.drop k)
  rw [take_append_drop, ha] at hbuf
  cases r with
  | error e => cases hbuf
  | ok b =>
    cases hbuf
    exact ⟨_, (take_append_drop k buf).symm, hlength.ge, hr⟩

theorem fail (k : Nat) (e : ε) : Fixed k (Parser.fail e : Parser ε α) :=
  ⟨nofun, fun _ _ => ⟨.error e, fun _ => rfl⟩⟩

theorem lift (r : Except ε α) : Fixed 0 (Parser.lift r) where
  enough _ _ _ _ := Nat.zero_le _
  settles bs hbs := by
    obtain rfl := eq_nil_of_length_eq_zero hbs
    exact .lift r

theorem pure (a : α) : Fixed 0 (Pure.pure a : Parser ε α) := lift (.ok a)

theorem bind (hp : Fixed k p) (hf : ∀ a, Fixed m (f a)) :
    Fixed (k + m) (p >>= f) where
  enough buf rest b hb := by
    obtain ⟨mid, a, ha, hrest⟩ := Parser.bind_eq_ok hb
    have hmid := (hf a).enough mid rest b hrest
    have htakes := hp.readsFront.takes buf mid a ha
    omega
  settles bs hbs := by
    rw [← take_append_drop k bs]
    exact (hp.settles _ (length_take_of_le (by omega))).bind fun a =>
      (hf a).settles _ (by rw [length_drop]; omega)

theorem first (hp : Fixed k p) (hf : ∀ a, Fixed 0 (f a)) : Fixed k (p >>= f) :=
  hp.bind hf

theorem mapErr (hp : Fixed k p) (f : ε → ε') : Fixed k (Parser.mapErr f p) where
  enough buf rest a ha := hp.enough buf rest a (Parser.mapErr_eq_ok.mp ha)
  settles bs hbs := (hp.settles bs hbs).mapErr f

theorem mapRes (hp : Fixed k p) (f : α → Except ε β) : Fixed k (Wire.mapRes p f) :=
  hp.first fun a => lift (f a)

theorem take [NomError ε] (n : Nat) : Fixed n (Wire.take n : Parser ε Octets) :=
  of_eq (r := .ok) (fun _ hlong => if_pos hlong) fun _ hshort => ⟨_, if_neg (not_le.mpr hshort)⟩

theorem beUint [NomError ε] (w : Nat) : Fixed (w / 8) (Wire.beUint w : Parser ε _) :=
  (take (w / 8)).first fun _ => pure _

theorem takeArray [NomError ε] (n : Nat) : Fixed n (Wire.takeArray n : Parser ε _) where
  enough buf rest bs h := by
    unfold Wire.takeArray at h
    split at h
    · assumption
    · cases h
  settles bs hbs := (decodes_takeArray ⟨bs, hbs⟩).settles

theorem count (hp : Fixed k p) (n : Nat) : Fixed (n * k) (Wire.count p n) := by
  induction n with
  | zero =>
    rw [Nat.zero_mul]
    exact pure []
  | succ n ih =>
    rw [Nat.succ_mul, Nat.add_comm]
    exact hp.bind fun a => ih.first fun as => pure (a :: as)

theorem readEach {read : τ → Parser ε α} {size : τ → Nat} {specs : List τ}
    (h : ∀ spec ∈ specs, Fixed (size spec) (read spec)) :
    Fixed (specs.map size).sum (Wire.readEach read specs) := by
  induction specs with
  | nil => exact pure []
  | cons spec specs ih =>
    rw [forall_mem_cons] at h
    exact h.1.bind fun _ => (ih h.2).first fun _ => pure _

end Fixed

/-! ## Parsers that carry a state -/

/-- Whenever `p` succeeds, from any state, it has read at least `k` octets. -/
def TakesState (k : Nat) (p : StateParser σ ε α) : Prop :=
  ∀ s s' buf rest a, p s buf = (s', .ok (rest, a)) → rest.length + k ≤ buf.length

namespace TakesState

theorem pure (a : α) : TakesState 0 (Pure.pure a : StateParser σ ε α) := by
  intro s s' buf rest b hb
  cases hb
  exact le_refl _

theorem modify (f : σ → σ) : TakesState 0 (StateParser.modify f : StateParser σ ε Unit) := by
  intro s s' buf rest b hb
  cases hb
  exact le_refl _

variable {k : Nat}

theorem liftP {p : Parser ε α} (hp : Takes k p) : TakesState k (liftP p : StateParser σ ε α) := by
  intro s s' buf rest a ha
  exact hp buf rest a (liftP_eq_ok.mp ha).2

variable {p : StateParser σ ε α} {f : α → StateParser σ ε β}

theorem bind {k m : Nat} (hp : TakesState k p) (hf : ∀ a, TakesState m (f a)) :
    TakesState (k + m) (p >>= f) := by
  intro s s' buf rest b hb
  obtain ⟨t, mid, a, ha, hb⟩ := bind_eq_ok hb
  have hfirst := hp s t buf mid a ha
  have hsecond := hf a t s' mid rest b hb
  omega

theorem first (hp : TakesState k p) (hf : ∀ a, TakesState 0 (f a)) : TakesState k (p >>= f) :=
  hp.bind hf

theorem mapErr (hp : TakesState k p) (f : ε → ε') :
    TakesState k (mapErr f p) := fun s s' buf rest a ha =>
  hp s s' buf rest a (mapErr_eq_ok ha)

theorem within {data : Octets} : TakesState 0 (StateParser.within data p) := by
  intro s s' buf rest a ha
  obtain ⟨rfl, -⟩ := within_eq_ok.mp ha
  exact le_refl _

theorem noted {p : Parser ε α} (hp : Takes k p) (f : σ → α → σ) :
    TakesState k (StateParser.noted p f) :=
  (liftP hp).first fun a => (modify _).first fun _ => pure a

end TakesState

/-! ## Rounds -/

/-- A loop that reads one more element as long as the condition holds. -/
inductive Unrolls (go : σ → Octets → Bool) (p : StateParser σ ε α) :
    σ → Octets → σ × Except (Err ε) (Octets × List α) → Prop where
  | stops {s : σ} {buf : Octets} (h : go s buf = false) : Unrolls go p s buf (s, .ok (buf, []))
  | fails {s s' : σ} {buf : Octets} {e : Err ε} (h : go s buf = true)
      (hp : p s buf = (s', .error e)) : Unrolls go p s buf (s', .error e)
  | next {s s' : σ} {buf rest : Octets} {a : α} {result : σ × Except (Err ε) (Octets × List α)}
      (h : go s buf = true) (hp : p s buf = (s', .ok (rest, a))) (hrest : Unrolls go p s' rest result) :
      Unrolls go p s buf (result.1, result.2.map fun r => (r.1, a :: r.2))

theorem Unrolls.rest_le {go : σ → Octets → Bool} {p : StateParser σ ε α}
    (h : Unrolls go p s buf (s', .ok (rest, as))) (hp : TakesState 0 p) :
    rest.length ≤ buf.length := by
  generalize hresult : (s', (.ok (rest, as) : Except (Err ε) _)) = result at h
  induction h generalizing as with
  | stops h =>
    cases hresult
    exact le_refl _
  | fails h hround => cases hresult
  | @next t t' buf mid a result h hround hrest ih =>
    obtain ⟨u, e | r⟩ := result
    · cases hresult
    · cases hresult
      exact (ih rfl).trans (hp _ _ _ _ _ hround)

/-- The loop over `p` ends, from any state and on any input, and leads to what the library
computes. -/
def Ends [NomError ε] (go : Octets → Bool) (p : StateParser σ ε α) : Prop :=
  ∀ s buf, Unrolls (fun _ => go) p s buf (repeatWhile go p s buf)

/-- With a round for each octet, a loop whose rounds all read something ends before its rounds
do. -/
theorem unrolls_repeatRounds [NomError ε] {p : StateParser σ ε α} (hgo : go [] = false)
    (htakes : ∀ s s' buf rest a, go buf = true → p s buf = (s', .ok (rest, a)) → rest.length < buf.length)
    {n : Nat} (s : σ) (hn : buf.length ≤ n) :
    Unrolls (fun _ => go) p s buf (repeatRounds go p n s buf) := by
  induction n generalizing s buf with
  | zero =>
    have hbuf : buf = [] := eq_nil_of_length_eq_zero (Nat.le_zero.mp hn)
    subst hbuf
    have hstops : repeatRounds go p 0 s [] = (s, .ok ([], [])) := by
      simp only [repeatRounds, hgo, Bool.false_eq_true, if_false]
    rw [hstops]
    exact .stops hgo
  | succ n ih =>
    unfold repeatRounds
    cases hb : go buf with
    | false => exact .stops hb
    | true =>
      simp only [if_true]
      rcases hp : p s buf with ⟨t, e | ⟨rest, a⟩⟩
      · exact .fails hb hp
      · have hless := htakes s t buf rest a hb hp
        have hrest := Unrolls.next hb hp (ih t (show rest.length ≤ n by omega))
        dsimp only
        generalize repeatRounds go p n t rest = rounds at hrest ⊢
        obtain ⟨t', e | r⟩ := rounds
        · exact hrest
        · exact hrest

theorem ends_repeatWhile [NomError ε] {p : StateParser σ ε α} (hgo : go [] = false)
    (htakes : ∀ s s' buf rest a, go buf = true → p s buf = (s', .ok (rest, a)) → rest.length < buf.length) :
    Ends go p :=
  fun s _ => unrolls_repeatRounds hgo htakes s (le_refl _)

/-- A loop over a parser that always reads something. -/
theorem ends_of_takes [NomError ε] {p : StateParser σ ε α} (hgo : go [] = false)
    (htakes : TakesState 1 p) : Ends go p :=
  ends_repeatWhile hgo fun s s' buf rest a _ ha => htakes s s' buf rest a ha

theorem parseRounds_eq_repeatRounds [NomError ε] (p : Parser ε α) (n : Nat) (buf : Octets) :
    repeatRounds (fun buf => !buf.isEmpty) (.liftP p) n () buf =
      ((), parseRounds p n buf) := by
  induction n generalizing buf with
  | zero => cases buf <;> rfl
  | succ n ih =>
    cases buf with
    | nil => rfl
    | cons b bs =>
      simp only [repeatRounds, liftP, parseRounds]
      cases hp : p (b :: bs) with
      | error e => rfl
      | ok r =>
        simp only [ih]
        cases parseRounds p n r.1 <;> rfl

theorem unrolls_parseTillEmpty [NomError ε] {p : Parser ε α} (htakes : Takes 1 p) (buf : Octets) :
    Unrolls (fun _ buf => !buf.isEmpty) (.liftP p) () buf ((), parseTillEmpty p buf) := by
  rw [parseTillEmpty, ← parseRounds_eq_repeatRounds]
  exact ends_of_takes rfl (.liftP htakes) () buf

/-! ## What a loop has read -/

theorem Rounds.length_le {p : StateParser σ ε α} {n : Nat} (h : Rounds go p n s buf as s' rest) :
    as.length ≤ n := by
  induction h with
  | stop => exact Nat.zero_le _
  | next _ _ _ ih => exact Nat.succ_le_succ ih

theorem exists_rounds [NomError ε] {p : StateParser σ ε α}
    (h : repeatWhile go p s buf = (s', .ok (rest, as))) :
    ∃ n, Rounds go p n s buf as s' rest :=
  ⟨_, repeatRounds_eq_ok.mp h⟩

/-- What is true of all that a round can read is true of all elements. -/
theorem forall_of_repeatWhile [NomError ε] {p : StateParser σ ε α} {P : α → Prop}
    (hp : ∀ s s' buf rest a, p s buf = (s', .ok (rest, a)) → P a)
    (h : repeatWhile go p s buf = (s', .ok (rest, as))) : ∀ a ∈ as, P a := by
  obtain ⟨n, hrounds⟩ := exists_rounds h
  clear h
  induction hrounds with
  | stop => exact nofun
  | next _ hround _ ih => exact forall_mem_cons.mpr ⟨hp _ _ _ _ _ hround, ih⟩

/-- There are no more elements than octets. -/
theorem length_of_repeatWhile [NomError ε] {p : StateParser σ ε α}
    (h : repeatWhile go p s buf = (s', .ok (rest, as))) : as.length ≤ buf.length :=
  (repeatRounds_eq_ok.mp h).length_le

/-- Whenever `p` succeeds, the state has moved on by what it returns. -/
def Notes (p : StateParser σ ε α) (next : σ → α → σ) : Prop :=
  ∀ s s' buf rest a, p s buf = (s', .ok (rest, a)) → s' = next s a

namespace Notes

variable {p : StateParser σ ε α} {next : σ → α → σ}

theorem noted (p : Parser ε α) (next : σ → α → σ) : Notes (StateParser.noted p next) next := by
  intro s s' buf rest a h
  obtain ⟨_, _, _, hread, hnote⟩ := bind_eq_ok h
  obtain ⟨rfl, -⟩ := liftP_eq_ok.mp hread
  cases hnote
  rfl

theorem mapErr (hp : Notes p next) (f : ε → ε') : Notes (mapErr f p) next :=
  fun s s' buf rest a h => hp s s' buf rest a (mapErr_eq_ok h)

theorem liftP (p : Parser ε α) : Notes (liftP p : StateParser σ ε α) fun s _ => s :=
  fun _ _ _ _ _ h => (liftP_eq_ok.mp h).1

theorem repeatWhile [NomError ε] (hp : Notes p next)
    (h : repeatWhile go p s buf = (s', .ok (rest, as))) : s' = as.foldl next s := by
  obtain ⟨n, hrounds⟩ := exists_rounds h
  clear h
  induction hrounds with
  | stop => rfl
  | next _ hround _ ih => rw [ih, foldl_cons, hp _ _ _ _ _ hround]

end Notes

end Wire
