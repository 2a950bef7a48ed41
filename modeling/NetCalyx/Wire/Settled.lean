import NetCalyx.Wire.Parser

/-!
# Parsers that stay within their octets

`Decodes` speaks of octets that a parser accepts. `Settles p bs` covers refusals as well:
the octets `bs` decide what `p` does, whatever follows them. It leaves exactly what
follows, or it refuses, with the same error each time.

A parser that runs on delimited octets settles by itself, as long as it never asks for
more input (`Whole`).
-/

namespace Wire

variable {ε ε' α β : Type}

/-! ## Parsers that do not wait -/

/-- The parser never asks for more input. -/
def Whole (p : Parser ε α) : Prop := ∀ buf needed, p buf ≠ .error (.incomplete needed)

variable {p : Parser ε α} {bs : Octets} {f : α → Parser ε β}

namespace Whole

theorem pure (a : α) : Whole (Pure.pure a : Parser ε α) := by
  rintro buf needed ⟨⟩

theorem lift (r : Except ε α) : Whole (Parser.lift r) := by
  intro buf needed h
  unfold Parser.lift at h
  cases r <;> cases h

theorem fail (e : ε) : Whole (Parser.fail e : Parser ε α) := by
  rintro buf needed ⟨⟩

theorem ite {c : Prop} [Decidable c] {q : Parser ε α} (hp : Whole p) (hq : Whole q) :
    Whole (if c then p else q) := by
  split
  · exact hp
  · exact hq

theorem bind (hp : Whole p) (hf : ∀ a, Whole (f a)) : Whole (p >>= f) := by
  intro buf needed h
  rw [Parser.bind_apply] at h
  cases hr : p buf with
  | error err =>
    rw [hr] at h
    cases h
    exact hp buf needed hr
  | ok r =>
    rw [hr] at h
    exact hf r.2 r.1 needed h

theorem within (hp : Whole p) (data : Octets) : Whole (Parser.within data p) := by
  intro buf needed h
  unfold Parser.within at h
  split at h
  · rename_i e hdata
    cases h
    exact hp data needed hdata
  · cases h

theorem mapErr (hp : Whole p) (f : ε → ε') : Whole (Parser.mapErr f p) := by
  intro buf needed h
  unfold Parser.mapErr at h
  split at h
  · rename_i e he
    cases e with
    | incomplete needed => exact hp buf needed he
    | error e => cases h
  · cases h

theorem mapRes (hp : Whole p) (f : α → Except ε β) : Whole (Wire.mapRes p f) :=
  hp.bind fun _ => lift _

theorem take [NomError ε] (n : Nat) : Whole (Wire.take n : Parser ε Octets) := by
  intro buf needed h
  unfold Wire.take takeOr at h
  split at h <;> cases h

theorem beUint [NomError ε] (w : Nat) : Whole (Wire.beUint w : Parser ε (BitVec w)) :=
  (take _).bind fun _ => pure _

theorem parseTillEmpty [NomError ε] (hp : Whole p) : Whole (Wire.parseTillEmpty p) := by
  have hrounds (n : Nat) : Whole (parseRounds p n) := by
    induction n with
    | zero =>
      intro buf needed h
      cases buf <;> cases h
    | succ n ih =>
      intro buf needed h
      cases buf with
      | nil => cases h
      | cons b bs =>
        rw [parseRounds] at h
        cases hb : p (b :: bs) with
        | error err =>
          rw [hb] at h
          cases h
          exact hp _ needed hb
        | ok r =>
          cases hmid : parseRounds p n r.1 with
          | error err =>
            simp only [hb, hmid] at h
            cases h
            exact ih _ needed hmid
          | ok r' => simp [hb, hmid] at h
  exact fun buf => hrounds buf.length buf

end Whole

/-! ## Octets that decide -/

/-- What a parser returns that leaves `rest` or refuses. -/
def settled (r : Except ε α) (rest : Octets) : Except (Err ε) (Octets × α) :=
  match r with
  | .ok a => .ok (rest, a)
  | .error e => .error (.error e)

/-- What `p` does is decided by `bs`, whatever follows. -/
def Settles (p : Parser ε α) (bs : Octets) : Prop :=
  ∃ r : Except ε α, ∀ rest, p (bs ++ rest) = settled r rest

theorem Decodes.settles {a : α} (h : Decodes p bs a) : Settles p bs :=
  ⟨.ok a, h⟩

namespace Settles

theorem lift (r : Except ε α) : Settles (Parser.lift r) [] := by
  refine ⟨r, fun rest => ?_⟩
  cases r <;> rfl

theorem bind {cs : Octets} (hp : Settles p bs) (hf : ∀ a, Settles (f a) cs) :
    Settles (p >>= f) (bs ++ cs) := by
  obtain ⟨r, hr⟩ := hp
  cases r with
  | error e =>
    refine ⟨.error e, fun rest => ?_⟩
    rw [List.append_assoc, Parser.bind_apply, hr]
    rfl
  | ok a =>
    obtain ⟨r, hcs⟩ := hf a
    refine ⟨r, fun rest => ?_⟩
    rw [List.append_assoc, Parser.bind_apply, hr]
    exact hcs rest

/-- What follows is settled for what is read in front of it. -/
theorem after {cs : Octets} {a : α} (hp : Decodes p bs a) (hf : Settles (f a) cs) :
    Settles (p >>= f) (bs ++ cs) := by
  obtain ⟨r, hr⟩ := hf
  refine ⟨r, fun rest => ?_⟩
  rw [List.append_assoc, hp.run_bind]
  exact hr rest

/-- The steps that follow read nothing. -/
theorem last (hp : Settles p bs) (hf : ∀ a, Settles (f a) []) : Settles (p >>= f) bs := by
  have h := hp.bind hf
  rwa [List.append_nil] at h

theorem map (hp : Settles p bs) (f : α → β) : Settles (p >>= fun a => pure (f a)) bs :=
  hp.last fun a => (Decodes.pure (f a)).settles

theorem mapErr (hp : Settles p bs) (f : ε → ε') : Settles (Parser.mapErr f p) bs := by
  obtain ⟨r, hr⟩ := hp
  refine ⟨r.mapError f, fun rest => ?_⟩
  rw [Parser.mapErr, hr]
  cases r <;> rfl

theorem mapRes (hp : Settles p bs) (f : α → Except ε β) : Settles (Wire.mapRes p f) bs :=
  hp.last fun a => lift (f a)

theorem within (hp : Whole p) (data : Octets) : Settles (Parser.within data p) [] := by
  unfold Parser.within
  cases hdata : p data with
  | ok r => exact ⟨.ok r.2, fun rest => rfl⟩
  | error err =>
    cases err with
    | incomplete needed => exact absurd hdata (hp data needed)
    | error e => exact ⟨.error e, fun rest => rfl⟩

/-- As many octets as the number has. -/
theorem beUint [NomError ε] {w : Nat} (h : w % 8 = 0) (hlen : bs.length = w / 8) :
    Settles (Wire.beUint w : Parser ε (BitVec w)) bs :=
  (decodes_ofOctets h hlen).settles

/-- Octets behind their length, and a parser that runs on them. -/
theorem delimited [NomError ε] (hp : Whole p) {data : Octets} (hfit : data.length < 256) :
    Settles (lengthData beU8 >>= fun bs => Parser.within bs p)
      (BitVec.ofNat 8 data.length :: data) :=
  (decodes_lengthData_u8 hfit).settles.last fun bs => within hp bs

end Settles

end Wire
