import NetCalyx.Wire.Octets

/-!
# Parsers of octet strings

A parser takes the octets that are left and returns either an error or what it
read together with the octets still to read. The combinators are those of a
byte-oriented parser-combinator library: fixed-width numbers, `take`, a length
field followed by that many octets, a fixed number of repetitions, and
repetition until the input is used up.

`Decodes p bs a` says that `p` reads exactly `bs` from the front of any input
and returns `a`. It is stated for every continuation of the input, so it
composes: `Decodes.bind` chains two parsers, `decodes_lengthData` handles a
length field, and `parseTillEmpty_ok` lifts an element parser to a list.

`Yields p P` says that whatever `p` returns satisfies `P`. It bounds what can be
read back at all, and composes in the same way.
-/

namespace Wire
open List

/-- Why a combinator gives up. -/
inductive ErrorKind where
  | eof
  | many0
  | nonEmpty

/-- Error types that can carry the failure of a combinator. -/
class NomError (ε : Type) where
  nom : ErrorKind → ε

/-- How a parser fails. Only an `error` is converted on the way up: a request
for more input is passed on as it is. -/
inductive Err (ε : Type) where
  | incomplete (needed : Nat)
  | error (e : ε)

def Err.map {ε ε' : Type} (f : ε → ε') : Err ε → Err ε'
  | incomplete needed => .incomplete needed
  | error e => .error (f e)

def Parser (ε α : Type) := Octets → Except (Err ε) (Octets × α)

variable {ε ε' α β γ : Type}
variable {p : Parser ε α} {bs rest buf data : Octets} {a : α} {f : α → Parser ε β} {n : Nat}
  {as : List α}

namespace Parser

def ret (a : α) : Parser ε α := fun buf => .ok (buf, a)

variable (p)

def andThen (f : α → Parser ε β) : Parser ε β := fun buf =>
  match p buf with
  | .error e => .error e
  | .ok (rest, a) => f a rest

instance : Monad (Parser ε) where
  pure := ret
  bind := andThen

def fail (e : ε) : Parser ε α := fun _ => .error (.error e)

/-- The octets that are left, without reading them. -/
def input : Parser ε Octets := fun buf => .ok (buf, buf)

/-- Turn a result computed without reading into a parser. -/
def lift (r : Except ε α) : Parser ε α := fun buf =>
  match r with
  | .error e => .error (.error e)
  | .ok a => .ok (buf, a)

/-- Run a parser whose errors are of another type. -/
def mapErr (f : ε → ε') (p : Parser ε α) : Parser ε' α := fun buf =>
  match p buf with
  | .error e => .error (e.map f)
  | .ok r => .ok r

/-- Run `p` on `data`, drop what it leaves there, and go on with the input. -/
def within (data : Octets) (p : Parser ε α) : Parser ε α := fun buf =>
  match p data with
  | .error e => .error e
  | .ok (_, a) => .ok (buf, a)

/-- What `p` would read, without reading it. -/
def peek : Parser ε α := fun buf =>
  match p buf with
  | .error e => .error e
  | .ok (_, a) => .ok (buf, a)

@[simp] theorem pure_apply (a : α) (buf : Octets) :
    (pure a : Parser ε α) buf = .ok (buf, a) := rfl

@[simp] theorem bind_apply (f : α → Parser ε β) (buf : Octets) :
    (p >>= f) buf = match p buf with
      | .error e => .error e
      | .ok (rest, a) => f a rest := rfl

variable {p}

@[simp] theorem input_apply (buf : Octets) : (input : Parser ε Octets) buf = .ok (buf, buf) := rfl

/-- From a successful sequence, the two successful parts. -/
theorem bind_eq_ok {b : β} (h : (p >>= f) buf = .ok (rest, b)) :
    ∃ mid a, p buf = .ok (mid, a) ∧ f a mid = .ok (rest, b) := by
  rw [bind_apply] at h
  cases hp : p buf with
  | error e => simp [hp] at h
  | ok r => exact ⟨r.1, r.2, rfl, by simpa [hp] using h⟩

/-- A last step that only builds the result. -/
theorem input_bind (f : Octets → Parser ε α) (buf : Octets) :
    ((input : Parser ε Octets) >>= f) buf = f buf buf := rfl

theorem run_map (h : p buf = .ok (rest, a)) (f : α → β) :
    (p >>= fun x => pure (f x)) buf = .ok (rest, f a) := by
  rw [bind_apply, h]
  rfl

theorem mapErr_eq_ok {f : ε → ε'} {r : Octets × α} : mapErr f p buf = .ok r ↔ p buf = .ok r := by
  unfold mapErr
  cases p buf <;> simp

theorem within_eq_ok :
    within data p buf = .ok (rest, a) ↔ rest = buf ∧ ∃ left, p data = .ok (left, a) := by
  unfold within
  cases hp : p data with
  | error e => simp
  | ok r =>
    obtain ⟨left, a'⟩ := r
    simp [eq_comm]

end Parser

/-! ## Primitive parsers -/

/-- Exactly `n` octets, or the failure for the number of octets missing. -/
def takeOr (n : Nat) (missing : Nat → Err ε) : Parser ε Octets := fun buf =>
  if n ≤ buf.length then .ok (buf.drop n, buf.take n) else .error (missing (n - buf.length))

def take [NomError ε] (n : Nat) : Parser ε Octets :=
  takeOr n fun _ => .error (NomError.nom .eof)

/-- A `take` that asks for the missing octets. -/
def takeStreaming (n : Nat) : Parser ε Octets :=
  takeOr n .incomplete

/-- An array of `n` octets. -/
def takeArray [NomError ε] (n : Nat) : Parser ε (OctetArray n) := fun buf =>
  if h : n ≤ buf.length then .ok (buf.drop n, ⟨buf.take n, length_take_of_le h⟩)
  else .error (.error (NomError.nom .eof))

/-- An unsigned number of `w` bits in network byte order. -/
def beUint [NomError ε] (w : Nat) : Parser ε (BitVec w) := do
  let bs ← take (w / 8)
  return ofOctets w bs

def beU8 [NomError ε] : Parser ε (BitVec 8) := beUint 8
def beU16 [NomError ε] : Parser ε (BitVec 16) := beUint 16
def beU32 [NomError ε] : Parser ε (BitVec 32) := beUint 32
def beU64 [NomError ε] : Parser ε (BitVec 64) := beUint 64
def beU128 [NomError ε] : Parser ε (BitVec 128) := beUint 128

/-- Apply a partial conversion to what a parser read. -/
def mapRes (p : Parser ε α) (f : α → Except ε β) : Parser ε β := do
  let a ← p
  Parser.lift (f a)

/-- A length field, then that many octets. -/
def lengthData {w : Nat} (p : Parser ε (BitVec w)) : Parser ε Octets := do
  let n ← p
  takeStreaming n.toNat

/-- `n` elements in a row. -/
def count (p : Parser ε α) : Nat → Parser ε (List α)
  | 0 => pure []
  | n + 1 => do
    let a ← p
    let as ← count p n
    return a :: as

/-- `parseTillEmpty` with a bound on the number of rounds. -/
def parseRounds [NomError ε] (p : Parser ε α) : Nat → Parser ε (List α)
  | _, [] => .ok ([], [])
  | 0, _ => .error (.error (NomError.nom .many0))
  | n + 1, b :: bs =>
    match p (b :: bs) with
    | .error e => .error e
    | .ok (rest, a) =>
      match parseRounds p n rest with
      | .error e => .error e
      | .ok (rest', as) => .ok (rest', a :: as)

/-- Repeat `p` until no octet is left. A parser that reads at least one octet
in each round needs at most as many rounds as there are octets; one that
succeeds without reading would repeat for ever, which is the `many0` error. -/
def parseTillEmpty [NomError ε] (p : Parser ε α) : Parser ε (List α) := fun buf =>
  parseRounds p buf.length buf

theorem mapRes_eq_ok {f : α → Except ε β} {b : β} :
    mapRes p f buf = .ok (rest, b) ↔ ∃ a, p buf = .ok (rest, a) ∧ f a = .ok b := by
  constructor
  · intro h
    obtain ⟨mid, a, ha, hb⟩ := Parser.bind_eq_ok h
    cases hf : f a with
    | error e =>
      rw [hf] at hb
      cases hb
    | ok b =>
      rw [hf] at hb
      cases hb
      exact ⟨a, ha, hf⟩
  · rintro ⟨a, ha, hf⟩
    rw [mapRes, Parser.bind_apply, ha]
    simp only [hf]
    rfl

theorem takeOr_eq_ok {missing : Nat → Err ε} :
    takeOr n missing buf = .ok (rest, bs) ↔ bs.length = n ∧ buf = bs ++ rest := by
  constructor
  · intro h
    unfold takeOr at h
    split at h
    · rename_i hn
      simp only [Except.ok.injEq, Prod.mk.injEq] at h
      obtain ⟨rfl, rfl⟩ := h
      exact ⟨by simp [hn], by simp⟩
    · simp at h
  · rintro ⟨rfl, rfl⟩
    simp [takeOr]

/-! ## Reading back a given encoding -/

/-- `p` reads exactly `bs` from the front of any input and returns `a`. -/
def Decodes (p : Parser ε α) (bs : Octets) (a : α) : Prop :=
  ∀ rest, p (bs ++ rest) = .ok (rest, a)

namespace Decodes

theorem run_nil (h : Decodes p bs a) : p bs = .ok ([], a) := by
  simpa using h []

theorem pure (a : α) : Decodes (Pure.pure a : Parser ε α) [] a := fun _ => rfl

variable (hp : Decodes p bs a)
include hp

/-- A first step that is known to succeed can be taken. -/
theorem run_bind (f : α → Parser ε β) (rest : Octets) : (p >>= f) (bs ++ rest) = f a rest := by
  rw [Parser.bind_apply, hp]

variable {b : β}

theorem bind {cs : Octets} (hf : Decodes (f a) cs b) : Decodes (p >>= f) (bs ++ cs) b := by
  intro rest
  rw [append_assoc, hp.run_bind]
  exact hf rest

/-- A last step that reads nothing. -/
theorem last (hf : Decodes (f a) [] b) : Decodes (p >>= f) bs b := by
  have h := hp.bind hf
  rwa [append_nil] at h

/-- The last step of a parser usually only builds the result. -/
theorem map (f : α → β) : Decodes (p >>= fun x => Pure.pure (f x)) bs (f a) :=
  hp.last (pure (f a))

theorem mapErr (f : ε → ε') : Decodes (Parser.mapErr f p) bs a := fun rest =>
  Parser.mapErr_eq_ok.mpr (hp rest)

omit hp

theorem lift : Decodes (Parser.lift (.ok a) : Parser ε α) [] a := fun _ => rfl

theorem mapRes {f : α → Except ε β} (hp : Decodes p bs a) (hf : f a = .ok b) :
    Decodes (Wire.mapRes p f) bs b := by
  intro rest
  simp only [Wire.mapRes, Parser.bind_apply, hp rest, hf]
  rfl

/-- Parsing a delimited part does not touch the input. -/
theorem within {left : Octets} (h : p data = .ok (left, a)) :
    Decodes (Parser.within data p) [] a := fun _ =>
  Parser.within_eq_ok.mpr ⟨rfl, left, h⟩

/-- What is parsed from octets cut out before does not depend on what follows. -/
theorem of_within {f : α → β}
    (h : (do let a ← Parser.within data p; Pure.pure (f a)) buf = .ok (rest, b)) :
    rest = buf ∧ Decodes (do let a ← Parser.within data p; Pure.pure (f a)) [] b := by
  obtain ⟨mid, a, ha, h⟩ := Parser.bind_eq_ok h
  cases h
  obtain ⟨rfl, left, hleft⟩ := Parser.within_eq_ok.mp ha
  exact ⟨rfl, (within hleft).map f⟩

/-- Cut out some octets and parse inside them. -/
theorem delimited {p : Parser ε Octets} {q : Parser ε α} {left : Octets} (hp : Decodes p bs data)
    (hq : q data = .ok (left, a)) : Decodes (p >>= fun data => Parser.within data q) bs a :=
  hp.last (within hq)

end Decodes

/-- The octets are read as `a` exactly under a condition, and then from the front
of any input. -/
structure ReadsIff (P : Prop) (p : Parser ε α) (bs : Octets) (a : α) : Prop where
  run_iff : p bs = .ok ([], a) ↔ P
  decodes (h : P) : Decodes p bs a

/-- What a partial conversion gives depends on the conversion alone. -/
theorem Decodes.readsIff_mapRes {P : Prop} {f : α → Except ε β} {b : β} (hp : Decodes p bs a)
    (hf : f a = .ok b ↔ P) : ReadsIff P (Wire.mapRes p f) bs b where
  run_iff := by
    refine Iff.trans ⟨fun h => ?_, fun h => (hp.mapRes h).run_nil⟩ hf
    obtain ⟨mid, a', ha, hlift⟩ := Parser.bind_eq_ok h
    rw [hp.run_nil] at ha
    cases ha
    rw [Parser.lift.eq_def] at hlift
    cases hf : f a with
    | error e => simp [hf] at hlift
    | ok b' => simpa [hf] using hlift
  decodes h := hp.mapRes (hf.mpr h)

theorem Decodes.readsIff_bind {P : Prop} {cs : Octets} {b : β} (hp : Decodes p bs a)
    (hf : ReadsIff P (f a) cs b) : ReadsIff P (p >>= f) (bs ++ cs) b where
  run_iff := by rw [hp.run_bind, hf.run_iff]
  decodes h := hp.bind (hf.decodes h)

/-- A length field that fits its width, followed by that many octets. -/
theorem decodes_lengthData {w : Nat} {p : Parser ε (BitVec w)} {field : Octets}
    (hp : Decodes p field (BitVec.ofNat w data.length)) (hfit : data.length < 2 ^ w) :
    Decodes (lengthData p) (field ++ data) data := by
  refine hp.bind ?_
  rw [BitVec.toNat_ofNat, Nat.mod_eq_of_lt hfit]
  exact fun rest => takeOr_eq_ok.mpr ⟨rfl, rfl⟩

/-- Behind a length field that does not fit, the excess is left over. -/
theorem lengthData_leftover {w : Nat} {p : Parser ε (BitVec w)} {field body : Octets}
    (hp : Decodes p field (BitVec.ofNat w body.length))
    (h : lengthData p (field ++ body) = .ok (rest, data)) :
    rest.length = body.length - body.length % 2 ^ w := by
  obtain ⟨mid, n, hn, hdata⟩ := Parser.bind_eq_ok h
  rw [hp body] at hn
  cases hn
  rw [BitVec.toNat_ofNat] at hdata
  obtain ⟨hlen, rfl⟩ := takeOr_eq_ok.mp hdata
  rw [← hlen, length_append]
  omega

section Primitives

variable [NomError ε]

theorem decodes_take (h : bs.length = n) : Decodes (take n : Parser ε Octets) bs bs :=
  fun _ => takeOr_eq_ok.mpr ⟨h, rfl⟩

theorem decodes_takeArray (bs : OctetArray n) : Decodes (takeArray n : Parser ε _) bs.val bs := by
  intro rest
  have hlen : bs.val.length = n := bs.property
  have hle : n ≤ (bs.val ++ rest).length := by
    rw [length_append]
    omega
  rw [takeArray, dif_pos hle, drop_left' hlen]
  simp only [take_left' hlen]

theorem decodes_beUint {w : Nat} (h : w % 8 = 0) (x : BitVec w) :
    Decodes (beUint w : Parser ε (BitVec w)) (octets x) x := by
  have hr := (decodes_take (ε := ε) (octets_length x)).map (ofOctets w)
  rw [ofOctets_octets h] at hr
  exact hr

theorem beUint_eq_ok {w : Nat} (h : w % 8 = 0) {x : BitVec w} :
    (beUint w : Parser ε _) buf = .ok (rest, x) ↔ buf = octets x ++ rest := by
  constructor
  · intro hx
    obtain ⟨mid, bs, hbs, hval⟩ := Parser.bind_eq_ok hx
    obtain ⟨hlen, rfl⟩ := takeOr_eq_ok.mp hbs
    cases hval
    rw [octets_ofOctets h bs hlen]
  · rintro rfl
    exact decodes_beUint h x rest

/-- Any octets of the right number are read as some value. -/
theorem decodes_ofOctets {w : Nat} (h : w % 8 = 0) (hlen : bs.length = w / 8) :
    Decodes (beUint w : Parser ε (BitVec w)) bs (ofOctets w bs) := by
  have hread := decodes_beUint (ε := ε) h (ofOctets w bs)
  rwa [octets_ofOctets h bs hlen] at hread

theorem decodes_beU8 (x : BitVec 8) : Decodes (beU8 : Parser ε _) [x] x := by
  have h := decodes_beUint (ε := ε) rfl x
  rwa [octets_u8] at h

theorem beU8_eq_ok {x : BitVec 8} : (beU8 : Parser ε _) buf = .ok (rest, x) ↔ buf = x :: rest := by
  constructor
  · intro h
    cases buf with
    | nil => cases h
    | cons y ys =>
      have hy := decodes_beU8 (ε := ε) y ys
      rw [singleton_append, h] at hy
      cases hy
      rfl
  · rintro rfl
    exact decodes_beU8 x rest

theorem beU8_bind (f : BitVec 8 → Parser ε α) (x : BitVec 8) (rest : Octets) :
    (beU8 >>= f) (x :: rest) = f x rest :=
  (decodes_beU8 x).run_bind f rest

theorem decodes_beU16 (x : BitVec 16) : Decodes (beU16 : Parser ε _) (octets x) x :=
  decodes_beUint rfl x

theorem decodes_beU32 (x : BitVec 32) : Decodes (beU32 : Parser ε _) (octets x) x :=
  decodes_beUint rfl x

theorem decodes_beU64 (x : BitVec 64) : Decodes (beU64 : Parser ε _) (octets x) x :=
  decodes_beUint rfl x

theorem decodes_beU128 (x : BitVec 128) : Decodes (beU128 : Parser ε _) (octets x) x :=
  decodes_beUint rfl x

/-- A one-octet length field that fits, followed by that many octets. -/
theorem decodes_lengthData_u8 (hfit : data.length < 256) :
    Decodes (lengthData beU8 : Parser ε Octets) (BitVec.ofNat 8 data.length :: data) data :=
  decodes_lengthData (decodes_beU8 _) hfit

end Primitives

/-- `n` encodings in a row are read back one by one. -/
theorem decodes_count {enc : α → Octets} (h : ∀ a ∈ as, Decodes p (enc a) a) :
    Decodes (count p as.length) (as.flatMap enc) as := by
  induction as with
  | nil => exact Decodes.pure []
  | cons a as ih =>
    have hrest := ih fun b hb => h b (mem_cons_of_mem a hb)
    exact (h a mem_cons_self).bind (hrest.map (a :: ·))

theorem decodes_countU8 [NomError ε] {value : Octets} (h : value.length = n) :
    Decodes (count beU8 n : Parser ε Octets) value value := by
  have hread := decodes_count fun a (_ : a ∈ value) => decodes_beU8 (ε := ε) a
  rwa [flatMap_singleton', h] at hread

theorem countU8_eq_ok [NomError ε] (h : (count beU8 n : Parser ε Octets) buf = .ok (rest, bs)) :
    bs.length = n ∧ buf = bs ++ rest := by
  induction n generalizing buf bs with
  | zero =>
    cases h
    exact ⟨rfl, rfl⟩
  | succ n ih =>
    obtain ⟨mid, b, hb, h⟩ := Parser.bind_eq_ok h
    obtain ⟨mid', bs', hbs, h⟩ := Parser.bind_eq_ok h
    cases h
    obtain ⟨hlen, rfl⟩ := ih hbs
    exact ⟨by rw [length_cons, hlen], beU8_eq_ok.mp hb⟩

section Repetition

variable [NomError ε]

theorem parseRounds_map {enc : β → Octets} {val : β → α} {bs : List β}
    (h : ∀ b ∈ bs, Decodes p (enc b) (val b) ∧ enc b ≠ []) (hn : bs.length ≤ n) :
    parseRounds p n (bs.flatMap enc) = .ok ([], bs.map val) := by
  induction bs generalizing n with
  | nil => cases n <;> rfl
  | cons b bs ih =>
    obtain ⟨hdec, hne⟩ := h b mem_cons_self
    obtain ⟨x, xs, hx⟩ := exists_cons_of_ne_nil hne
    cases n with
    | zero => simp at hn
    | succ n =>
      have hstep : p (x :: (xs ++ bs.flatMap enc)) = .ok (bs.flatMap enc, val b) := by
        have := hdec (bs.flatMap enc)
        rwa [hx, cons_append] at this
      have hrest := ih (fun c hc => h c (mem_cons_of_mem b hc)) (Nat.le_of_succ_le_succ hn)
      simp only [flatMap_cons, hx, cons_append, parseRounds, hstep, hrest, map_cons]

theorem length_le_flatMap {enc : α → Octets} (h : ∀ a ∈ as, enc a ≠ []) :
    as.length ≤ (as.flatMap enc).length := by
  induction as with
  | nil => simp
  | cons a as ih =>
    have hpos := length_pos_of_ne_nil (h a mem_cons_self)
    have hrest := ih fun b hb => h b (mem_cons_of_mem a hb)
    simp only [flatMap_cons, length_append, length_cons]
    omega

/-- Non-empty encodings in a row are read until nothing is left. What is read
need not be what was written, only a function of it. -/
theorem parseTillEmpty_map {enc : β → Octets} {val : β → α} {bs : List β}
    (h : ∀ b ∈ bs, Decodes p (enc b) (val b) ∧ enc b ≠ []) :
    parseTillEmpty p (bs.flatMap enc) = .ok ([], bs.map val) :=
  parseRounds_map h (length_le_flatMap fun b hb => (h b hb).2)

theorem parseTillEmpty_ok {enc : α → Octets} (h : ∀ a ∈ as, Decodes p (enc a) a ∧ enc a ≠ []) :
    parseTillEmpty p (as.flatMap enc) = .ok ([], as) := by
  have h' : ∀ a ∈ as, Decodes p (enc a) (id a) ∧ enc a ≠ [] := h
  rw [parseTillEmpty_map h', map_id]

end Repetition

/-! ## Writers that can fail -/

/-- How a writer stops: it returns an error, or it panics. -/
inductive Stop (ε : Type) where
  | error (e : ε)
  | panic

def Stop.map {ε ε' : Type} (f : ε → ε') : Stop ε → Stop ε'
  | error e => .error (f e)
  | panic => .panic

theorem mapError_eq_ok {x : Except ε α} {f : ε → ε'} : x.mapError f = .ok a ↔ x = .ok a := by
  cases x <;> simp [Except.mapError]

/-- Two writers one behind the other. -/
def writeBoth (first second : Except ε Octets) : Except ε Octets := do
  let bytes ← first
  let rest ← second
  return bytes ++ rest

variable {bytes : Octets}

theorem writeBoth_eq_ok {first second : Except ε Octets} :
    writeBoth first second = .ok bytes ↔
      ∃ b rest, first = .ok b ∧ second = .ok rest ∧ bytes = b ++ rest := by
  constructor
  · intro h
    cases first with
    | error e => cases h
    | ok b =>
      cases second with
      | error e => cases h
      | ok rest =>
        cases h
        exact ⟨b, rest, rfl, rfl, rfl⟩
  · rintro ⟨b, rest, rfl, rfl, rfl⟩
    rfl

/-- The elements of a list one behind the other, up to the first that fails. -/
def writeAll (write : α → Except ε Octets) : List α → Except ε Octets
  | [] => .ok []
  | a :: as => do
    let bytes ← write a
    let rest ← writeAll write as
    return bytes ++ rest

/-- What a writer that does not fail writes. -/
def written (write : α → Except ε Octets) (a : α) : Octets :=
  match write a with
  | .ok bytes => bytes
  | .error _ => []

variable {write : α → Except ε Octets}

theorem written_eq (h : write a = .ok bytes) : written write a = bytes := by
  rw [written, h]

theorem writeAll_eq_ok (h : writeAll write as = .ok bytes) :
    (∀ a ∈ as, write a = .ok (written write a)) ∧ bytes = as.flatMap (written write) := by
  induction as generalizing bytes with
  | nil =>
    cases h
    exact ⟨by simp, rfl⟩
  | cons a as ih =>
    obtain ⟨first, rest, ha, hrest, rfl⟩ := writeBoth_eq_ok.mp h
    obtain ⟨heach, rfl⟩ := ih hrest
    rw [forall_mem_cons, flatMap_cons, written_eq ha]
    exact ⟨⟨ha, heach⟩, rfl⟩

/-! ## What a parser can return -/

/-- Everything `p` returns satisfies `P`. -/
def Yields (p : Parser ε α) (P : α → Prop) : Prop :=
  ∀ buf rest a, p buf = .ok (rest, a) → P a

namespace Yields

variable {P : α → Prop}

theorem pure (h : P a) : Yields (Pure.pure a : Parser ε α) P := by
  intro buf rest b hb
  cases hb
  exact h

theorem fail {e : ε} : Yields (Parser.fail e : Parser ε α) P := by
  intro buf rest b hb
  cases hb

theorem bind {Q : α → Prop} {P : β → Prop} (hp : Yields p Q) (hf : ∀ a, Q a → Yields (f a) P) :
    Yields (p >>= f) P := by
  intro buf rest b hb
  obtain ⟨mid, a, ha, hb⟩ := Parser.bind_eq_ok hb
  exact hf a (hp buf mid a ha) mid rest b hb

/-- A first step of which nothing is needed. -/
theorem andThen {P : β → Prop} (hf : ∀ a, Yields (f a) P) : Yields (p >>= f) P := by
  intro buf rest b hb
  obtain ⟨mid, a, -, hb⟩ := Parser.bind_eq_ok hb
  exact hf a mid rest b hb

theorem mapErr {f : ε → ε'} (hp : Yields p P) : Yields (Parser.mapErr f p) P := fun buf rest a ha =>
  hp buf rest a (Parser.mapErr_eq_ok.mp ha)

theorem within (hp : Yields p P) : Yields (Parser.within data p) P := by
  intro buf rest a ha
  obtain ⟨-, left, hleft⟩ := Parser.within_eq_ok.mp ha
  exact hp data left a hleft

theorem parseTillEmpty [NomError ε] (hp : Yields p P) :
    Yields (Wire.parseTillEmpty p) (∀ a ∈ ·, P a) := by
  have hrounds : ∀ n, Yields (parseRounds p n) (∀ a ∈ ·, P a) := by
    intro n
    induction n with
    | zero =>
      intro buf rest as has
      cases buf <;> cases has
      simp
    | succ n ih =>
      intro buf rest as has
      cases buf with
      | nil =>
        cases has
        simp
      | cons b bs =>
        rw [parseRounds] at has
        cases hb : p (b :: bs) with
        | error e => simp [hb] at has
        | ok r =>
          obtain ⟨mid, a⟩ := r
          cases hmid : parseRounds p n mid with
          | error e => simp [hb, hmid] at has
          | ok r' =>
            obtain ⟨rest', as'⟩ := r'
            simp only [hb, hmid, Except.ok.injEq, Prod.mk.injEq] at has
            obtain ⟨-, rfl⟩ := has
            simp only [mem_cons, forall_eq_or_imp]
            exact ⟨hp _ _ _ hb, ih _ _ _ hmid⟩
  exact fun buf => hrounds buf.length buf

end Yields

/-! ## How much a parser reads -/

/-- `p` reads as many octets as `size` says of what it returns. -/
def Consumes (p : Parser ε α) (size : α → Nat) : Prop :=
  ∀ buf rest a, p buf = .ok (rest, a) → buf.length = rest.length + size a

namespace Consumes

theorem mapErr {f : ε → ε'} {size : α → Nat} (hp : Consumes p size) :
    Consumes (Parser.mapErr f p) size := fun buf rest a ha =>
  hp buf rest a (Parser.mapErr_eq_ok.mp ha)

theorem takeOr {missing : Nat → Err ε} : Consumes (Wire.takeOr n missing) fun _ => n := by
  intro buf rest bs h
  obtain ⟨hlen, rfl⟩ := takeOr_eq_ok.mp h
  rw [length_append, hlen, Nat.add_comm]

theorem beUint [NomError ε] {w : Nat} : Consumes (Wire.beUint w : Parser ε _) fun _ => w / 8 := by
  intro buf rest a h
  obtain ⟨mid, bs, hbs, h⟩ := Parser.bind_eq_ok h
  cases h
  exact takeOr buf rest bs hbs

theorem fail (e : ε) {size : α → Nat} : Consumes (Parser.fail e : Parser ε α) size := nofun

theorem pure (a : α) : Consumes (Pure.pure a : Parser ε α) fun _ => 0 := by
  rintro buf _ _ ⟨⟩
  rfl

theorem mapRes {f : α → Except ε β} (hp : Consumes p fun _ => n) :
    Consumes (Wire.mapRes p f) fun _ => n := by
  intro buf rest b hb
  obtain ⟨a, ha, -⟩ := mapRes_eq_ok.mp hb
  exact hp buf rest a ha

theorem bind {m k : Nat} (hp : Consumes p fun _ => n) (hf : ∀ a, Consumes (f a) fun _ => m)
    (hk : n + m = k) : Consumes (p >>= f) fun _ => k := by
  intro buf rest b hb
  obtain ⟨mid, a, ha, hrest⟩ := Parser.bind_eq_ok hb
  have hfront : buf.length = mid.length + n := hp buf mid a ha
  have hback : mid.length = rest.length + m := hf a mid rest b hrest
  show buf.length = rest.length + k
  omega

end Consumes

/-! ## Frames -/

/-- Whatever `p` returns it has read from a frame of its input that satisfies
`F`. -/
def Frames (p : Parser ε α) (F : Octets → α → Prop) : Prop :=
  ∀ buf rest a, p buf = .ok (rest, a) → ∃ frame, buf = frame ++ rest ∧ F frame a

/-- What is read until nothing is left is a row of frames, one for each element. -/
theorem Frames.parseTillEmpty [NomError ε] {F : Octets → α → Prop} (hp : Frames p F)
    (h : Wire.parseTillEmpty p buf = .ok (rest, as)) :
    rest = [] ∧ ∃ frames, buf = frames.flatten ∧ List.Forall₂ F frames as := by
  unfold Wire.parseTillEmpty at h
  generalize buf.length = n at h
  induction n generalizing buf as with
  | zero =>
    cases buf with
    | nil =>
      cases h
      exact ⟨rfl, [], rfl, .nil⟩
    | cons b bs => cases h
  | succ n ih =>
    cases buf with
    | nil =>
      cases h
      exact ⟨rfl, [], rfl, .nil⟩
    | cons b bs =>
      rw [parseRounds] at h
      cases hb : p (b :: bs) with
      | error e => simp [hb] at h
      | ok r =>
        obtain ⟨mid, a⟩ := r
        cases hmid : parseRounds p n mid with
        | error e => simp [hb, hmid] at h
        | ok r' =>
          obtain ⟨left, as'⟩ := r'
          simp only [hb, hmid, Except.ok.injEq, Prod.mk.injEq] at h
          obtain ⟨rfl, rfl⟩ := h
          obtain ⟨hleft, frames, rfl, hframes⟩ := ih hmid
          obtain ⟨frame, hframe, hF⟩ := hp _ _ _ hb
          exact ⟨hleft, frame :: frames, hframe, .cons hF hframes⟩

end Wire
