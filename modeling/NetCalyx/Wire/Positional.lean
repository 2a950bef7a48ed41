import NetCalyx.Wire.Parser

/-!
# Records without delimiters

The elements of a record are written one behind the other, and only a list of
specifiers that is known elsewhere says where each one ends. The writer may be
given a parameter for each element, by position: `given` is the list of
parameters, and elements beyond its end have none.

`decodes_readEach` lifts what holds of one element and its specifier to a whole
record: it is read back, and the sizes add up.
-/

namespace Wire

variable {α τ ι ε ε' : Type}

def writeEach (write : α → Option ι → Except ε Octets) : List α → List ι → Except ε Octets
  | [], _ => .ok []
  | a :: as, given => writeBoth (write a given.head?) (writeEach write as given.tail)

def lenEach (len : α → Option ι → Nat) : List α → List ι → Nat
  | [], _ => 0
  | a :: as, given => len a given.head? + lenEach len as given.tail

def readEach (read : τ → Parser ε' α) : List τ → Parser ε' (List α)
  | [] => pure []
  | spec :: specs => do
    let a ← read spec
    let as ← readEach read specs
    return a :: as

/-- One element for each specifier, each of them fitting. -/
def FitEach (fits : Option ι → τ → α → Prop) : List α → List ι → List τ → Prop
  | [], _, [] => True
  | a :: as, given, spec :: specs => fits given.head? spec a ∧ FitEach fits as given.tail specs
  | [], _, _ :: _ => False
  | _ :: _, _, [] => False

theorem lenEach_nil (len : α → Option ι → Nat) (as : List α) :
    lenEach len as [] = (as.map (len · none)).sum := by
  induction as with
  | nil => rfl
  | cons a as ih => rw [lenEach, List.tail_nil, ih, List.head?_nil, List.map_cons, List.sum_cons]

variable {write : α → Option ι → Except ε Octets}

theorem length_writeEach {len : α → Option ι → Nat}
    (hone : ∀ a given bytes, write a given = .ok bytes → bytes.length = len a given) {as : List α}
    {given : List ι} {bytes : Octets} (hwrite : writeEach write as given = .ok bytes) :
    bytes.length = lenEach len as given := by
  induction as generalizing given bytes with
  | nil =>
    cases hwrite
    rfl
  | cons a as ih =>
    obtain ⟨first, rest, hfirst, hrest, rfl⟩ := writeBoth_eq_ok.mp hwrite
    rw [List.length_append, hone _ _ _ hfirst, ih hrest, lenEach]

/-- An element that fits is read back under its specifier, has the length that is
counted for it, at least the least size of the specifier and, where that is fixed,
its size. -/
structure ReadsOne (fits : Option ι → τ → α → Prop) (write : α → Option ι → Except ε Octets)
    (read : τ → Parser ε' α) (len : α → Option ι → Nat) (fixed : τ → Prop) (size least : τ → Nat) :
    Prop where
  decodes {given : Option ι} {spec : τ} {a : α} {bytes : Octets} (h : fits given spec a)
    (hwrite : write a given = .ok bytes) : Decodes (read spec) bytes a
  length_eq {given : Option ι} {spec : τ} {a : α} {bytes : Octets} (h : fits given spec a)
    (hwrite : write a given = .ok bytes) : bytes.length = len a given
  length_fixed {given : Option ι} {spec : τ} {a : α} {bytes : Octets} (h : fits given spec a)
    (hwrite : write a given = .ok bytes) (hspec : fixed spec) : bytes.length = size spec
  least_le {given : Option ι} {spec : τ} {a : α} {bytes : Octets} (h : fits given spec a)
    (hwrite : write a given = .ok bytes) : least spec ≤ bytes.length

theorem decodes_readEach {fits : Option ι → τ → α → Prop} {read : τ → Parser ε' α}
    {len : α → Option ι → Nat} {fixed : τ → Prop} {size least : τ → Nat}
    (hone : ReadsOne fits write read len fixed size least) {as : List α} {given : List ι}
    {specs : List τ} {bytes : Octets} (h : FitEach fits as given specs)
    (hwrite : writeEach write as given = .ok bytes) :
    Decodes (readEach read specs) bytes as ∧ bytes.length = lenEach len as given ∧
      ((∀ spec ∈ specs, fixed spec) → bytes.length = (specs.map size).sum) ∧
      (specs.map least).sum ≤ bytes.length := by
  induction as generalizing given specs bytes with
  | nil =>
    cases hwrite
    cases specs with
    | nil => exact ⟨Decodes.pure [], rfl, fun _ => rfl, le_refl 0⟩
    | cons spec specs => cases h
  | cons a as ih =>
    cases specs with
    | nil => cases h
    | cons spec specs =>
      obtain ⟨ha, has⟩ := h
      obtain ⟨first, rest, hfirst, hrest, rfl⟩ := writeBoth_eq_ok.mp hwrite
      obtain ⟨hdecodes, hlen, hfixed, hleast⟩ := ih has hrest
      have hfirstLeast := hone.least_le ha hfirst
      simp only [List.length_append, List.map_cons, List.sum_cons, List.forall_mem_cons]
      refine ⟨(hone.decodes ha hfirst).bind (hdecodes.map (a :: ·)), ?_, ?_, by omega⟩
      · rw [hone.length_eq ha hfirst, hlen, lenEach]
      · rintro ⟨hspec, hspecs⟩
        rw [hone.length_fixed ha hfirst hspec, hfixed hspecs]

end Wire
