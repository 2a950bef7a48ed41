import Mathlib

/-!
# Finite maps

A hash map is an association list without double keys. Its order is not a part of its
meaning: two maps are the same when their lookups agree, and what iterates over a map
may see any order. An ordered map is the same thing, iterated by ascending keys.
-/

namespace Collections
open List AList

variable {κ V : Type} [DecidableEq κ]

/-- A finite map from `κ` to `V`. -/
abbrev Map (κ V : Type) := AList fun _ : κ => V

/-- The entries that satisfy a predicate. -/
def retain (keep : κ → V → Bool) (m : Map κ V) : Map κ V :=
  ⟨m.entries.filter fun entry => keep entry.1 entry.2, m.nodupKeys.sublist filter_sublist⟩

theorem lookup_retain (keep : κ → V → Bool) (m : Map κ V) (k : κ) :
    (retain keep m).lookup k = (m.lookup k).filter (keep k) := by
  ext v
  rw [Option.filter_eq_some_iff, ← Option.mem_def, ← Option.mem_def, mem_lookup_iff,
    mem_lookup_iff, retain, mem_filter]

theorem lookup_retain_keys (keep : κ → Bool) (m : Map κ V) (k : κ) :
    (retain (fun k _ => keep k) m).lookup k = if keep k then m.lookup k else none := by
  rw [lookup_retain]
  cases m.lookup k <;> cases keep k <;> simp

theorem lookup_insert_ite (m : Map κ V) (k k' : κ) (v : V) :
    (m.insert k v).lookup k' = if k' = k then some v else m.lookup k' := by
  split
  · rename_i heq
    rw [heq, lookup_insert]
  · rename_i hne
    exact lookup_insert_ne hne

theorem lookup_erase_ite (m : Map κ V) (k k' : κ) :
    (m.erase k).lookup k' = if k' = k then none else m.lookup k' := by
  split
  · rename_i heq
    rw [heq, lookup_erase]
  · rename_i hne
    exact lookup_erase_ne hne

theorem lookup_foldl_erase (ks : List κ) (m : Map κ V) (k : κ) :
    (ks.foldl (fun m k => m.erase k) m).lookup k = if k ∈ ks then none else m.lookup k := by
  induction ks generalizing m with
  | nil => simp
  | cons k' ks ih =>
    rw [foldl_cons, ih, lookup_erase_ite]
    by_cases hks : k ∈ ks <;> by_cases hk : k = k' <;> simp [hks, hk]

omit [DecidableEq κ] in
/-- Rows with ascending keys and the same members are the same. -/
theorem eq_of_ascending {α : Type} [Preorder κ] (key : α → κ) {l l' : List α}
    (hl : l.Pairwise fun a b => key a < key b) (hl' : l'.Pairwise fun a b => key a < key b)
    (h : ∀ a, a ∈ l ↔ a ∈ l') : l = l' := by
  have hnodup {row : List α} (hrow : row.Pairwise fun a b => key a < key b) : row.Nodup :=
    hrow.imp fun hlt heq => absurd (congrArg key heq) hlt.ne
  have hperm : l.Perm l' := (perm_ext_iff_of_nodup (hnodup hl) (hnodup hl')).mpr h
  exact hperm.eq_of_pairwise (fun a b _ _ hab hba => absurd hba hab.asymm) hl hl'

/-- The entries by ascending keys. -/
def inOrder [LinearOrder κ] (m : Map κ V) : List ((_ : κ) × V) :=
  m.entries.insertionSort fun a b => a.1 ≤ b.1

section Ordered

variable [LinearOrder κ]

omit [DecidableEq κ] in
theorem inOrder_perm (m : Map κ V) : (inOrder m).Perm m.entries :=
  perm_insertionSort _ _

theorem mem_inOrder {m : Map κ V} {entry : (_ : κ) × V} :
    entry ∈ inOrder m ↔ m.lookup entry.1 = some entry.2 := by
  rw [(inOrder_perm m).mem_iff, ← Option.mem_def, mem_lookup_iff]

omit [DecidableEq κ] in
theorem inOrder_pairwise (m : Map κ V) : (inOrder m).Pairwise fun a b => a.1 < b.1 := by
  have hle : (inOrder m).Pairwise fun a b => a.1 ≤ b.1 := pairwise_insertionSort _ _
  have hne : (inOrder m).Pairwise fun a b => a.1 ≠ b.1 :=
    (inOrder_perm m).pairwise_iff (fun h => h.symm) |>.mpr
      (nodupKeys_iff_pairwise.mp m.nodupKeys)
  exact (hle.and hne).imp fun h => lt_of_le_of_ne h.1 h.2

/-- Ascending entries that agree with the map are its entries in order. -/
theorem inOrder_eq {m : Map κ V} {l : List ((_ : κ) × V)} (hl : l.Pairwise fun a b => a.1 < b.1)
    (h : ∀ entry, entry ∈ l ↔ m.lookup entry.1 = some entry.2) : inOrder m = l :=
  eq_of_ascending (·.1) (inOrder_pairwise m) hl fun entry => by rw [mem_inOrder, h entry]

end Ordered

/-! ## What a map holds -/

section Contents

variable {β : Type}
variable (held : κ → V → List β)
variable (m : Map κ V)

/-- Everything that is held under the keys. -/
def contents : List β :=
  m.entries.flatMap fun entry => held entry.1 entry.2

theorem entries_insert (k : κ) (v : V) :
    (m.insert k v).entries = ⟨k, v⟩ :: (m.erase k).entries := rfl

theorem mem_contents {held : κ → V → List β} {m : Map κ V} {b : β} :
    b ∈ contents held m ↔ ∃ k v, m.lookup k = some v ∧ b ∈ held k v := by
  rw [contents, mem_flatMap]
  constructor
  · rintro ⟨entry, hentry, hb⟩
    exact ⟨entry.1, entry.2, mem_lookup_iff.mpr hentry, hb⟩
  · rintro ⟨k, v, hlookup, hb⟩
    exact ⟨⟨k, v⟩, mem_lookup_iff.mp hlookup, hb⟩

theorem contents_insert (k : κ) (v : V) :
    contents held (m.insert k v) = held k v ++ contents held (m.erase k) := by
  rw [contents, entries_insert, flatMap_cons]
  rfl

/-- What is held under one key, and the rest. -/
theorem contents_erase (k : κ) :
    (contents held m).Perm (((m.lookup k).map (held k)).getD [] ++ contents held (m.erase k)) := by
  cases hlookup : m.lookup k with
  | none =>
    have hkey : k ∉ m.keys := by
      rw [lookup_eq_none] at hlookup
      exact hlookup
    have herase : (m.erase k).entries = m.entries := kerase_of_notMem_keys hkey
    rw [Option.map_none, Option.getD_none, nil_append, contents, contents, herase]
  | some v =>
    have hmem : (⟨k, v⟩ : (_ : κ) × V) ∈ m.entries := mem_lookup_iff.mp hlookup
    have hkey : k ∈ m.entries.keys := mem_keys_of_mem hmem
    obtain ⟨w, before, after, -, hsplit, herase⟩ := exists_of_kerase hkey
    have hsame : v = w := by
      have hw : m.lookup k = some w := by
        rw [← Option.mem_def, mem_lookup_iff, hsplit]
        simp
      exact Option.some.inj (hlookup.symm.trans hw)
    subst hsame
    have hperm : m.entries.Perm (⟨k, v⟩ :: (m.erase k).entries) := by
      rw [show (m.erase k).entries = before ++ after from herase, hsplit]
      exact perm_middle
    exact hperm.flatMap_right _

omit [DecidableEq κ] in
theorem contents_retain (keep : κ → V → Bool) (m : Map κ V) :
    (contents held (retain keep m) ++ contents held (retain (fun k v => !keep k v) m)).Perm
      (contents held m) := by
  rw [contents, contents, ← flatMap_append]
  exact (filter_append_perm _ _).flatMap_right _

theorem filterMap_lookup : m.keys.filterMap m.lookup = m.entries.map (·.2) := by
  rw [AList.keys, List.keys, filterMap_map, ← filterMap_eq_map]
  refine filterMap_congr fun entry hentry => ?_
  exact mem_lookup_iff.mpr hentry

end Contents

/-! ## Merging -/

section Merge

variable (replaces : V → V → Bool)

/-- The entries are added; one that is there is replaced if the predicate says so. -/
def mergeEntries (m : Map κ V) (entries : List ((_ : κ) × V)) : Map κ V :=
  entries.foldl (fun m entry =>
    match m.lookup entry.1 with
    | some current => if replaces current entry.2 then m.insert entry.1 entry.2 else m
    | none => m.insert entry.1 entry.2) m

def mergeWith (m other : Map κ V) : Map κ V := mergeEntries replaces m other.entries

/-- What is under a key after merging. -/
def merged : Option V → Option V → Option V
  | some current, some new => some (if replaces current new then new else current)
  | none, some new => some new
  | current, none => current

@[simp] theorem merged_none (current : Option V) : merged replaces current none = current := by
  cases current <;> rfl

theorem lookup_mergeEntries (m : Map κ V) (entries : List ((_ : κ) × V)) (k : κ)
    (h : entries.NodupKeys) :
    (mergeEntries replaces m entries).lookup k =
      merged replaces (m.lookup k) (entries.dlookup k) := by
  induction entries generalizing m with
  | nil => simp [mergeEntries]
  | cons entry entries ih =>
    obtain ⟨k', v⟩ := entry
    obtain ⟨hnot, hnodup⟩ := nodupKeys_cons.mp h
    rw [mergeEntries, foldl_cons]
    refine (ih _ hnodup).trans ?_
    rcases eq_or_ne k k' with rfl | hne
    · rw [dlookup_eq_none.mpr hnot, dlookup_cons_eq]
      cases hm : m.lookup k with
      | none => simp [merged]
      | some current => by_cases hr : replaces current v = true <;> simp [merged, hr, hm]
    · rw [dlookup_cons_ne _ _ hne]
      cases hm' : m.lookup k' with
      | none => simp [lookup_insert_ne hne]
      | some current =>
        by_cases hr : replaces current v = true <;> simp [hr, lookup_insert_ne hne]

theorem lookup_mergeWith (m other : Map κ V) (k : κ) :
    (mergeWith replaces m other).lookup k = merged replaces (m.lookup k) (other.lookup k) :=
  lookup_mergeEntries replaces m other.entries k other.nodupKeys

end Merge

/-! ## Maps of the same shape -/

section MapValues

variable {W : Type}
variable (f : V → W)
variable (m : Map κ V)

def mapValues : Map κ W where
  entries := m.entries.map fun entry => ⟨entry.1, f entry.2⟩
  nodupKeys := by
    rw [nodupKeys_iff_pairwise, pairwise_map]
    exact nodupKeys_iff_pairwise.mp m.nodupKeys

theorem lookup_mapValues (k : κ) : (mapValues f m).lookup k = (m.lookup k).map f := by
  ext w
  rw [← Option.mem_def, mem_lookup_iff, Option.map_eq_some_iff, mapValues, mem_map]
  constructor
  · rintro ⟨⟨k', v⟩, hmem, heq⟩
    obtain ⟨rfl, hval⟩ := Sigma.mk.inj heq
    exact ⟨v, mem_lookup_iff.mpr hmem, eq_of_heq hval⟩
  · rintro ⟨v, hlookup, rfl⟩
    exact ⟨⟨k, v⟩, mem_lookup_iff.mp hlookup, rfl⟩

theorem mapValues_erase (k : κ) : mapValues f (m.erase k) = (mapValues f m).erase k := by
  apply AList.ext
  simp only [mapValues, AList.erase, List.kerase, eraseP_map]
  rfl

theorem mapValues_insert (k : κ) (v : V) :
    mapValues f (m.insert k v) = (mapValues f m).insert k (f v) := by
  apply AList.ext
  have herase := congrArg AList.entries (mapValues_erase f m k)
  rw [entries_insert, ← herase]
  rfl

omit [DecidableEq κ] in
theorem mapValues_retain (keep : κ → Bool) (m : Map κ V) :
    mapValues f (retain (fun k _ => keep k) m) = retain (fun k _ => keep k) (mapValues f m) := by
  apply AList.ext
  simp only [mapValues, retain, filter_map]
  rfl

omit [DecidableEq κ] in
theorem inOrder_mapValues [LinearOrder κ] :
    inOrder (mapValues f m) = (inOrder m).map fun entry => ⟨entry.1, f entry.2⟩ := by
  rw [inOrder, inOrder, map_insertionSort _ (fun a b => a.1 ≤ b.1)]
  · rfl
  · exact fun _ _ _ _ => Iff.rfl

end MapValues

/-! ## Numbered entries -/

section Numbered

/-- The values under ascending numbers, from `start` on. -/
def numbered (start : Nat) : List V → List ((_ : Nat) × V)
  | [] => []
  | v :: vs => ⟨start, v⟩ :: numbered (start + 1) vs

theorem mem_numbered {vs : List V} {start : Nat} {entry : (_ : Nat) × V} :
    entry ∈ numbered start vs ↔ start ≤ entry.1 ∧ vs[entry.1 - start]? = some entry.2 := by
  induction vs generalizing start with
  | nil => simp [numbered]
  | cons v vs ih =>
    obtain ⟨k, w⟩ := entry
    rw [numbered, mem_cons, ih]
    by_cases hk : k = start
    · subst hk
      simp [eq_comm]
    · constructor
      · rintro (heq | ⟨hle, hget⟩)
        · exact absurd (congrArg Sigma.fst heq) hk
        · have hsub : k - start = k - (start + 1) + 1 := by
            simp only at hle
            omega
          refine ⟨by simp only at hle ⊢; omega, ?_⟩
          rw [hsub, getElem?_cons_succ]
          exact hget
      · rintro ⟨hle, hget⟩
        simp only at hle hget
        have hsub : k - start = k - (start + 1) + 1 := by omega
        rw [hsub, getElem?_cons_succ] at hget
        exact .inr ⟨by simp only; omega, hget⟩

theorem pairwise_numbered (vs : List V) (start : Nat) :
    (numbered start vs).Pairwise fun a b => a.1 < b.1 := by
  induction vs generalizing start with
  | nil => exact List.Pairwise.nil
  | cons v vs ih =>
    refine List.Pairwise.cons (fun entry hentry => ?_) (ih (start + 1))
    exact (mem_numbered.mp hentry).1

theorem map_numbered (vs : List V) (start : Nat) : (numbered start vs).map (·.2) = vs := by
  induction vs generalizing start with
  | nil => rfl
  | cons v vs ih => rw [numbered, map_cons, ih]

/-- A map of the numbers of a list is the list, in order. -/
theorem inOrder_eq_numbered {m : Map Nat V} {vs : List V} (h : ∀ i, m.lookup i = vs[i]?) :
    inOrder m = numbered 0 vs := by
  refine inOrder_eq (pairwise_numbered vs 0) fun entry => ?_
  rw [mem_numbered, h]
  simp

/-- Numbers below a bound are at most as many as the bound, and as many only when all of
them are there. -/
theorem length_eq_iff {m : Map Nat V} {n : Nat} (h : ∀ i, (m.lookup i).isSome → i < n) :
    m.entries.length ≤ n ∧ (m.entries.length = n ↔ ∀ i < n, (m.lookup i).isSome) := by
  have hlen : m.keys.toFinset.card = m.entries.length := by
    rw [toFinset_card_of_nodup m.keys_nodup, AList.keys, List.keys, length_map]
  have hsub : m.keys.toFinset ⊆ Finset.range n := by
    intro i hi
    rw [mem_toFinset, ← AList.mem_keys, ← AList.lookup_isSome] at hi
    exact Finset.mem_range.mpr (h i hi)
  have hle := Finset.card_le_card hsub
  rw [Finset.card_range, hlen] at hle
  refine ⟨hle, fun heq i hi => ?_, fun hall => ?_⟩
  · have hset := Finset.eq_of_subset_of_card_le hsub (by rw [Finset.card_range, hlen, heq])
    have hmem : i ∈ m.keys.toFinset := hset ▸ Finset.mem_range.mpr hi
    rwa [mem_toFinset, ← AList.mem_keys, ← AList.lookup_isSome] at hmem
  · have hsup : Finset.range n ⊆ m.keys.toFinset := by
      intro i hi
      rw [mem_toFinset, ← AList.mem_keys, ← AList.lookup_isSome]
      exact hall i (Finset.mem_range.mp hi)
    have hge := Finset.card_le_card hsup
    rw [Finset.card_range, hlen] at hge
    omega

end Numbered

end Collections
