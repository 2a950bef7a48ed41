import NetCalyx.Collector.Enrichment

/-!
# What the enrichment cache remembers

A field is stored at a place: a peer, an observation domain (zero for all of them) and the
fields of a scope. Seen from one place and one reference, the cache is a register: an upsert
replaces what is not of higher weight, and a delete removes what is not of higher weight
(`held_applyEnrichment`). So what is stored is what was upserted last with the highest weight,
since the last delete that removed something: `cache_history`.

No empty scope, domain or peer is left behind: `Tidy`.
-/

namespace NetCalyx.Collector
open Collections HasIE IndexedScopeFields List AList

section Model

variable {IE Field Ip : Type} [LinearOrder IE] [LinearOrder Field] [HasIE Field IE]
  [DecidableEq Ip]

/-- Where a field is stored. -/
structure Place (IE Field Ip : Type) where
  ip : Ip
  obsDomainId : BitVec 32
  scope : IndexedScopeFields IE Field

omit [LinearOrder IE] [LinearOrder Field] [HasIE Field IE] [DecidableEq Ip] in
theorem Place.ext_iff' {place place' : Place IE Field Ip} :
    place = place' ↔ place.ip = place'.ip ∧ place.obsDomainId = place'.obsDomainId ∧
      place.scope = place'.scope := by
  cases place
  cases place'
  simp

instance : DecidableEq (Place IE Field Ip) := fun _ _ => decidable_of_iff _ Place.ext_iff'.symm

/-- The place that an operation is about. -/
def Place.of (ip : Ip) (scope : Scope Field) : Place IE Field Ip :=
  ⟨ip, scope.obsDomainId, ofScope scope⟩

def EnrichmentOperation.place : EnrichmentOperation IE Field Ip → Place IE Field Ip
  | .upsert ip scope _ _ => .of ip scope
  | .delete ip scope _ _ => .of ip scope
  | .deleteAll ip scope _ => .of ip scope

namespace EnrichmentCache

variable (cache : EnrichmentCache IE Field Ip)

/-- What is stored at a place under a reference. -/
def held (place : Place IE Field Ip) (ref : FieldRef IE) : Option (WeightedField Field) :=
  cache.stored place.ip place.obsDomainId (decide (place.obsDomainId ≠ 0)) place.scope ref

/-- The cache behind a sequence of operations. -/
def applyAll (ops : List (EnrichmentOperation IE Field Ip)) : EnrichmentCache IE Field Ip :=
  ops.foldl applyEnrichment cache

/-! ## One operation -/

/-- The field that an operation upserts under a reference. -/
def upserted (ref : FieldRef IE) : EnrichmentOperation IE Field Ip → Option (WeightedField Field)
  | .upsert _ _ weight fields => (incomingFields weight fields).lookup ref
  | _ => none

omit [LinearOrder IE] [LinearOrder Field] [HasIE Field IE] in
theorem addressed_iff {scope : Scope Field} {obsDomainId : BitVec 32} :
    Addressed scope obsDomainId (decide (obsDomainId ≠ 0)) ↔ obsDomainId = scope.obsDomainId := by
  rw [Addressed, decide_eq_false_iff_not, decide_eq_true_iff, not_not]
  constructor
  · rintro (⟨hzero, hsame⟩ | ⟨-, -, hsame⟩)
    · exact hsame.trans hzero.symm
    · exact hsame
  · rintro rfl
    by_cases hzero : scope.obsDomainId = 0
    · exact .inl ⟨hzero, hzero⟩
    · exact .inr ⟨hzero, hzero, rfl⟩

variable (op : EnrichmentOperation IE Field Ip)

/-- All that an operation does to a place: nothing at other places, and at its own it replaces or
removes what is not of higher weight. -/
theorem held_applyEnrichment (place : Place IE Field Ip) (ref : FieldRef IE) :
    (cache.applyEnrichment op).held place ref =
      if place = op.place then
        match upserted ref op with
        | some field => better (·.weight) (cache.held place ref) field
        | none => (cache.held place ref).filter fun field => !deletes ref field op
      else cache.held place ref := by
  have hplace {ip : Ip} {scope : Scope Field} :
      (place.ip = ip ∧ Addressed scope place.obsDomainId (decide (place.obsDomainId ≠ 0)) ∧
        place.scope = ofScope scope) ↔ place = .of ip scope := by
    rw [addressed_iff, Place.ext_iff']
    rfl
  have hkeep (field : Option (WeightedField Field)) : field.filter (fun _ => true) = field := by
    cases field <;> rfl
  have hdelete {ip : Ip} {scope : Scope Field} (hop : op.place = .of ip scope)
      {selected : FieldRef IE → WeightedField Field → Bool}
      (hselected : ∀ field, selected ref field = deletes ref field op) :
      (deleteSelected cache ip scope selected).held place ref =
        if place = op.place then (cache.held place ref).filter fun field => !deletes ref field op
        else cache.held place ref := by
    simp only [held, stored_deleteSelected, hplace, hselected, hop]
  cases op with
  | upsert ip scope weight fields =>
    have hown : (EnrichmentOperation.upsert ip scope weight fields : EnrichmentOperation IE Field Ip).place =
        .of ip scope := rfl
    simp only [applyEnrichment, held, stored_upsert, hplace, upserted, hown]
    split
    · cases hfield : (incomingFields weight fields).lookup ref with
      | none => simp [deletes, hkeep]
      | some field =>
        rw [← weight_of_incomingFields hfield]
        cases cache.stored place.ip place.obsDomainId (decide (place.obsDomainId ≠ 0)) place.scope ref with
        | none => rfl
        | some current => by_cases hle : current.weight ≤ field.weight <;> simp [merged, better, hle]
    · rfl
  | delete ip scope weight ies =>
    cases ies with
    | nil => simp [applyEnrichment, delete, upserted, deletes, hkeep]
    | cons ie ies => exact hdelete rfl fun _ => rfl
  | deleteAll ip scope weight => exact hdelete rfl fun _ => rfl

/-! ## Sequences of operations -/

theorem applyAll_append (ops later : List (EnrichmentOperation IE Field Ip)) :
    cache.applyAll (ops ++ later) = (cache.applyAll ops).applyAll later :=
  foldl_append

/-- The operation removes what is stored. -/
def Removes (place : Place IE Field Ip) (ref : FieldRef IE) : Prop :=
  place = op.place ∧ ∃ field, cache.held place ref = some field ∧ deletes ref field op = true

/-- The operations since the last one that removed what was stored. -/
def SinceRemoval (place : Place IE Field Ip) (ref : FieldRef IE)
    (ops since : List (EnrichmentOperation IE Field Ip)) : Prop :=
  ∃ before, ops = before ++ since ∧
    (before = [] ∨ ∃ earlier op, before = earlier ++ [op] ∧ Removes (applyAll ∅ earlier) op place ref) ∧
    ∀ first op rest, since = first ++ op :: rest → ¬ Removes (applyAll ∅ (before ++ first)) op place ref

/-- The fields that operations upsert at a place. -/
def upserts (place : Place IE Field Ip) (ref : FieldRef IE)
    (ops : List (EnrichmentOperation IE Field Ip)) : List (WeightedField Field) :=
  ops.filterMap fun op => if place = op.place then upserted ref op else none

variable {cache : EnrichmentCache IE Field Ip}

/-- A delete that removes leaves nothing. -/
theorem held_of_removes {op : EnrichmentOperation IE Field Ip} {place : Place IE Field Ip}
    {ref : FieldRef IE} (h : Removes cache op place ref) :
    (cache.applyEnrichment op).held place ref = none := by
  obtain ⟨hplace, field, hheld, hdeletes⟩ := h
  have hnone : upserted ref op = none := by
    cases op with
    | upsert => cases hdeletes
    | delete | deleteAll => rfl
  rw [held_applyEnrichment, if_pos hplace, hnone, hheld]
  simp [Option.filter, hdeletes]

/-- Any other operation goes by the weights. -/
theorem held_of_not_removes {op : EnrichmentOperation IE Field Ip} {place : Place IE Field Ip}
    {ref : FieldRef IE} (h : ¬ Removes cache op place ref) :
    (cache.applyEnrichment op).held place ref =
      (upserts place ref [op]).foldl (better (·.weight)) (cache.held place ref) := by
  rw [held_applyEnrichment, upserts, filterMap_cons, filterMap_nil]
  by_cases hplace : place = op.place
  · simp only [if_pos hplace]
    cases upserted ref op with
    | some field => rfl
    | none =>
      cases hheld : cache.held place ref with
      | none => rfl
      | some field =>
        have hkept : deletes ref field op = false := by
          rw [← Bool.not_eq_true]
          exact fun hdeletes => h ⟨hplace, field, hheld, hdeletes⟩
        simp [Option.filter, hkept]
  · simp only [if_neg hplace]
    rfl

omit [HasIE Field IE] in
theorem held_empty (place : Place IE Field Ip) (ref : FieldRef IE) :
    (∅ : EnrichmentCache IE Field Ip).held place ref = none := by
  rw [held, stored]
  cases decide (place.obsDomainId ≠ 0) <;> rfl

/-- What is stored is the running maximum of the upserts since the last removal. -/
theorem held_since (ops : List (EnrichmentOperation IE Field Ip)) (place : Place IE Field Ip)
    (ref : FieldRef IE) :
    ∃ since, SinceRemoval place ref ops since ∧
      (applyAll ∅ ops).held place ref = (upserts place ref since).foldl (better (·.weight)) none := by
  induction ops using List.reverseRecOn with
  | nil => exact ⟨[], ⟨[], rfl, .inl rfl, by simp⟩, held_empty place ref⟩
  | append_singleton ops op ih =>
    obtain ⟨since, ⟨before, rfl, hbefore, hsince⟩, hheld⟩ := ih
    have hlast : applyAll ∅ (before ++ since ++ [op]) =
        (applyAll ∅ (before ++ since)).applyEnrichment op := applyAll_append _ _ _
    by_cases hremoves : Removes (applyAll ∅ (before ++ since)) op place ref
    · refine ⟨[], ⟨before ++ since ++ [op], by simp, .inr ⟨_, op, rfl, hremoves⟩, by simp⟩, ?_⟩
      rw [hlast, held_of_removes hremoves]
      rfl
    · refine ⟨since ++ [op], ⟨before, by simp, hbefore, ?_⟩, ?_⟩
      · intro first op' rest hsplit
        obtain rfl | ⟨rest, last, rfl⟩ := eq_nil_or_concat rest
        · obtain ⟨rfl, hop⟩ := append_inj' hsplit rfl
          cases hop
          exact hremoves
        · rw [concat_eq_append, ← cons_append, ← append_assoc] at hsplit
          exact hsince first op' rest (append_inj' hsplit rfl).1
      · rw [hlast, held_of_not_removes hremoves, hheld, upserts, upserts, upserts, ← foldl_append,
          ← filterMap_append]

/-! ## Nothing empty is left -/

section Tidy

omit [HasIE Field IE]

/-- No scope is empty. -/
def TidyScopes (scopes : ScopedMetadata IE Field) : Prop :=
  ∀ scope metadata, scopes.lookup scope = some metadata → metadata.entries ≠ []

/-- No scope and no domain of a peer is empty, and what is for all domains is not stored under a
domain. -/
structure TidyPeer (peer : PeerMetadata IE Field) : Prop where
  global : TidyScopes peer.global
  domains : ∀ obsDomainId scopes, peer.domainScoped.lookup obsDomainId = some scopes →
    obsDomainId ≠ 0 ∧ scopes.entries ≠ [] ∧ TidyScopes scopes

/-- Nothing in the cache is empty. -/
def Tidy (cache : EnrichmentCache IE Field Ip) : Prop :=
  ∀ ip peer, cache.lookup ip = some peer →
    TidyPeer peer ∧ ¬ (peer.global.entries = [] ∧ peer.domainScoped.entries = [])

theorem entries_ne_nil {κ V : Type} [DecidableEq κ] {m : Map κ V} {key : κ}
    (h : (m.lookup key).isSome) : m.entries ≠ [] := by
  intro hnil
  rw [show m = ∅ from AList.ext hnil] at h
  cases h

variable {scopes : ScopedMetadata IE Field} {scope : IndexedScopeFields IE Field}
variable (h : TidyScopes scopes)
include h

theorem TidyScopes.insert {metadata : IndexedMetadata IE Field} (hmetadata : metadata.entries ≠ []) :
    TidyScopes (scopes.insert scope metadata) := by
  intro scope' metadata' hlookup
  obtain rfl | hne := eq_or_ne scope' scope
  · rw [lookup_insert] at hlookup
    exact Option.some.inj hlookup ▸ hmetadata
  · rw [lookup_insert_ne hne] at hlookup
    exact h scope' metadata' hlookup

theorem TidyScopes.erase (scope : IndexedScopeFields IE Field) :
    TidyScopes (scopes.erase scope) := by
  intro scope' metadata' hlookup
  obtain rfl | hne := eq_or_ne scope' scope
  · rw [lookup_erase] at hlookup
    cases hlookup
  · rw [lookup_erase_ne hne] at hlookup
    exact h scope' metadata' hlookup

theorem TidyScopes.upsertScope {weight : Weight} {incoming : IndexedMetadata IE Field}
    (hincoming : incoming.entries ≠ []) :
    TidyScopes (EnrichmentCache.upsertScope scope weight incoming scopes) := by
  rw [EnrichmentCache.upsertScope]
  split
  · rename_i current hcurrent
    obtain ⟨⟨ref, field⟩, entries, hentries⟩ := exists_cons_of_ne_nil hincoming
    have hfield : incoming.lookup ref = some field :=
      mem_lookup_iff.mpr (hentries ▸ mem_cons_self)
    have hmerged : ((upsertFields weight current incoming).lookup ref).isSome := by
      rw [upsertFields, lookup_mergeWith, hfield]
      cases current.lookup ref <;> rfl
    exact h.insert (entries_ne_nil hmerged)
  · exact h.insert hincoming

theorem TidyScopes.deleteFields {kept : ScopedMetadata IE Field}
    {selected : FieldRef IE → WeightedField Field → Bool}
    (hdelete : EnrichmentCache.deleteFields scope selected scopes = some kept) :
    TidyScopes kept := by
  obtain ⟨current, -, rfl⟩ := Option.map_eq_some_iff.mp hdelete
  dsimp only
  split
  · exact h.erase scope
  · rename_i hkept
    exact h.insert (by simpa using hkept)

omit h

theorem TidyPeer.withScopes {peer : PeerMetadata IE Field} (h : TidyPeer peer) (scope : Scope Field)
    {target : ScopedMetadata IE Field} (htarget : TidyScopes target) :
    TidyPeer (EnrichmentCache.withScopes peer scope target) := by
  rw [EnrichmentCache.withScopes]
  split
  · exact ⟨htarget, h.domains⟩
  · rename_i hzero
    refine ⟨h.global, fun obsDomainId scopes hlookup => ?_⟩
    dsimp only at hlookup
    split at hlookup
    · obtain rfl | hne := eq_or_ne obsDomainId scope.obsDomainId
      · rw [lookup_erase] at hlookup
        cases hlookup
      · rw [lookup_erase_ne hne] at hlookup
        exact h.domains obsDomainId scopes hlookup
    · rename_i hnonempty
      obtain rfl | hne := eq_or_ne obsDomainId scope.obsDomainId
      · rw [lookup_insert] at hlookup
        obtain rfl := Option.some.inj hlookup
        exact ⟨hzero, by simpa using hnonempty, htarget⟩
      · rw [lookup_insert_ne hne] at hlookup
        exact h.domains obsDomainId scopes hlookup

theorem TidyPeer.scopesOf {peer : PeerMetadata IE Field} (h : TidyPeer peer) (scope : Scope Field) :
    TidyScopes (EnrichmentCache.scopesOf peer scope) := by
  rw [EnrichmentCache.scopesOf, PeerMetadata.scopesAt]
  split
  · cases hlookup : peer.domainScoped.lookup scope.obsDomainId with
    | none => exact fun _ _ hnone => by cases hnone
    | some scopes => exact (h.domains _ _ hlookup).2.2
  · exact h.global

theorem Tidy.peer (h : Tidy cache) (ip : Ip) : TidyPeer ((cache.lookup ip).getD ⟨∅, ∅⟩) := by
  cases hlookup : cache.lookup ip with
  | none => exact ⟨fun _ _ hnone => (by cases hnone), fun _ _ hnone => (by cases hnone)⟩
  | some peer => exact (h ip peer hlookup).1

theorem Tidy.insert (h : Tidy cache) (ip : Ip) {peer : PeerMetadata IE Field}
    (hpeer : TidyPeer peer)
    (hnonempty : ¬ (peer.global.entries = [] ∧ peer.domainScoped.entries = [])) :
    Tidy (cache.insert ip peer) := by
  intro ip' peer' hlookup
  obtain rfl | hne := eq_or_ne ip' ip
  · rw [lookup_insert] at hlookup
    exact Option.some.inj hlookup ▸ ⟨hpeer, hnonempty⟩
  · rw [lookup_insert_ne hne] at hlookup
    exact h ip' peer' hlookup

theorem Tidy.store (h : Tidy cache) (ip : Ip) {peer : PeerMetadata IE Field} (hpeer : TidyPeer peer) :
    Tidy (EnrichmentCache.store cache ip peer) := by
  rw [EnrichmentCache.store]
  split
  · intro ip' peer' hlookup
    obtain rfl | hne := eq_or_ne ip' ip
    · rw [lookup_erase] at hlookup
      cases hlookup
    · rw [lookup_erase_ne hne] at hlookup
      exact h ip' peer' hlookup
  · rename_i hnonempty
    exact h.insert ip hpeer (by simpa using hnonempty)

end Tidy

omit [LinearOrder Field] in
theorem incomingFields_ne_nil {weight : Weight} {fields : List Field} (h : fields ≠ []) :
    (incomingFields weight fields : IndexedMetadata IE Field).entries ≠ [] := by
  obtain ⟨field, fields, rfl⟩ := exists_cons_of_ne_nil h
  have hentries (entries : List (FieldRef IE × WeightedField Field)) (hne : entries ≠ []) :
      (collectMap entries).entries ≠ [] := by
    rw [← dropLast_append_getLast hne, collectMap, foldl_append]
    exact cons_ne_nil _ _
  exact hentries _ (by simp [mapFields, mapFieldsFrom])

theorem Tidy.upsert (h : Tidy cache) (ip : Ip) (scope : Scope Field) (weight : Weight)
    (fields : List Field) : Tidy (cache.upsert ip scope weight fields) := by
  by_cases hfields : fields = []
  · rw [EnrichmentCache.upsert, hfields]
    exact h
  · have htarget : TidyScopes (upsertScope (ofScope scope) weight
        (incomingFields weight fields) (scopesOf ((cache.lookup ip).getD ⟨∅, ∅⟩) scope)) :=
      ((h.peer ip).scopesOf scope).upsertScope (incomingFields_ne_nil hfields)
    have hfull (scopes : ScopedMetadata IE Field) : (upsertScope (ofScope scope)
        weight (incomingFields weight fields) scopes).entries ≠ [] := by
      rw [upsertScope]
      split <;> exact cons_ne_nil _ _
    rw [upsert_eq cache ip scope weight hfields]
    refine h.insert ip ((h.peer ip).withScopes scope htarget) ?_
    rw [withScopes]
    split
    · exact fun hempty => hfull _ hempty.1
    · rw [if_neg (by simpa using hfull _)]
      exact fun hempty => cons_ne_nil _ _ hempty.2

theorem Tidy.deleteSelected (h : Tidy cache) (ip : Ip) (scope : Scope Field)
    (selected : FieldRef IE → WeightedField Field → Bool) :
    Tidy (cache.deleteSelected ip scope selected) := by
  cases hpeer : cache.lookup ip with
  | none =>
    rw [EnrichmentCache.deleteSelected, hpeer]
    exact h
  | some peer =>
    rw [deleteSelected_eq cache ip scope selected hpeer]
    have htidy := (h ip peer hpeer).1
    split
    · exact h
    · rename_i target hdelete
      exact h.store ip (htidy.withScopes scope ((htidy.scopesOf scope).deleteFields hdelete))

theorem Tidy.applyEnrichment (h : Tidy cache) (op : EnrichmentOperation IE Field Ip) :
    Tidy (cache.applyEnrichment op) := by
  cases op with
  | upsert ip scope weight fields => exact h.upsert ip scope weight fields
  | delete ip scope weight ies =>
    cases ies with
    | nil => exact h
    | cons ie ies => exact h.deleteSelected ip scope _
  | deleteAll ip scope weight => exact h.deleteSelected ip scope _

theorem Tidy.applyAll (h : Tidy cache) (ops : List (EnrichmentOperation IE Field Ip)) :
    Tidy (cache.applyAll ops) := by
  induction ops generalizing cache with
  | nil => exact h
  | cons op ops ih => exact ih (h.applyEnrichment op)

/-! ## The history of a field -/

/-- **What the cache holds** after any operations: the last upsert of the highest weight since the
last delete that removed something, where a delete removes exactly the fields that it names and
that are not of higher weight. Nothing empty is left, and each operation changes its own place
only. -/
theorem cache_history (ops : List (EnrichmentOperation IE Field Ip)) :
    (∀ place ref, ∃ since, SinceRemoval place ref ops since ∧
      (((applyAll ∅ ops).held place ref = none ∧ upserts place ref since = []) ∨
        ∃ field earlier later, (applyAll ∅ ops).held place ref = some field ∧
          upserts place ref since = earlier ++ field :: later ∧
          (∀ other ∈ earlier, other.weight ≤ field.weight) ∧
          ∀ other ∈ later, other.weight < field.weight)) ∧
    (∀ ip scope weight ies ref, ((applyAll ∅ ops).delete ip scope weight ies).held (.of ip scope) ref =
      ((applyAll ∅ ops).held (.of ip scope) ref).filter fun field =>
        !(decide (field.weight ≤ weight) && (ies.elim true fun ies => decide ((ofLex ref).1 ∈ ies)))) ∧
    Tidy (applyAll ∅ ops) ∧
    ∀ op place ref, place ≠ op.place →
      ((applyAll ∅ ops).applyEnrichment op).held place ref = (applyAll ∅ ops).held place ref := by
  refine ⟨fun place ref => ?_, fun ip scope weight ies ref => ?_, ?_, fun op place ref hne => ?_⟩
  · obtain ⟨since, hsince, hheld⟩ := held_since ops place ref
    refine ⟨since, hsince, ?_⟩
    rw [hheld]
    cases hbest : (upserts place ref since).foldl (better (·.weight)) none with
    | none => exact .inl ⟨rfl, (foldl_better_eq_none _ _).mp hbest⟩
    | some field =>
      obtain ⟨earlier, later, hsplit⟩ := split_of_foldl_better _ hbest
      exact .inr ⟨field, earlier, later, rfl, hsplit⟩
  · cases ies with
    | some ies =>
      exact (held_applyEnrichment (applyAll ∅ ops) (.delete ip scope weight ies) (.of ip scope) ref).trans
        (if_pos rfl)
    | none =>
      have hop := (held_applyEnrichment (applyAll ∅ ops) (.deleteAll ip scope weight) (.of ip scope)
        ref).trans (if_pos rfl)
      simp only [Option.elim, Bool.and_true]
      exact hop
  · exact Tidy.applyAll (fun _ _ hnone => by cases hnone) ops
  · rw [held_applyEnrichment, if_neg hne]

/-! ## Scopes with the same fields -/

/-- Two scopes denote the same entry of a peer: what is upserted, deleted and looked up through one
is so through the other. -/
structure SameEntry (ip : Ip) (scope scope' : Scope Field) : Prop where
  upsert : ∀ (cache : EnrichmentCache IE Field Ip) weight fields,
    cache.upsert ip scope weight fields = cache.upsert ip scope' weight fields
  delete : ∀ (cache : EnrichmentCache IE Field Ip) weight ies,
    cache.delete ip scope weight ies = cache.delete ip scope' weight ies
  lookup : ∀ (cache : EnrichmentCache IE Field Ip) ref,
    cache.held (.of ip scope) ref = cache.held (.of ip scope') ref

omit [LinearOrder Field] in
theorem map_snd_mapFieldsFrom (ieCounters : Map IE Nat) (fields : List Field) :
    (mapFieldsFrom ieCounters fields).map (·.2) = fields := by
  induction fields generalizing ieCounters with
  | nil => rfl
  | cons field fields ih => exact congrArg (field :: ·) (ih _)

omit [LinearOrder Field] in
/-- The key of a scope has its fields, in their order. -/
theorem ofScope_eq_iff {scope scope' : Scope Field} :
    ofScope scope = ofScope scope' ↔
      scope.scopeFields.getD [] = scope'.scopeFields.getD [] := by
  have hfields (scope : Scope Field) : (ofScope scope).map (fun entry =>
      (ofLex entry).2) = scope.scopeFields.getD [] := by
    rw [ofScope, map_map]
    cases scope.scopeFields with
    | none => rfl
    | some fields => exact map_snd_mapFieldsFrom ∅ fields
  have hkey (scope : Scope Field) : ofScope scope =
      (mapFields (scope.scopeFields.getD [])).map toLex := by
    rw [ofScope]
    cases scope.scopeFields <;> rfl
  constructor
  · intro heq
    rw [← hfields scope, ← hfields scope', heq]
  · intro heq
    rw [hkey, hkey, heq]

/-- A scope in which something is upserted holds it. -/
theorem held_upsert_empty (ip : Ip) (scope : Scope Field) (field : Field)
    (place : Place IE Field Ip) :
    ((∅ : EnrichmentCache IE Field Ip).upsert ip scope 0 [field]).held place
        (toLex (ie field, 0)) =
      if place = .of ip scope then some ⟨0, field⟩ else none := by
  have hop := held_applyEnrichment (∅ : EnrichmentCache IE Field Ip) (.upsert ip scope 0 [field])
    place (toLex (ie field, 0))
  have hupserted : upserted (toLex (ie field, 0))
      (.upsert ip scope 0 [field] : EnrichmentOperation IE Field Ip) = some ⟨0, field⟩ := by
    exact lookup_insert _
  rw [hupserted, held_empty] at hop
  exact hop

/-- Two scopes of an observation domain denote the same entry if and only if they have the same
fields in the same order. -/
theorem sameEntry_iff (ip : Ip) (obsDomainId : BitVec 32) (fields fields' : Option (List Field)) :
    SameEntry ip ⟨obsDomainId, fields⟩ ⟨obsDomainId, fields'⟩ ↔
      fields.getD [] = fields'.getD [] := by
  have hplace : (Place.of ip ⟨obsDomainId, fields⟩ = Place.of ip ⟨obsDomainId, fields'⟩) ↔
      fields.getD [] = fields'.getD [] := by
    rw [Place.ext_iff', Place.of, Place.of, ofScope_eq_iff, and_iff_right rfl, and_iff_right rfl]
  constructor
  · intro h
    by_contra hne
    -- One of the lists has a field.
    have hsome : fields.getD [] ++ fields'.getD [] ≠ [] := by
      intro hnil
      rw [append_eq_nil_iff] at hnil
      exact hne (hnil.1.trans hnil.2.symm)
    obtain ⟨field, -⟩ := exists_mem_of_ne_nil _ hsome
    have hheld := held_upsert_empty ip ⟨obsDomainId, fields⟩ field
      (.of ip ⟨obsDomainId, fields⟩)
    rw [if_pos rfl, h.upsert, held_upsert_empty, if_neg (mt hplace.mp hne)] at hheld
    cases hheld
  · intro heq
    have hscope : ofScope ⟨obsDomainId, fields⟩ =
        ofScope ⟨obsDomainId, fields'⟩ := ofScope_eq_iff.mpr heq
    refine ⟨fun cache weight incoming => ?_, fun cache weight ies => ?_, fun cache ref => ?_⟩
    · simp only [upsert, hscope]
    · cases ies with
      | none => simp only [delete, deleteSelected, hscope]
      | some ies => cases ies <;> simp only [delete, deleteSelected, hscope]
    · rw [hplace.mpr heq]

end EnrichmentCache

end Model

/-- The same two fields in another order: what is stored through one scope is not deleted through
the other, and an upsert of lower weight is stored beside it. -/
theorem reordered_scope_missed :
    (EnrichmentCache.applyAll (∅ : EnrichmentCache Nat NumberField Unit)
        [.upsert () ⟨0, some [toLex (1, 10), toLex (2, 20)]⟩ 5 [toLex (9, 90)],
          .upsert () ⟨0, some [toLex (2, 20), toLex (1, 10)]⟩ 1 [toLex (9, 91)],
          .deleteAll () ⟨0, some [toLex (2, 20), toLex (1, 10)]⟩ 255]).getEnrichmentFields () 0
            bothElements = some [toLex (9, 90)] ∧
      ¬ EnrichmentCache.SameEntry () (⟨0, some [toLex (1, 10), toLex (2, 20)]⟩ : Scope NumberField)
        ⟨0, some [toLex (2, 20), toLex (1, 10)]⟩ := by
  refine ⟨rfl, fun h => ?_⟩
  have hcache := h.upsert ∅ 0 [toLex (9, 90)]
  have hkeys := congrArg (fun cache => (cache.lookup ()).map fun peer => peer.global.keys) hcache
  revert hkeys
  decide

end NetCalyx.Collector
