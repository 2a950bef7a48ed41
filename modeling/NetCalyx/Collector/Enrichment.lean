import Mathlib.Data.List.Lex
import Mathlib.Data.Prod.Lex
import Mathlib.Order.Fin.Basic
import NetCalyx.Collections.Best
import NetCalyx.Collections.Map

/-!
# The enrichment cache

For each peer the cache keeps fields, with weights, under scopes: an observation domain (or
all of them) and fields that a record has to have. A record is enriched with the fields of
all scopes that it matches; of the fields under one reference the one with the highest
weight is taken, and of equal weights the one of the scope that is visited last. Global
scopes are visited before those of the domain, and scopes of one level in the order of their
fields, which are compared as slices.
-/

namespace NetCalyx.Collector
open Collections List AList

class HasIE (Field : Type) (IE : outParam Type) where
  ie : Field → IE

open HasIE

/-- An information element and which of its occurrences. -/
abbrev FieldRef (IE : Type) := IE ×ₗ Nat

abbrev IndexedScopeFields (IE Field : Type) := List (FieldRef IE ×ₗ Field)

abbrev Weight := Fin 256

structure WeightedField (Field : Type) where
  weight : Weight
  field : Field
  deriving DecidableEq

structure Scope (Field : Type) where
  obsDomainId : BitVec 32
  scopeFields : Option (List Field)

abbrev IndexedMetadata (IE Field : Type) [LinearOrder IE] := Map (FieldRef IE) (WeightedField Field)

abbrev ScopedMetadata (IE Field : Type) [LinearOrder IE] :=
  Map (IndexedScopeFields IE Field) (IndexedMetadata IE Field)

structure PeerMetadata (IE Field : Type) [LinearOrder IE] where
  global : ScopedMetadata IE Field
  domainScoped : Map (BitVec 32) (ScopedMetadata IE Field)

abbrev EnrichmentCache (IE Field Ip : Type) [LinearOrder IE] := Map Ip (PeerMetadata IE Field)

inductive EnrichmentOperation (IE Field Ip : Type) where
  | upsert (ip : Ip) (scope : Scope Field) (weight : Weight) (fields : List Field)
  | delete (ip : Ip) (scope : Scope Field) (weight : Weight) (ies : List IE)
  | deleteAll (ip : Ip) (scope : Scope Field) (weight : Weight)

section Model

variable {IE Field Ip : Type} [LinearOrder IE] [LinearOrder Field] [HasIE Field IE]
  [DecidableEq Ip]

/-! ## References -/

def mapFieldsFrom (ieCounters : Map IE Nat) : List Field → List (FieldRef IE × Field)
  | [] => []
  | field :: fields =>
    let ieCount := (ieCounters.lookup (ie field)).getD 0
    (toLex (ie field, ieCount), field) ::
      mapFieldsFrom (ieCounters.insert (ie field) (ieCount + 1)) fields

/-- Each field with its reference. -/
def mapFields (fields : List Field) : List (FieldRef IE × Field) := mapFieldsFrom ∅ fields

def collectMap {V : Type} (entries : List (FieldRef IE × V)) : Map (FieldRef IE) V :=
  entries.foldl (fun m entry => m.insert entry.1 entry.2) ∅

def mapFieldsIntoFxhashmap (fields : List Field) : Map (FieldRef IE) Field :=
  collectMap (mapFields fields)

namespace IndexedScopeFields

def ofScope (scope : Scope Field) : IndexedScopeFields IE Field :=
  ((scope.scopeFields.map mapFields).getD []).map toLex

/-- All scope fields are among the incoming ones. -/
def matchesFields (scopeFields : IndexedScopeFields IE Field)
    (incomingFields : Map (FieldRef IE) Field) : Bool :=
  scopeFields.all fun entry => incomingFields.lookup (ofLex entry).1 = some (ofLex entry).2

end IndexedScopeFields

open IndexedScopeFields

/-! ## Lookups -/

namespace PeerMetadata

/-- A field replaces one of the same or lower weight. -/
def mergeFields (enrichmentFields metadata : IndexedMetadata IE Field) : IndexedMetadata IE Field :=
  mergeWith (fun best field => decide (best.weight ≤ field.weight)) enrichmentFields metadata

/-- The scopes of one level that match, in order. -/
def mergeScopes (fieldsMap : Map (FieldRef IE) Field) (enrichmentFields : IndexedMetadata IE Field)
    (scopes : ScopedMetadata IE Field) : IndexedMetadata IE Field :=
  (inOrder scopes).foldl (fun enrichmentFields entry =>
    if matchesFields entry.1 fieldsMap then
      mergeFields enrichmentFields entry.2
    else enrichmentFields) enrichmentFields

/-- The best field for each reference. -/
def selectFields (peer : PeerMetadata IE Field) (incomingObsId : BitVec 32)
    (incomingFields : List Field) : IndexedMetadata IE Field :=
  let fieldsMap := mapFieldsIntoFxhashmap incomingFields
  let enrichmentFields := mergeScopes fieldsMap ∅ peer.global
  match peer.domainScoped.lookup incomingObsId with
  | some domainMetadata => mergeScopes fieldsMap enrichmentFields domainMetadata
  | none => enrichmentFields

def getEnrichmentFields (peer : PeerMetadata IE Field) (incomingObsId : BitVec 32)
    (incomingFields : List Field) : Option (List Field) :=
  if peer.global.entries.isEmpty && peer.domainScoped.entries.isEmpty then none
  else
    let enrichmentFields := peer.selectFields incomingObsId incomingFields
    if enrichmentFields.entries.isEmpty then none
    else some (enrichmentFields.entries.map (·.2.field))

end PeerMetadata

open PeerMetadata

/-! ## Operations -/

namespace EnrichmentCache

def getEnrichmentFields (cache : EnrichmentCache IE Field Ip) (peerIp : Ip)
    (obsDomainId : BitVec 32) (recordFields : List Field) : Option (List Field) :=
  (cache.lookup peerIp).bind fun peer => peer.getEnrichmentFields obsDomainId recordFields

def upsertFields (weight : Weight) (current incoming : IndexedMetadata IE Field) :
    IndexedMetadata IE Field :=
  mergeWith (fun field _ => decide (field.weight ≤ weight)) current incoming

variable (scopeFields : IndexedScopeFields IE Field)

def upsertScope (weight : Weight) (incoming : IndexedMetadata IE Field)
    (target : ScopedMetadata IE Field) : ScopedMetadata IE Field :=
  match target.lookup scopeFields with
  | some current => target.insert scopeFields (upsertFields weight current incoming)
  | none => target.insert scopeFields incoming

variable (cache : EnrichmentCache IE Field Ip)

def upsert (ip : Ip) (scope : Scope Field) (weight : Weight) (fields : List Field) :
    EnrichmentCache IE Field Ip :=
  if fields.isEmpty then cache
  else
    let incoming := collectMap ((mapFields fields).map fun entry =>
      (entry.1, WeightedField.mk weight entry.2))
    let peer := (cache.lookup ip).getD ⟨∅, ∅⟩
    let scopeFields := ofScope scope
    if scope.obsDomainId = 0 then
      cache.insert ip { peer with global := upsertScope scopeFields weight incoming peer.global }
    else
      let target := (peer.domainScoped.lookup scope.obsDomainId).getD ∅
      let target := upsertScope scopeFields weight incoming target
      cache.insert ip { peer with domainScoped := peer.domainScoped.insert scope.obsDomainId target }

/-- The peer is removed when nothing is left of it. -/
def store (ip : Ip) (peer : PeerMetadata IE Field) : EnrichmentCache IE Field Ip :=
  if peer.global.entries.isEmpty && peer.domainScoped.entries.isEmpty then cache.erase ip
  else cache.insert ip peer

/-- Remove what the predicate selects from a scope, and the scope if nothing is left of it.
`none` if there is no such scope. -/
def deleteFields (selected : FieldRef IE → WeightedField Field → Bool)
    (target : ScopedMetadata IE Field) : Option (ScopedMetadata IE Field) :=
  (target.lookup scopeFields).map fun current =>
    let kept := retain (fun fieldRef field => !selected fieldRef field) current
    if kept.entries.isEmpty then target.erase scopeFields else target.insert scopeFields kept

def deleteSelected (ip : Ip) (scope : Scope Field)
    (selected : FieldRef IE → WeightedField Field → Bool) : EnrichmentCache IE Field Ip :=
  match cache.lookup ip with
  | none => cache
  | some peer =>
    let scopeFields := ofScope scope
    if scope.obsDomainId = 0 then
      match deleteFields scopeFields selected peer.global with
      | none => cache
      | some global => store cache ip { peer with global }
    else
      match peer.domainScoped.lookup scope.obsDomainId with
      | none => cache
      | some target =>
        match deleteFields scopeFields selected target with
        | none => cache
        | some target =>
          store cache ip { peer with domainScoped :=
            if target.entries.isEmpty then peer.domainScoped.erase scope.obsDomainId
            else peer.domainScoped.insert scope.obsDomainId target }

/-- `ies` is `none` to delete all fields. -/
def delete (ip : Ip) (scope : Scope Field) (weight : Weight) (ies : Option (List IE)) :
    EnrichmentCache IE Field Ip :=
  match ies with
  | some [] => cache
  | some ies => deleteSelected cache ip scope fun fieldRef field =>
      decide (field.weight ≤ weight) && decide ((ofLex fieldRef).1 ∈ ies)
  | none => deleteSelected cache ip scope fun _ field => decide (field.weight ≤ weight)

def applyEnrichment :
    EnrichmentOperation IE Field Ip → EnrichmentCache IE Field Ip
  | .upsert ip scope weight fields => upsert cache ip scope weight fields
  | .delete ip scope weight ies => delete cache ip scope weight (some ies)
  | .deleteAll ip scope weight => delete cache ip scope weight none

/-- An operation deletes a field under a reference. -/
def deletes (ref : FieldRef IE) (field : WeightedField Field) :
    EnrichmentOperation IE Field Ip → Bool
  | .upsert .. => false
  | .delete _ _ weight ies => decide (field.weight ≤ weight) && decide ((ofLex ref).1 ∈ ies)
  | .deleteAll _ _ weight => decide (field.weight ≤ weight)

end EnrichmentCache

/-! ## Who offers a field -/

/-- A field for some reference, and the scope that stores it. -/
structure Offer (IE Field : Type) where
  /-- Stored for the observation domain, not for all. -/
  ofDomain : Bool
  scope : IndexedScopeFields IE Field
  field : WeightedField Field

namespace PeerMetadata

variable (peer : PeerMetadata IE Field)
variable (obsDomainId : BitVec 32)

/-- The scopes in the order in which they are visited. -/
def visits : List (Bool × IndexedScopeFields IE Field × IndexedMetadata IE Field) :=
  (inOrder peer.global).map (fun entry => (false, entry.1, entry.2)) ++
    (inOrder ((peer.domainScoped.lookup obsDomainId).getD ∅)).map
      fun entry => (true, entry.1, entry.2)

variable (record : List Field)

def offers (ref : FieldRef IE) : List (Offer IE Field) :=
  ((peer.visits obsDomainId).filter fun visit =>
      visit.2.1.matchesFields (mapFieldsIntoFxhashmap record)).filterMap
    fun visit => (visit.2.2.lookup ref).map (Offer.mk visit.1 visit.2.1)

theorem selectFields_eq :
    peer.selectFields obsDomainId record =
      ((peer.visits obsDomainId).filter fun visit =>
        visit.2.1.matchesFields (mapFieldsIntoFxhashmap record)).foldl
          (fun best visit => mergeFields best visit.2.2) ∅ := by
  simp only [selectFields, visits, mergeScopes, filter_append, foldl_append,
    foldl_filter, foldl_map]
  cases peer.domainScoped.lookup obsDomainId <;> rfl

omit [LinearOrder Field] [HasIE Field IE] in
/-- Visiting scopes, seen from one reference. -/
theorem lookup_foldl_mergeFields
    (visits : List (Bool × IndexedScopeFields IE Field × IndexedMetadata IE Field))
    (ref : FieldRef IE) (best : IndexedMetadata IE Field) (offer : Option (Offer IE Field))
    (h : best.lookup ref = offer.map (·.field)) :
    (visits.foldl (fun best visit => mergeFields best visit.2.2) best).lookup ref =
      ((visits.filterMap fun visit =>
          (visit.2.2.lookup ref).map (Offer.mk visit.1 visit.2.1)).foldl
        (better (·.field.weight)) offer).map (·.field) := by
  induction visits generalizing best offer with
  | nil => exact h
  | cons visit visits ih =>
    have hmerge := lookup_mergeWith
      (fun best field : WeightedField Field => decide (best.weight ≤ field.weight))
      best visit.2.2 ref
    rw [foldl_cons]
    cases hlookup : visit.2.2.lookup ref with
    | none =>
      rw [filterMap_cons_none (by rw [hlookup]; rfl)]
      refine ih _ offer ?_
      rw [mergeFields, hmerge, hlookup, h]
      cases offer <;> rfl
    | some field =>
      rw [filterMap_cons_some (by rw [hlookup]; rfl), foldl_cons]
      refine ih _ _ ?_
      rw [mergeFields, hmerge, hlookup, h]
      cases offer with
      | none => rfl
      | some current =>
        by_cases hle : current.field.weight ≤ field.weight <;> simp [merged, better, hle]

theorem lookup_selectFields (ref : FieldRef IE) :
    (peer.selectFields obsDomainId record).lookup ref =
      ((peer.offers obsDomainId record ref).foldl (better (·.field.weight)) none).map
        (·.field) := by
  rw [selectFields_eq]
  exact lookup_foldl_mergeFields _ ref ∅ none rfl

end PeerMetadata

/-- Visited before. -/
def Offer.Before (offer offer' : Offer IE Field) : Prop :=
  (offer.ofDomain = false ∧ offer'.ofDomain = true) ∨
    (offer.ofDomain = offer'.ofDomain ∧ offer.scope < offer'.scope)

namespace PeerMetadata

variable (peer : PeerMetadata IE Field)
variable (obsDomainId : BitVec 32)

omit [HasIE Field IE] in
theorem visits_pairwise :
    (peer.visits obsDomainId).Pairwise fun visit visit' =>
      (visit.1 = false ∧ visit'.1 = true) ∨ (visit.1 = visit'.1 ∧ visit.2.1 < visit'.2.1) := by
  rw [visits, pairwise_append, pairwise_map, pairwise_map]
  refine ⟨(inOrder_pairwise _).imp fun hlt => .inr ⟨rfl, hlt⟩,
    (inOrder_pairwise _).imp fun hlt => .inr ⟨rfl, hlt⟩, fun visit hvisit visit' hvisit' => ?_⟩
  obtain ⟨entry, -, rfl⟩ := mem_map.mp hvisit
  obtain ⟨entry', -, rfl⟩ := mem_map.mp hvisit'
  exact .inl ⟨rfl, rfl⟩

theorem offers_pairwise (record : List Field) (ref : FieldRef IE) :
    (peer.offers obsDomainId record ref).Pairwise Offer.Before := by
  refine List.Pairwise.filterMap _ ?_ ((peer.visits_pairwise obsDomainId).filter _)
  intro visit visit' horder offer hoffer offer' hoffer'
  obtain ⟨field, -, rfl⟩ := Option.map_eq_some_iff.mp hoffer
  obtain ⟨field', -, rfl⟩ := Option.map_eq_some_iff.mp hoffer'
  exact horder

/-- The scopes of a level. -/
def scopesAt (ofDomain : Bool) : ScopedMetadata IE Field :=
  if ofDomain then (peer.domainScoped.lookup obsDomainId).getD ∅ else peer.global

omit [HasIE Field IE] in
theorem mem_visits {peer : PeerMetadata IE Field} {obsDomainId : BitVec 32}
    {visit : Bool × IndexedScopeFields IE Field × IndexedMetadata IE Field} :
    visit ∈ peer.visits obsDomainId ↔
      (peer.scopesAt obsDomainId visit.1).lookup visit.2.1 = some visit.2.2 := by
  obtain ⟨ofDomain, scope, metadata⟩ := visit
  rw [visits, mem_append, mem_map, mem_map]
  constructor
  · rintro (⟨entry, hentry, heq⟩ | ⟨entry, hentry, heq⟩)
    all_goals
      obtain ⟨rfl, rfl, rfl⟩ := by simpa using heq
      exact mem_inOrder.mp hentry
  · intro h
    cases ofDomain with
    | false => exact .inl ⟨⟨scope, metadata⟩, mem_inOrder.mpr h, rfl⟩
    | true => exact .inr ⟨⟨scope, metadata⟩, mem_inOrder.mpr h, rfl⟩

theorem mem_offers {peer : PeerMetadata IE Field} {obsDomainId : BitVec 32} {record : List Field}
    {ref : FieldRef IE} {offer : Offer IE Field} :
    offer ∈ peer.offers obsDomainId record ref ↔
      (∃ metadata, (peer.scopesAt obsDomainId offer.ofDomain).lookup offer.scope = some metadata ∧
        metadata.lookup ref = some offer.field) ∧
      offer.scope.matchesFields (mapFieldsIntoFxhashmap record) = true := by
  rw [offers, mem_filterMap]
  constructor
  · rintro ⟨visit, hvisit, hoffer⟩
    obtain ⟨hmem, hmatch⟩ := mem_filter.mp hvisit
    obtain ⟨field, hfield, rfl⟩ := Option.map_eq_some_iff.mp hoffer
    exact ⟨⟨visit.2.2, mem_visits.mp hmem, hfield⟩, hmatch⟩
  · rintro ⟨⟨metadata, hscope, hfield⟩, hmatch⟩
    refine ⟨(offer.ofDomain, offer.scope, metadata),
      mem_filter.mpr ⟨mem_visits.mpr hscope, hmatch⟩, ?_⟩
    simp only [hfield]
    rfl

end PeerMetadata

namespace EnrichmentCache

/-- What is stored for a peer, on a level, under a scope and a reference. -/
def stored (cache : EnrichmentCache IE Field Ip) (ip : Ip) (obsDomainId : BitVec 32)
    (ofDomain : Bool) (scope : IndexedScopeFields IE Field) (ref : FieldRef IE) :
    Option (WeightedField Field) :=
  (((cache.lookup ip).getD ⟨∅, ∅⟩).scopesAt obsDomainId ofDomain).lookup scope
    |>.bind fun metadata => metadata.lookup ref

/-! What the operations do to what is stored. -/

section Operations

variable (cache : EnrichmentCache IE Field Ip) (ip : Ip) (scope : Scope Field)

/-- The scope is one of this level and domain. -/
def Addressed (scope : Scope Field) (obsDomainId : BitVec 32) (ofDomain : Bool) : Prop :=
  (scope.obsDomainId = 0 ∧ ofDomain = false) ∨
    (scope.obsDomainId ≠ 0 ∧ ofDomain = true ∧ obsDomainId = scope.obsDomainId)

instance (scope : Scope Field) (obsDomainId : BitVec 32) (ofDomain : Bool) :
    Decidable (Addressed scope obsDomainId ofDomain) :=
  inferInstanceAs (Decidable (_ ∨ _))

omit [LinearOrder Field] [HasIE Field IE] in
theorem lookup_store (peer : PeerMetadata IE Field) (ip' : Ip) :
    ((store cache ip peer).lookup ip').getD ⟨∅, ∅⟩ =
      if ip' = ip then peer else (cache.lookup ip').getD ⟨∅, ∅⟩ := by
  rw [store]
  split
  · rename_i hempty
    rw [Bool.and_eq_true, List.isEmpty_iff, List.isEmpty_iff] at hempty
    obtain ⟨global, domainScoped⟩ := peer
    obtain rfl : global = ∅ := AList.ext hempty.1
    obtain rfl : domainScoped = ∅ := AList.ext hempty.2
    rcases eq_or_ne ip' ip with rfl | hne
    · simp
    · simp [hne, lookup_erase_ne hne]
  · rcases eq_or_ne ip' ip with rfl | hne
    · simp
    · simp [hne, lookup_insert_ne hne]

omit [HasIE Field IE] in
theorem lookup_upsertScope (scopeFields scopeFields' : IndexedScopeFields IE Field)
    (weight : Weight) (incoming : IndexedMetadata IE Field) (target : ScopedMetadata IE Field)
    (ref : FieldRef IE) :
    ((upsertScope scopeFields weight incoming target).lookup scopeFields').bind
        (fun metadata => metadata.lookup ref) =
      if scopeFields' = scopeFields then
        merged (fun field _ => decide (field.weight ≤ weight))
          ((target.lookup scopeFields').bind fun metadata => metadata.lookup ref)
          (incoming.lookup ref)
      else (target.lookup scopeFields').bind fun metadata => metadata.lookup ref := by
  rcases eq_or_ne scopeFields' scopeFields with rfl | hne
  · rw [upsertScope]
    cases hlookup : target.lookup scopeFields' with
    | none => cases hin : incoming.lookup ref <;> simp [merged, hin]
    | some current => simp [upsertFields, lookup_mergeWith]
  · rw [upsertScope]
    cases hlookup : target.lookup scopeFields <;> simp [hne, lookup_insert_ne hne]

omit [HasIE Field IE] in
theorem lookup_deleteFields {scopeFields : IndexedScopeFields IE Field}
    {selected : FieldRef IE → WeightedField Field → Bool} {target kept : ScopedMetadata IE Field}
    (h : deleteFields scopeFields selected target = some kept)
    (scopeFields' : IndexedScopeFields IE Field) (ref : FieldRef IE) :
    (kept.lookup scopeFields').bind (fun metadata => metadata.lookup ref) =
      if scopeFields' = scopeFields then
        ((target.lookup scopeFields').bind fun metadata => metadata.lookup ref).filter
          fun field => !selected ref field
      else (target.lookup scopeFields').bind fun metadata => metadata.lookup ref := by
  obtain ⟨current, hcurrent, rfl⟩ := Option.map_eq_some_iff.mp h
  have hkept := lookup_retain (fun fieldRef field => !selected fieldRef field) current ref
  rcases eq_or_ne scopeFields' scopeFields with rfl | hne
  · rw [if_pos rfl, hcurrent, Option.bind_some, ← hkept]
    dsimp only
    split
    · rename_i hempty
      rw [List.isEmpty_iff] at hempty
      have : retain (fun fieldRef field => !selected fieldRef field) current = ∅ :=
        AList.ext hempty
      simp [this]
    · simp
  · rw [if_neg hne]
    dsimp only
    split
    · rw [lookup_erase_ne hne]
    · rw [lookup_insert_ne hne]

/-- A peer one of whose levels has been replaced. -/
def withScopes (peer : PeerMetadata IE Field) (scope : Scope Field)
    (target : ScopedMetadata IE Field) : PeerMetadata IE Field :=
  if scope.obsDomainId = 0 then { peer with global := target }
  else { peer with domainScoped :=
    if target.entries.isEmpty then peer.domainScoped.erase scope.obsDomainId
    else peer.domainScoped.insert scope.obsDomainId target }

/-- The level of a scope. -/
def scopesOf (peer : PeerMetadata IE Field) (scope : Scope Field) : ScopedMetadata IE Field :=
  peer.scopesAt scope.obsDomainId (decide (scope.obsDomainId ≠ 0))

omit [LinearOrder Field] [HasIE Field IE] in
theorem scopesAt_withScopes (peer : PeerMetadata IE Field) (target : ScopedMetadata IE Field)
    (obsDomainId : BitVec 32) (ofDomain : Bool) :
    (withScopes peer scope target).scopesAt obsDomainId ofDomain =
      if Addressed scope obsDomainId ofDomain then target
      else peer.scopesAt obsDomainId ofDomain := by
  rw [withScopes]
  by_cases hzero : scope.obsDomainId = 0#32
  · cases ofDomain <;> simp [Addressed, hzero, scopesAt]
  · cases ofDomain with
    | false => simp [Addressed, hzero, scopesAt]
    | true =>
      rcases eq_or_ne obsDomainId scope.obsDomainId with rfl | hne
      · by_cases hempty : target.entries.isEmpty
        · have : target = ∅ := AList.ext (List.isEmpty_iff.mp hempty)
          simp [Addressed, hzero, scopesAt, this]
        · simp [Addressed, hzero, scopesAt, hempty]
      · by_cases hempty : target.entries.isEmpty
        · simp [Addressed, hzero, scopesAt, hempty, hne, lookup_erase_ne hne]
        · simp [Addressed, hzero, scopesAt, hempty, hne, lookup_insert_ne hne]

omit [LinearOrder Field] [HasIE Field IE] in
theorem scopesOf_eq {obsDomainId : BitVec 32} {ofDomain : Bool}
    (h : Addressed scope obsDomainId ofDomain) (peer : PeerMetadata IE Field) :
    scopesOf peer scope = peer.scopesAt obsDomainId ofDomain := by
  rw [scopesOf]
  rcases h with ⟨hzero, hglobal⟩ | ⟨hzero, hdomain, hid⟩
  · simp [hzero, hglobal, scopesAt]
  · rw [hdomain, hid, decide_eq_true hzero]

/-- The fields of an upsert, by their references. -/
def incomingFields (weight : Weight) (fields : List Field) : IndexedMetadata IE Field :=
  collectMap ((mapFields fields).map fun entry => (entry.1, WeightedField.mk weight entry.2))

theorem upsert_eq (weight : Weight) {fields : List Field} (hfields : fields ≠ []) :
    upsert cache ip scope weight fields =
      cache.insert ip (withScopes ((cache.lookup ip).getD ⟨∅, ∅⟩) scope
        (upsertScope (ofScope scope) weight (incomingFields weight fields)
          (scopesOf ((cache.lookup ip).getD ⟨∅, ∅⟩) scope))) := by
  have hnot : fields.isEmpty = false := by simpa using hfields
  have hnonempty (target : ScopedMetadata IE Field) : (upsertScope
      (ofScope scope) weight (incomingFields weight fields)
        target).entries.isEmpty = false := by
    rw [upsertScope]
    split <;> rfl
  rw [upsert, hnot, withScopes, hnonempty]
  by_cases hzero : scope.obsDomainId = 0#32
  · simp [hzero, scopesOf, scopesAt, incomingFields]
  · simp [hzero, scopesOf, scopesAt, incomingFields]

theorem stored_upsert (weight : Weight) (fields : List Field) (ip' : Ip) (obsDomainId : BitVec 32)
    (ofDomain : Bool) (scopeFields : IndexedScopeFields IE Field) (ref : FieldRef IE) :
    (upsert cache ip scope weight fields).stored ip' obsDomainId ofDomain scopeFields ref =
      if ip' = ip ∧ Addressed scope obsDomainId ofDomain ∧
          scopeFields = ofScope scope then
        merged (fun field _ => decide (field.weight ≤ weight))
          (cache.stored ip' obsDomainId ofDomain scopeFields ref)
          ((incomingFields weight fields).lookup ref)
      else cache.stored ip' obsDomainId ofDomain scopeFields ref := by
  rcases eq_or_ne fields [] with rfl | hfields
  · have hnone : (incomingFields weight ([] : List Field)).lookup ref = none := rfl
    rw [hnone, merged_none, ite_self]
    rfl
  · rw [upsert_eq cache ip scope weight hfields, stored]
    rcases eq_or_ne ip' ip with rfl | hne
    · rw [lookup_insert, Option.getD_some, scopesAt_withScopes]
      by_cases haddressed : Addressed scope obsDomainId ofDomain
      · rw [if_pos haddressed, lookup_upsertScope, scopesOf_eq scope haddressed]
        simp [haddressed, stored]
      · simp [haddressed, stored]
    · rw [lookup_insert_ne hne, if_neg (fun h => hne h.1), stored]

variable (selected : FieldRef IE → WeightedField Field → Bool)

theorem deleteSelected_eq {peer : PeerMetadata IE Field} (hpeer : cache.lookup ip = some peer) :
    deleteSelected cache ip scope selected =
      match deleteFields (ofScope scope) selected (scopesOf peer scope) with
      | none => cache
      | some target => store cache ip (withScopes peer scope target) := by
  rw [deleteSelected, hpeer]
  by_cases hzero : scope.obsDomainId = 0#32
  · simp [hzero, scopesOf, scopesAt, withScopes]
  · cases hdomain : peer.domainScoped.lookup scope.obsDomainId with
    | none => simp [hzero, scopesOf, scopesAt, hdomain, deleteFields]
    | some target => simp [hzero, scopesOf, scopesAt, hdomain, withScopes]

theorem stored_deleteSelected (ip' : Ip) (obsDomainId : BitVec 32) (ofDomain : Bool)
    (scopeFields : IndexedScopeFields IE Field) (ref : FieldRef IE) :
    (deleteSelected cache ip scope selected).stored ip' obsDomainId ofDomain scopeFields ref =
      if ip' = ip ∧ Addressed scope obsDomainId ofDomain ∧
          scopeFields = ofScope scope then
        (cache.stored ip' obsDomainId ofDomain scopeFields ref).filter
          fun field => !selected ref field
      else cache.stored ip' obsDomainId ofDomain scopeFields ref := by
  cases hpeer : cache.lookup ip with
  | none =>
    have hcache : deleteSelected cache ip scope selected = cache := by rw [deleteSelected, hpeer]
    rw [hcache]
    split
    · rename_i h
      have hnone : cache.stored ip' obsDomainId ofDomain scopeFields ref = none := by
        rw [stored, h.1, hpeer]
        cases ofDomain <;> rfl
      rw [hnone]
      rfl
    · rfl
  | some peer =>
    rw [deleteSelected_eq cache ip scope selected hpeer]
    cases hdelete : deleteFields (ofScope scope) selected
        (scopesOf peer scope) with
    | none =>
      -- there is no such scope
      dsimp only
      split
      · rename_i h
        have hnone : cache.stored ip' obsDomainId ofDomain scopeFields ref = none := by
          rw [deleteFields, Option.map_eq_none_iff, scopesOf_eq scope h.2.1] at hdelete
          rw [stored, h.1, hpeer, Option.getD_some, h.2.2, hdelete]
          rfl
        rw [hnone]
        rfl
      · rfl
    | some target =>
      dsimp only
      rw [stored, lookup_store]
      rcases eq_or_ne ip' ip with rfl | hne
      · rw [if_pos rfl, scopesAt_withScopes, stored, hpeer, Option.getD_some]
        by_cases haddressed : Addressed scope obsDomainId ofDomain
        · rw [if_pos haddressed, lookup_deleteFields hdelete, scopesOf_eq scope haddressed]
          simp [haddressed]
        · simp [haddressed]
      · rw [if_neg hne, if_neg (fun h => hne h.1), stored]

omit [LinearOrder Field] [HasIE Field IE] in
theorem mem_of_lookup_collectMap {V : Type} {entries : List (FieldRef IE × V)} {ref : FieldRef IE}
    {v : V} (h : (collectMap entries).lookup ref = some v) : (ref, v) ∈ entries := by
  induction entries using List.reverseRecOn with
  | nil => cases h
  | append_singleton entries entry ih =>
    rw [collectMap, foldl_append, foldl_cons, foldl_nil] at h
    rcases eq_or_ne ref entry.1 with rfl | hne
    · rw [lookup_insert] at h
      obtain rfl := Option.some.inj h
      simp
    · rw [lookup_insert_ne hne] at h
      exact mem_append_left _ (ih h)

omit [LinearOrder Field] in
theorem weight_of_incomingFields {weight : Weight} {fields : List Field} {ref : FieldRef IE}
    {field : WeightedField Field} (h : (incomingFields weight fields).lookup ref = some field) :
    field.weight = weight := by
  obtain ⟨entry, -, heq⟩ := mem_map.mp (mem_of_lookup_collectMap h)
  rw [← (Prod.mk.inj heq).2]

end Operations

variable (cache : EnrichmentCache IE Field Ip)

/-- A scope that matches the record stores the field. -/
def Offers (ip : Ip) (obsDomainId : BitVec 32) (record : List Field) (ref : FieldRef IE)
    (offer : Offer IE Field) : Prop :=
  cache.stored ip obsDomainId offer.ofDomain offer.scope ref = some offer.field ∧
    offer.scope.matchesFields (mapFieldsIntoFxhashmap record) = true

/-- The fields that are chosen for a record, by their references. -/
def chosen (ip : Ip) (obsDomainId : BitVec 32) (record : List Field) : IndexedMetadata IE Field :=
  ((cache.lookup ip).getD ⟨∅, ∅⟩).selectFields obsDomainId record

theorem mem_offers_iff {cache : EnrichmentCache IE Field Ip} {ip : Ip} {obsDomainId : BitVec 32}
    {record : List Field} {ref : FieldRef IE} {offer : Offer IE Field} :
    offer ∈ ((cache.lookup ip).getD ⟨∅, ∅⟩).offers obsDomainId record ref ↔
      cache.Offers ip obsDomainId record ref offer := by
  rw [mem_offers, Offers, stored, Option.bind_eq_some_iff]

/-- One field is returned for each reference. -/
theorem getEnrichmentFields_eq (ip : Ip) (obsDomainId : BitVec 32) (record : List Field) :
    cache.getEnrichmentFields ip obsDomainId record =
      if (cache.chosen ip obsDomainId record).entries.isEmpty then none
      else some ((cache.chosen ip obsDomainId record).entries.map (·.2.field)) := by
  rw [getEnrichmentFields, chosen]
  cases cache.lookup ip with
  | none => rfl
  | some peer =>
    rw [Option.bind_some, Option.getD_some, PeerMetadata.getEnrichmentFields]
    split
    · -- a peer without scopes chooses nothing
      rename_i hempty
      rw [Bool.and_eq_true, List.isEmpty_iff, List.isEmpty_iff] at hempty
      have hglobal : peer.global = ∅ := AList.ext hempty.1
      have hdomains : peer.domainScoped = ∅ := AList.ext hempty.2
      rw [selectFields, hglobal, hdomains]
      rfl
    · rfl

/-- The offer is for the domain and the other is not, or on the same level its scope has
the fields of the other and more. -/
def MoreSpecific (offer' offer : Offer IE Field) : Prop :=
  (offer'.ofDomain = true ∧ offer.ofDomain = false) ∨
    (offer'.ofDomain = offer.ofDomain ∧ (∀ entry ∈ offer.scope, entry ∈ offer'.scope) ∧
      ∃ entry ∈ offer'.scope, entry ∉ offer.scope)

/-- No offer of the same weight is more specific. -/
def Foremost (ip : Ip) (obsDomainId : BitVec 32) (record : List Field) (ref : FieldRef IE)
    (offer : Offer IE Field) : Prop :=
  cache.Offers ip obsDomainId record ref offer ∧
    ∀ offer', cache.Offers ip obsDomainId record ref offer' →
      offer'.field.weight = offer.field.weight → ¬ MoreSpecific offer' offer

/-- A field is chosen exactly if one is offered; it has the highest weight, and of equal
weights it is that of the most specific scope. -/
structure Precedence (cache : EnrichmentCache IE Field Ip) (ip : Ip) (obsDomainId : BitVec 32)
    (record : List Field) (ref : FieldRef IE) (field : Option (WeightedField Field)) : Prop where
  some_iff : field.isSome ↔ ∃ offer, cache.Offers ip obsDomainId record ref offer
  heaviest : ∀ best ∈ field, ∀ offer, cache.Offers ip obsDomainId record ref offer →
    offer.field.weight ≤ best.weight
  foremost : ∀ best ∈ field, ∃ offer, cache.Foremost ip obsDomainId record ref offer ∧
    offer.field = best

/-- Of the offers with the highest weight, the one that is visited last. -/
def IsLast (cache : EnrichmentCache IE Field Ip) (ip : Ip) (obsDomainId : BitVec 32)
    (record : List Field) (ref : FieldRef IE) (offer : Offer IE Field) : Prop :=
  cache.Offers ip obsDomainId record ref offer ∧
    ∀ offer', cache.Offers ip obsDomainId record ref offer' →
      offer'.field.weight < offer.field.weight ∨
        offer'.field.weight = offer.field.weight ∧ (offer' = offer ∨ offer'.Before offer)

section Precedence

variable {cache : EnrichmentCache IE Field Ip} {ip : Ip} {obsDomainId : BitVec 32}
  {record : List Field} {ref : FieldRef IE}

theorem IsLast.unique {offer offer' : Offer IE Field}
    (h : cache.IsLast ip obsDomainId record ref offer)
    (h' : cache.IsLast ip obsDomainId record ref offer') : offer = offer' := by
  rcases h.2 offer' h'.1 with hlt | ⟨heq, heq' | hbefore⟩
  · rcases h'.2 offer h.1 with hlt' | ⟨heq', -⟩
    · exact absurd hlt' (lt_asymm hlt)
    · exact absurd heq' hlt.ne'
  · exact heq'.symm
  · rcases h'.2 offer h.1 with hlt' | ⟨-, heq' | hbefore'⟩
    · exact absurd heq hlt'.ne'
    · exact heq'
    · -- each would be visited before the other
      rcases hbefore with ⟨hf, ht⟩ | ⟨hsame, hlt⟩ <;> rcases hbefore' with ⟨hf', ht'⟩ | ⟨hsame', hlt'⟩
      · rw [hf] at ht'
        cases ht'
      · rw [hf, ht] at hsame'
        cases hsame'
      · rw [hf', ht'] at hsame
        cases hsame
      · exact absurd hlt' (lt_asymm hlt)

/-- What is chosen is what is visited last among the best. -/
theorem exists_isLast {best : WeightedField Field}
    (h : (cache.chosen ip obsDomainId record).lookup ref = some best) :
    ∃ offer, cache.IsLast ip obsDomainId record ref offer ∧ offer.field = best := by
  rw [chosen, lookup_selectFields, Option.map_eq_some_iff] at h
  obtain ⟨offer, hfold, hfield⟩ := h
  obtain ⟨before, after, hsplit, hbefore, hafter⟩ := split_of_foldl_better _ hfold
  have hpairs := ((cache.lookup ip).getD ⟨∅, ∅⟩).offers_pairwise obsDomainId record ref
  rw [hsplit, pairwise_append] at hpairs
  refine ⟨offer, ⟨mem_offers_iff.mp (by rw [hsplit]; simp), fun offer' hoffer' => ?_⟩, hfield⟩
  rw [← mem_offers_iff, hsplit, mem_append, mem_cons] at hoffer'
  rcases hoffer' with hearlier | rfl | hlater
  · rcases lt_or_eq_of_le (hbefore offer' hearlier) with hlt | heq
    · exact .inl hlt
    · exact .inr ⟨heq, .inr (hpairs.2.2 offer' hearlier offer mem_cons_self)⟩
  · exact .inr ⟨rfl, .inl rfl⟩
  · exact .inl (hafter offer' hlater)

theorem chosen_isSome_iff :
    ((cache.chosen ip obsDomainId record).lookup ref).isSome ↔
      ∃ offer, cache.Offers ip obsDomainId record ref offer := by
  rw [chosen, lookup_selectFields, Option.isSome_map, Option.isSome_iff_ne_none,
    Ne, foldl_better_eq_none]
  constructor
  · intro hne
    obtain ⟨offer, hoffer⟩ := exists_mem_of_ne_nil _ hne
    exact ⟨offer, mem_offers_iff.mp hoffer⟩
  · rintro ⟨offer, hoffer⟩
    exact ne_nil_of_mem (mem_offers_iff.mpr hoffer)

theorem precedence_iff :
    cache.Precedence ip obsDomainId record ref
        ((cache.chosen ip obsDomainId record).lookup ref) ↔
      ∀ last, cache.IsLast ip obsDomainId record ref last →
        ∃ offer, cache.Foremost ip obsDomainId record ref offer ∧ offer.field = last.field := by
  constructor
  · rintro ⟨-, -, hforemost⟩ last hlast
    obtain ⟨best, hbest⟩ := Option.isSome_iff_exists.mp (chosen_isSome_iff.mpr ⟨last, hlast.1⟩)
    obtain ⟨offer, hoffer, rfl⟩ := exists_isLast hbest
    rw [hlast.unique hoffer]
    exact hforemost offer.field hbest
  · refine fun hlast => ⟨chosen_isSome_iff, fun best hbest offer hoffer => ?_,
      fun best hbest => ?_⟩
    · obtain ⟨last, hmax, rfl⟩ := exists_isLast hbest
      rcases hmax.2 offer hoffer with hlt | ⟨heq, -⟩
      · exact hlt.le
      · exact heq.le
    · obtain ⟨last, hmax, rfl⟩ := exists_isLast hbest
      exact hlast last hmax

end Precedence

/-- The fields of a record are chosen by weight and specificity exactly when, for each
reference, the scope that is visited last among the best is not less specific than others
(or stores the same field as one that is not). -/
theorem enrichment_precedence_iff (operations : List (EnrichmentOperation IE Field Ip)) (ip : Ip)
    (obsDomainId : BitVec 32) (record : List Field) (ref : FieldRef IE) :
    let cache : EnrichmentCache IE Field Ip := operations.foldl applyEnrichment ∅
    (cache.getEnrichmentFields ip obsDomainId record =
      if (cache.chosen ip obsDomainId record).entries.isEmpty then none
      else some ((cache.chosen ip obsDomainId record).entries.map (·.2.field))) ∧
    (cache.Precedence ip obsDomainId record ref
        ((cache.chosen ip obsDomainId record).lookup ref) ↔
      ∀ last, cache.IsLast ip obsDomainId record ref last →
        ∃ offer, cache.Foremost ip obsDomainId record ref offer ∧ offer.field = last.field) :=
  ⟨getEnrichmentFields_eq _ ip obsDomainId record, precedence_iff⟩

end EnrichmentCache

end Model

/-! ## Two scopes -/

/-- An information element and a number. -/
abbrev NumberField := Nat ×ₗ Nat

instance : HasIE NumberField Nat := ⟨fun field => (ofLex field).1⟩

/-- A field under a scope with element 2, and another one under a scope with elements 1
and 2. -/
def twoScopes : List (EnrichmentOperation Nat NumberField Unit) :=
  [.upsert () ⟨0, some [toLex (2, 20)]⟩ 1 [toLex (9, 90)],
    .upsert () ⟨0, some [toLex (1, 10), toLex (2, 20)]⟩ 1 [toLex (9, 91)]]

def twoScopesCache : EnrichmentCache Nat NumberField Unit :=
  twoScopes.foldl EnrichmentCache.applyEnrichment ∅

/-- A record that matches both. -/
def bothElements : List NumberField := [toLex (1, 10), toLex (2, 20)]

theorem twoScopes_offers (offer : Offer Nat NumberField) :
    twoScopesCache.Offers () 0 bothElements (toLex (9, 0)) offer ↔
      offer ∈ [Offer.mk false [toLex (toLex (1, 0), toLex (1, 10)),
          toLex (toLex (2, 0), toLex (2, 20))] ⟨1, toLex (9, 91)⟩,
        Offer.mk false [toLex (toLex (2, 0), toLex (2, 20))] ⟨1, toLex (9, 90)⟩] := by
  rw [← EnrichmentCache.mem_offers_iff]
  rfl

/-- The record gets the field of the scope with fewer fields. -/
theorem twoScopes_precedence_fails :
    twoScopesCache.getEnrichmentFields () 0 bothElements = some [toLex (9, 90)] ∧
      ¬ twoScopesCache.Precedence () 0 bothElements (toLex (9, 0))
        ((twoScopesCache.chosen () 0 bothElements).lookup (toLex (9, 0))) := by
  refine ⟨rfl, fun hprecedence => ?_⟩
  obtain ⟨offer, ⟨hoffer, hforemost⟩, hfield⟩ :=
    hprecedence.foremost ⟨1, toLex (9, 90)⟩ rfl
  rw [twoScopes_offers, mem_pair] at hoffer
  rcases hoffer with rfl | rfl
  · exact absurd hfield (by decide)
  · refine hforemost _ ((twoScopes_offers _).mpr (.head _)) rfl (.inr ⟨rfl, ?_, ?_⟩)
    · simp
    · exact ⟨toLex (toLex (1, 0), toLex (1, 10)), .head _, by decide⟩

end NetCalyx.Collector
