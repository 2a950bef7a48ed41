import NetCalyx.Collector.History

/-!
# Enrichment from the Sonata inventory

Messages insert, update and delete nodes, each with a loopback address. The handler remembers the
address of each node. A node that leaves an address has the name and the platform deleted there,
and a node that comes to an address has its own upserted.

Nodes may share an address. The delete for one of them then takes the fields of the others:
`sonata_mirrors_iff` says that the cache mirrors the inventory in every state if and only if no
node ever leaves an address that another one has.
-/

namespace NetCalyx.Collector
open Collections HasIE List AList

inductive InputProcessingError where
  | invalidFormat (context reason : String)
  | conversionError (context reason : String)
  | jsonError (context reason : String)

inductive SonataOperation where
  | insert
  | update
  | delete

structure SonataPlatform where
  name : String

structure SonataNode (Ip : Type) where
  hostname : String
  loopbackAddress : Ip
  platform : SonataPlatform

structure SonataData (Ip : Type) where
  operation : SonataOperation
  idNode : BitVec 32
  node : Option (SonataNode Ip)

/-- The elements for the name and the platform of a node. -/
structure SonataFields (IE Field : Type) [HasIE Field IE] where
  nodeIdIE : IE
  platformIdIE : IE
  nodeId : String → Field
  platformId : String → Field
  ie_nodeId : ∀ name, ie (nodeId name) = nodeIdIE
  ie_platformId : ∀ name, ie (platformId name) = platformIdIE
  ne : nodeIdIE ≠ platformIdIE

structure SonataHandler (Ip : Type) where
  weight : Weight
  /-- The loopback address of each node. -/
  idCache : Map (BitVec 32) Ip

section Model

variable {IE Field Ip Payload : Type} [LinearOrder IE] [LinearOrder Field] [HasIE Field IE]
  [DecidableEq Ip]

def EnrichmentOperation.validate : EnrichmentOperation IE Field Ip → Bool
  | .upsert _ _ _ fields => !fields.isEmpty
  | .delete _ _ _ ies => !ies.isEmpty
  | .deleteAll _ _ _ => true

namespace SonataHandler

def new (weight : Weight) : SonataHandler Ip := ⟨weight, ∅⟩

variable (names : SonataFields IE Field)

def deleteOperation (weight : Weight) (loopback : Ip) : EnrichmentOperation IE Field Ip :=
  .delete loopback ⟨0, none⟩ weight [names.nodeIdIE, names.platformIdIE]

def upsertOperation (weight : Weight) (node : SonataNode Ip) : EnrichmentOperation IE Field Ip :=
  .upsert node.loopbackAddress ⟨0, none⟩ weight
    [names.nodeId node.hostname, names.platformId node.platform.name]

/-- `fromSlice` reads the JSON of a message. -/
def handleMessage (fromSlice : Payload → Except String (SonataData Ip)) (handler : SonataHandler Ip)
    (payload : Payload) (partition offset : Int) :
    SonataHandler Ip × Except InputProcessingError (List (EnrichmentOperation IE Field Ip)) :=
  match fromSlice payload with
  | .error reason =>
    (handler, .error (.jsonError s!"SonataHandler (partition: {partition}, offset: {offset})" reason))
  | .ok sonataData =>
    match sonataData.operation, sonataData.node with
    | .delete, _ =>
      match handler.idCache.lookup sonataData.idNode with
      | some cachedLoopback =>
        ({ handler with idCache := handler.idCache.erase sonataData.idNode },
          .ok ([deleteOperation names handler.weight cachedLoopback].filter EnrichmentOperation.validate))
      | none => (handler, .ok [])
    | _, some node =>
      let moved : List (EnrichmentOperation IE Field Ip) :=
        match handler.idCache.lookup sonataData.idNode with
        | some oldLoopback =>
          if node.loopbackAddress ≠ oldLoopback then
            [deleteOperation names handler.weight oldLoopback]
          else []
        | none => []
      ({ handler with idCache := handler.idCache.insert sonataData.idNode node.loopbackAddress },
        .ok ((moved ++ [upsertOperation names handler.weight node]).filter EnrichmentOperation.validate))
    | _, none =>
      let idNode := sonataData.idNode.toNat
      (handler, .error (.conversionError
        s!"SonataHandler (partition: {partition}, offset: {offset})"
        s!"Insert/Update operation missing node data for id_node: {idNode} "))

end SonataHandler

open SonataHandler

/-- A message as it is consumed. -/
structure KafkaMessage (Payload : Type) where
  payload : Payload
  partition : Int
  offset : Int

/-- The handler and the cache that its operations go to. -/
structure Mirroring (IE Field Ip : Type) [LinearOrder IE] where
  handler : SonataHandler Ip
  cache : EnrichmentCache IE Field Ip

namespace Mirroring

/-- A message that cannot be handled changes nothing. -/
def receive (names : SonataFields IE Field) (fromSlice : Payload → Except String (SonataData Ip))
    (state : Mirroring IE Field Ip) (message : KafkaMessage Payload) : Mirroring IE Field Ip :=
  let (handler, result) :=
    state.handler.handleMessage names fromSlice message.payload message.partition message.offset
  match result with
  | .ok ops => ⟨handler, state.cache.applyAll ops⟩
  | .error _ => ⟨handler, state.cache⟩

def run (names : SonataFields IE Field) (fromSlice : Payload → Except String (SonataData Ip))
    (weight : Weight) (messages : List (KafkaMessage Payload)) : Mirroring IE Field Ip :=
  messages.foldl (receive names fromSlice) ⟨.new weight, ∅⟩

end Mirroring

/-! ## The inventory -/

/-- The live nodes, in the order of their most recent messages. -/
abbrev Inventory (Ip : Type) := List (BitVec 32 × SonataNode Ip)

variable {inventory : Inventory Ip} {idNode : BitVec 32}

namespace Inventory

variable (inventory)

def without (idNode : BitVec 32) : Inventory Ip :=
  inventory.filter fun entry => decide (entry.1 ≠ idNode)

variable (data : SonataData Ip)

/-- A node is live from an insert or update until it is deleted. -/
def update : Inventory Ip :=
  match data.operation, data.node with
  | .delete, _ => inventory.without data.idNode
  | _, some node => inventory.without data.idNode ++ [(data.idNode, node)]
  | _, none => inventory

variable (fromSlice : Payload → Except String (SonataData Ip))

/-- What cannot be read says nothing. -/
def receive (inventory : Inventory Ip) (message : KafkaMessage Payload) : Inventory Ip :=
  match fromSlice message.payload with
  | .ok data => inventory.update data
  | .error _ => inventory

def after (messages : List (KafkaMessage Payload)) : Inventory Ip :=
  messages.foldl (receive fromSlice) []

/-- Of the live nodes with an address, the one with the most recent message. -/
def latest (ip : Ip) : Option (SonataNode Ip) :=
  (inventory.filter fun entry => decide (entry.2.loopbackAddress = ip)).getLast?.map Prod.snd

/-- The message takes its node off the address. -/
def Leaves (ip : Ip) : Prop :=
  match data.operation, data.node with
  | .delete, _ => True
  | _, some node => node.loopbackAddress ≠ ip
  | _, none => False

/-- The node of the message does not leave an address that another live node has. -/
def SparesOthers : Prop :=
  ∀ node, (data.idNode, node) ∈ inventory → Leaves data node.loopbackAddress →
    ∀ other ∈ inventory, other.1 ≠ data.idNode → other.2.loopbackAddress ≠ node.loopbackAddress

variable {inventory}

theorem latest_eq_none {ip : Ip} :
    inventory.latest ip = none ↔ ∀ entry ∈ inventory, entry.2.loopbackAddress ≠ ip := by
  simp [latest]

/-- The address of a node that is not there has no node less. -/
theorem latest_without {ip : Ip}
    (h : ∀ node, (idNode, node) ∈ inventory → node.loopbackAddress ≠ ip) :
    (inventory.without idNode).latest ip = inventory.latest ip := by
  rw [latest, latest, without, filter_filter]
  congr 2
  refine filter_congr fun entry hentry => ?_
  by_cases hip : entry.2.loopbackAddress = ip
  · have hid : entry.1 ≠ idNode := by
      rintro rfl
      exact h entry.2 hentry hip
    simp [hip, hid]
  · simp [hip]

theorem latest_append (inventory : Inventory Ip) (idNode : BitVec 32) (node : SonataNode Ip) (ip : Ip) :
    latest (inventory ++ [(idNode, node)]) ip =
      if node.loopbackAddress = ip then some node else inventory.latest ip := by
  by_cases hip : node.loopbackAddress = ip <;> simp [latest, hip]

end Inventory

open Inventory

/-! ## What the cache shows -/

/-- The global scope of an address. -/
def Place.global (ip : Ip) : Place IE Field Ip := .of ip ⟨0, none⟩

namespace SonataHandler

variable (names : SonataFields IE Field) (weight : Weight)

/-- The field of a node under a reference. -/
def fieldOf (node : SonataNode Ip) (ref : FieldRef IE) : Option (WeightedField Field) :=
  if ref = toLex (names.platformIdIE, 0) then some ⟨weight, names.platformId node.platform.name⟩
  else if ref = toLex (names.nodeIdIE, 0) then some ⟨weight, names.nodeId node.hostname⟩
  else none

/-- The cache has, for each address, exactly the fields of one node or none. -/
def Shows (cache : EnrichmentCache IE Field Ip) (shown : Ip → Option (SonataNode Ip)) : Prop :=
  ∀ place ref, cache.held place ref =
    if place = .global place.ip then (shown place.ip).bind fun node => fieldOf names weight node ref
    else none

variable {names weight}

section
omit [LinearOrder Field] [DecidableEq Ip]

theorem fieldOf_eq_some {node : SonataNode Ip} {ref : FieldRef IE} {field : WeightedField Field}
    (h : fieldOf names weight node ref = some field) :
    field.weight = weight ∧ (ofLex ref).1 ∈ [names.nodeIdIE, names.platformIdIE] := by
  rw [fieldOf] at h
  split at h
  · rename_i href
    cases h
    exact ⟨rfl, by simp [href]⟩
  · split at h
    · rename_i href
      cases h
      exact ⟨rfl, by simp [href]⟩
    · cases h

/-- Which references have a field does not depend on the node. -/
theorem fieldOf_eq_none {node node' : SonataNode Ip} {ref : FieldRef IE}
    (h : fieldOf names weight node ref = none) : fieldOf names weight node' ref = none := by
  rw [fieldOf] at h ⊢
  split at h
  · cases h
  · split at h
    · cases h
    · rename_i hplatform hnode
      rw [if_neg hplatform, if_neg hnode]

variable (names weight) in
theorem upserted_upsertOperation (node : SonataNode Ip) (ref : FieldRef IE) :
    EnrichmentCache.upserted ref (upsertOperation names weight node) = fieldOf names weight node ref := by
  have hcount : (AList.lookup (ie (names.platformId node.platform.name))
      (AList.insert names.nodeIdIE 1 (∅ : Map IE Nat))).getD 0 = 0 := by
    rw [lookup_insert_ne (names.ie_platformId _ ▸ names.ne.symm)]
    rfl
  have hfields : mapFields [names.nodeId node.hostname, names.platformId node.platform.name] =
      [(toLex (names.nodeIdIE, 0), names.nodeId node.hostname),
        (toLex (names.platformIdIE, 0), names.platformId node.platform.name)] := by
    simp only [mapFields, mapFieldsFrom, names.ie_nodeId, names.ie_platformId, lookup_empty,
      Option.getD_none, Nat.zero_add, hcount]
  rw [upsertOperation, EnrichmentCache.upserted, EnrichmentCache.incomingFields, hfields, fieldOf]
  simp only [map_cons, map_nil, collectMap, foldl_cons, foldl_nil]
  split
  · rename_i href
    rw [href, lookup_insert]
  · rename_i hne
    rw [lookup_insert_ne hne]
    split
    · rename_i href
      rw [href, lookup_insert]
    · rename_i hne
      rw [lookup_insert_ne hne]
      rfl

end

variable {cache : EnrichmentCache IE Field Ip} {shown : Ip → Option (SonataNode Ip)}
variable (h : Shows names weight cache shown)
include h

/-- An upsert shows its node. -/
theorem Shows.upsert (node : SonataNode Ip) :
    Shows names weight (cache.applyEnrichment (upsertOperation names weight node))
      (Function.update shown node.loopbackAddress (some node)) := by
  intro place ref
  have hown : (upsertOperation names weight node).place = .global node.loopbackAddress := rfl
  rw [EnrichmentCache.held_applyEnrichment, hown, upserted_upsertOperation]
  by_cases hplace : place = .global node.loopbackAddress
  · have hip : place.ip = node.loopbackAddress := congrArg Place.ip hplace
    have hheld := h place ref
    rw [hip, if_pos hplace] at hheld ⊢
    rw [if_pos hplace, Function.update_self, Option.bind_some]
    cases hfield : fieldOf names weight node ref with
    | none =>
      have hnone : cache.held place ref = none := by
        rw [hheld]
        cases shown node.loopbackAddress with
        | none => rfl
        | some node' => exact fieldOf_eq_none hfield
      rw [hnone]
      rfl
    | some field =>
      cases hcurrent : cache.held place ref with
      | none => rfl
      | some current =>
        rw [hcurrent] at hheld
        obtain ⟨node', -, hnode'⟩ := Option.bind_eq_some_iff.mp hheld.symm
        have hweight : current.weight ≤ field.weight := by
          rw [(fieldOf_eq_some hnode').1, (fieldOf_eq_some hfield).1]
        exact if_pos hweight
  · rw [if_neg hplace, h place ref]
    by_cases hglobal : place = .global place.ip
    · have hip : place.ip ≠ node.loopbackAddress := fun hip => hplace (hip ▸ hglobal)
      rw [if_pos hglobal, if_pos hglobal, Function.update_of_ne hip]
    · rw [if_neg hglobal, if_neg hglobal]

/-- A delete shows no node. -/
theorem Shows.delete (loopback : Ip) :
    Shows names weight (cache.applyEnrichment (deleteOperation names weight loopback))
      (Function.update shown loopback none) := by
  intro place ref
  have hown : (deleteOperation names weight loopback).place = .global loopback := rfl
  rw [EnrichmentCache.held_applyEnrichment, hown]
  by_cases hplace : place = .global loopback
  · have hip : place.ip = loopback := congrArg Place.ip hplace
    have hheld := h place ref
    rw [hip, if_pos hplace] at hheld ⊢
    rw [if_pos hplace, Function.update_self, Option.bind_none]
    show Option.filter _ _ = none
    cases hcurrent : cache.held place ref with
    | none => rfl
    | some current =>
      rw [hcurrent] at hheld
      obtain ⟨node', -, hnode'⟩ := Option.bind_eq_some_iff.mp hheld.symm
      obtain ⟨hweight, hie⟩ := fieldOf_eq_some hnode'
      have hdeletes : EnrichmentCache.deletes ref current (deleteOperation names weight loopback) = true := by
        rw [deleteOperation, EnrichmentCache.deletes, decide_eq_true hweight.le, decide_eq_true hie]
        rfl
      simp [Option.filter, hdeletes]
  · rw [if_neg hplace, h place ref]
    by_cases hglobal : place = .global place.ip
    · have hip : place.ip ≠ loopback := fun hip => hplace (hip ▸ hglobal)
      rw [if_pos hglobal, if_pos hglobal, Function.update_of_ne hip]
    · rw [if_neg hglobal, if_neg hglobal]

/-- The cache tells which addresses have a node. -/
theorem Shows.none_iff {shown' : Ip → Option (SonataNode Ip)} (h' : Shows names weight cache shown')
    (ip : Ip) : shown ip = none ↔ shown' ip = none := by
  have hsame := (h (.global ip) (toLex (names.platformIdIE, 0))).symm.trans (h' (.global ip) _)
  have hglobal : (Place.global ip : Place IE Field Ip) = .global (Place.global ip : Place IE Field Ip).ip := rfl
  rw [if_pos hglobal, if_pos hglobal] at hsame
  change (shown ip).bind _ = (shown' ip).bind _ at hsame
  cases hshown : shown ip <;> cases hshown' : shown' ip <;> simp [hshown, hshown', fieldOf] at hsame ⊢

end SonataHandler

/-! ## One message -/

namespace Inventory

omit [DecidableEq Ip] in
theorem mem_without {entry : BitVec 32 × SonataNode Ip} :
    entry ∈ inventory.without idNode ↔ entry ∈ inventory ∧ entry.1 ≠ idNode := by
  rw [without, mem_filter, decide_eq_true_iff]

/-- Without a node, its address has none left if no other node has it. -/
theorem latest_without_eq {old : Ip}
    (hold : ∀ node, (idNode, node) ∈ inventory → node.loopbackAddress = old)
    (hspares : ∀ other ∈ inventory, other.1 ≠ idNode → other.2.loopbackAddress ≠ old) :
    (inventory.without idNode).latest = Function.update inventory.latest old none := by
  funext ip
  obtain rfl | hne := eq_or_ne ip old
  · rw [Function.update_self, latest_eq_none]
    intro entry hentry
    exact hspares entry (mem_without.mp hentry).1 (mem_without.mp hentry).2
  · rw [Function.update_of_ne hne]
    exact latest_without fun node hnode => hold node hnode ▸ hne.symm

/-- A node that comes last is shown at its address. -/
theorem latest_append_eq (inventory : Inventory Ip) (idNode : BitVec 32) (node : SonataNode Ip) :
    latest (inventory ++ [(idNode, node)]) =
      Function.update inventory.latest node.loopbackAddress (some node) := by
  funext ip
  rw [latest_append]
  obtain rfl | hne := eq_or_ne ip node.loopbackAddress
  · rw [if_pos rfl, Function.update_self]
  · rw [if_neg hne.symm, Function.update_of_ne hne]

end Inventory

namespace Mirroring

variable {names : SonataFields IE Field} {fromSlice : Payload → Except String (SonataData Ip)}

/-- The handler knows the address of each live node. -/
structure Tracks (handler : SonataHandler Ip) (weight : Weight) (inventory : Inventory Ip) : Prop where
  weight : handler.weight = weight
  address : ∀ idNode ip, handler.idCache.lookup idNode = some ip ↔
    ∃ node, (idNode, node) ∈ inventory ∧ node.loopbackAddress = ip

/-- What a message does: a known node is deleted, a node stays where it was or is new, a node moves,
or nothing happens. -/
inductive Step (names : SonataFields IE Field) (state : Mirroring IE Field Ip) (data : SonataData Ip)
    (inventory : Inventory Ip) : Mirroring IE Field Ip → Inventory Ip → Prop where
  | deleted {old : Ip} (hold : state.handler.idCache.lookup data.idNode = some old)
      (hleaves : ∀ ip, Inventory.Leaves data ip) :
      Step names state data inventory
        ⟨{ state.handler with idCache := state.handler.idCache.erase data.idNode },
          state.cache.applyEnrichment (deleteOperation names state.handler.weight old)⟩
        (inventory.without data.idNode)
  | placed {node : SonataNode Ip}
      (hold : ∀ old, state.handler.idCache.lookup data.idNode = some old → node.loopbackAddress = old)
      (hleaves : ∀ ip, Inventory.Leaves data ip ↔ node.loopbackAddress ≠ ip) :
      Step names state data inventory
        ⟨{ state.handler with idCache :=
            state.handler.idCache.insert data.idNode node.loopbackAddress },
          state.cache.applyEnrichment (upsertOperation names state.handler.weight node)⟩
        (inventory.without data.idNode ++ [(data.idNode, node)])
  | moved {node : SonataNode Ip} {old : Ip}
      (hold : state.handler.idCache.lookup data.idNode = some old) (hne : node.loopbackAddress ≠ old)
      (hleaves : ∀ ip, Inventory.Leaves data ip ↔ node.loopbackAddress ≠ ip) :
      Step names state data inventory
        ⟨{ state.handler with idCache :=
            state.handler.idCache.insert data.idNode node.loopbackAddress },
          (state.cache.applyEnrichment (deleteOperation names state.handler.weight old)).applyEnrichment
            (upsertOperation names state.handler.weight node)⟩
        (inventory.without data.idNode ++ [(data.idNode, node)])
  | unknown (hold : state.handler.idCache.lookup data.idNode = none) :
      Step names state data inventory state (inventory.without data.idNode)
  | incomplete (hleaves : ∀ ip, ¬ Inventory.Leaves data ip) : Step names state data inventory state inventory

variable {state : Mirroring IE Field Ip} {weight : Weight} {data : SonataData Ip}

theorem receive_step {message : KafkaMessage Payload} (hdata : fromSlice message.payload = .ok data)
    (inventory : Inventory Ip) :
    Step names state data inventory (state.receive names fromSlice message)
      (inventory.receive fromSlice message) := by
  obtain ⟨operation, idNode, node⟩ := data
  rw [receive, handleMessage, hdata, Inventory.receive, hdata]
  have hupsert (node : SonataNode Ip) (operation : SonataOperation)
      (hleaves : ∀ ip, Inventory.Leaves ⟨operation, idNode, some node⟩ ip ↔ node.loopbackAddress ≠ ip) :
      Step names state ⟨operation, idNode, some node⟩ inventory
        ⟨{ state.handler with idCache := state.handler.idCache.insert idNode node.loopbackAddress },
          state.cache.applyAll (((match state.handler.idCache.lookup idNode with
            | some oldLoopback =>
              if node.loopbackAddress ≠ oldLoopback then
                [deleteOperation names state.handler.weight oldLoopback]
              else []
            | none => []) ++ [upsertOperation names state.handler.weight node]).filter
              EnrichmentOperation.validate)⟩
        (inventory.without idNode ++ [(idNode, node)]) := by
    cases hlookup : state.handler.idCache.lookup idNode with
    | none => exact .placed (fun old hold => (by cases hlookup.symm.trans hold)) hleaves
    | some old =>
      by_cases hne : node.loopbackAddress ≠ old
      · simp only [if_pos hne]
        exact .moved hlookup hne hleaves
      · simp only [if_neg hne]
        exact .placed (fun old' hold => (not_not.mp hne).trans (Option.some.inj (hlookup.symm.trans hold)))
          hleaves
  cases operation with
  | delete =>
    cases hlookup : state.handler.idCache.lookup idNode with
    | none =>
      simp only [hlookup]
      exact .unknown hlookup
    | some old =>
      simp only [hlookup]
      exact .deleted hlookup fun ip => trivial
  | insert | update =>
    cases node with
    | none => exact .incomplete fun ip h => h
    | some node => exact hupsert node _ fun ip => Iff.rfl

variable {handler : SonataHandler Ip}

omit [DecidableEq Ip] in
theorem Tracks.insert (h : Tracks handler weight inventory) (idNode : BitVec 32)
    (node : SonataNode Ip) :
    Tracks { handler with idCache := handler.idCache.insert idNode node.loopbackAddress } weight
      (inventory.without idNode ++ [(idNode, node)]) where
  weight := h.weight
  address id ip := by
    simp only [mem_append, mem_without, mem_singleton, Prod.mk.injEq]
    obtain rfl | hne := eq_or_ne id idNode
    · rw [lookup_insert, Option.some_inj]
      simp
    · rw [lookup_insert_ne hne, h.address]
      simp [hne]

omit [DecidableEq Ip] in
theorem Tracks.erase (h : Tracks handler weight inventory) (idNode : BitVec 32) :
    Tracks { handler with idCache := handler.idCache.erase idNode } weight
      (inventory.without idNode) where
  weight := h.weight
  address id ip := by
    simp only [mem_without]
    obtain rfl | hne := eq_or_ne id idNode
    · rw [lookup_erase]
      simp
    · rw [lookup_erase_ne hne, h.address]
      simp [hne]

omit [DecidableEq Ip] in
/-- An unknown node is not live. -/
theorem Tracks.without_eq (h : Tracks handler weight inventory)
    (hold : handler.idCache.lookup idNode = none) : inventory.without idNode = inventory := by
  refine filter_eq_self.mpr fun entry hentry => decide_eq_true ?_
  rintro rfl
  cases hold.symm.trans ((h.address entry.1 _).mpr ⟨entry.2, hentry, rfl⟩)

theorem Step.tracks {after : Mirroring IE Field Ip} {later : Inventory Ip}
    (hstep : Step names state data inventory after later)
    (h : Tracks state.handler weight inventory) : Tracks after.handler weight later := by
  cases hstep with
  | deleted => exact h.erase data.idNode
  | placed | moved => exact h.insert data.idNode _
  | unknown hold =>
    rw [h.without_eq hold]
    exact h
  | incomplete => exact h

/-- After a message the cache mirrors the inventory if and only if the node of the message does not
leave others behind. -/
theorem Step.shows_iff {after : Mirroring IE Field Ip} {later : Inventory Ip}
    (hstep : Step names state data inventory after later)
    (htracks : Tracks state.handler weight inventory)
    (hshows : SonataHandler.Shows names weight state.cache inventory.latest) :
    SonataHandler.Shows names weight after.cache later.latest ↔ inventory.SparesOthers data := by
  obtain rfl := htracks.weight
  have haddress {old : Ip} (hold : state.handler.idCache.lookup data.idNode = some old)
      (node : SonataNode Ip) (hnode : (data.idNode, node) ∈ inventory) : node.loopbackAddress = old :=
    Option.some.inj (((htracks.address _ _).mpr ⟨node, hnode, rfl⟩).symm.trans hold)
  -- a node leaves its address, and the message spares the others there
  have hspares {old : Ip} (hold : state.handler.idCache.lookup data.idNode = some old)
      (hleaves : Inventory.Leaves data old) :
      inventory.SparesOthers data ↔
        ∀ other ∈ inventory, other.1 ≠ data.idNode → other.2.loopbackAddress ≠ old := by
    constructor
    · intro h
      obtain ⟨node, hnode, rfl⟩ := (htracks.address _ _).mp hold
      exact h node hnode hleaves
    · intro h node hnode _
      rw [haddress hold node hnode]
      exact h
  cases hstep with
  | @deleted old hold hleaves =>
    rw [hspares hold (hleaves old)]
    have hdelete := hshows.delete old
    constructor
    · intro hmirrors other hother hne
      have hnone := (hmirrors.none_iff hdelete old).mpr (Function.update_self _ _ _)
      exact latest_eq_none.mp hnone other (mem_without.mpr ⟨hother, hne⟩)
    · intro h
      rw [latest_without_eq (haddress hold) h]
      exact hdelete
  | @placed node hold hleaves =>
    refine iff_of_true ?_ ?_
    · have hupsert := hshows.upsert node
      rw [latest_append_eq]
      convert hupsert using 1
      funext ip
      obtain rfl | hne := eq_or_ne ip node.loopbackAddress
      · rw [Function.update_self, Function.update_self]
      · rw [Function.update_of_ne hne, Function.update_of_ne hne]
        refine latest_without fun node' hnode' => ?_
        rw [← hold _ ((htracks.address _ _).mpr ⟨node', hnode', rfl⟩)]
        exact hne.symm
    · intro node' hnode' hleaves'
      exact absurd (hold _ ((htracks.address _ _).mpr ⟨node', hnode', rfl⟩)) ((hleaves _).mp hleaves')
  | @moved node old hold hne hleaves =>
    rw [hspares hold ((hleaves old).mpr hne), latest_append_eq]
    have hmoved := (hshows.delete old).upsert node
    constructor
    · intro hmirrors other hother hne'
      have hnone := hmirrors.none_iff hmoved old
      rw [Function.update_of_ne hne.symm, Function.update_of_ne hne.symm, Function.update_self] at hnone
      exact latest_eq_none.mp (hnone.mpr rfl) other (mem_without.mpr ⟨hother, hne'⟩)
    · intro h
      rw [latest_without_eq (haddress hold) h]
      exact hmoved
  | unknown hold =>
    rw [htracks.without_eq hold]
    refine iff_of_true hshows fun node hnode => ?_
    cases hold.symm.trans ((htracks.address _ _).mpr ⟨node, hnode, rfl⟩)
  | incomplete hleaves => exact iff_of_true hshows fun node _ h => absurd h (hleaves _)

/-! ## Runs -/

variable (names fromSlice) in
theorem receive_error {message : KafkaMessage Payload} {reason : String}
    (h : fromSlice message.payload = .error reason) (state : Mirroring IE Field Ip) :
    state.receive names fromSlice message = state := by
  rw [receive, handleMessage, h]

theorem run_append (weight : Weight) (messages : List (KafkaMessage Payload)) (message : KafkaMessage Payload) :
    run names fromSlice weight (messages ++ [message]) =
      (run names fromSlice weight messages).receive names fromSlice message := by
  rw [run, foldl_append]
  rfl

omit [DecidableEq Ip] in
theorem after_append (messages : List (KafkaMessage Payload)) (message : KafkaMessage Payload) :
    Inventory.after fromSlice (messages ++ [message]) =
      (Inventory.after fromSlice messages).receive fromSlice message := by
  rw [Inventory.after, foldl_append]
  rfl

variable (names fromSlice) in
/-- In every run the handler knows the address of each live node. -/
theorem run_tracks (weight : Weight) (messages : List (KafkaMessage Payload)) :
    Tracks (run names fromSlice weight messages).handler weight (Inventory.after fromSlice messages) := by
  induction messages using List.reverseRecOn with
  | nil => exact ⟨rfl, fun idNode ip => by simp [run, SonataHandler.new, Inventory.after]⟩
  | append_singleton messages message ih =>
    rw [run_append, after_append]
    cases hdata : fromSlice message.payload with
    | error reason =>
      rw [receive_error names fromSlice hdata, Inventory.receive, hdata]
      exact ih
    | ok data => exact (receive_step hdata _).tracks ih

/-- **The cache mirrors the inventory**: in every state of a run each address has the fields of the
live node with this address whose message is the most recent one, and nothing else is stored, if
and only if no message takes a node off an address that another live node has. -/
theorem sonata_mirrors_iff (names : SonataFields IE Field)
    (fromSlice : Payload → Except String (SonataData Ip)) (weight : Weight)
    (messages : List (KafkaMessage Payload)) :
    (∀ before, before <+: messages → SonataHandler.Shows names weight
        (run names fromSlice weight before).cache (Inventory.after fromSlice before).latest) ↔
      ∀ before message data, before ++ [message] <+: messages → fromSlice message.payload = .ok data →
        (Inventory.after fromSlice before).SparesOthers data := by
  induction messages using List.reverseRecOn with
  | nil =>
    refine iff_of_true (fun before hbefore => ?_) (by simp)
    rw [prefix_nil.mp hbefore]
    intro place ref
    rw [run, foldl_nil, EnrichmentCache.held_empty]
    split <;> rfl
  | append_singleton messages last ih =>
    have hstep (hshows : SonataHandler.Shows names weight (run names fromSlice weight messages).cache
          (Inventory.after fromSlice messages).latest) :
        SonataHandler.Shows names weight (run names fromSlice weight (messages ++ [last])).cache
            (Inventory.after fromSlice (messages ++ [last])).latest ↔
          ∀ data, fromSlice last.payload = .ok data →
            (Inventory.after fromSlice messages).SparesOthers data := by
      rw [run_append, after_append]
      cases hdata : fromSlice last.payload with
      | error reason =>
        rw [receive_error names fromSlice hdata, Inventory.receive, hdata]
        exact iff_of_true hshows fun _ h => (by cases h)
      | ok data =>
        rw [(receive_step hdata _).shows_iff (run_tracks names fromSlice weight messages) hshows]
        simp
    constructor
    · intro hall before message data hinit hdata
      have hbefore := fun before (h : before <+: messages) =>
        hall before (h.trans (prefix_append messages [last]))
      rcases prefix_concat_iff.mp hinit with heq | hinit
      · obtain ⟨rfl, hsame⟩ := append_inj' heq rfl
        cases hsame
        exact (hstep (hbefore before (prefix_refl _))).mp (hall _ (prefix_refl _)) data hdata
      · exact ih.mp hbefore before message data hinit hdata
    · intro hspares before hbefore
      have hall := ih.mpr fun before message data h =>
        hspares before message data (h.trans (prefix_append messages [last]))
      rcases prefix_concat_iff.mp hbefore with rfl | hbefore
      · exact (hstep (hall messages (prefix_refl _))).mpr fun data =>
          hspares messages last data (prefix_refl _)
      · exact hall before hbefore

section Sample

local instance parityIE : HasIE Nat Nat := ⟨fun field => field % 2⟩

def parityNames : SonataFields Nat Nat where
  nodeIdIE := 0
  platformIdIE := 1
  nodeId name := 2 * name.length
  platformId name := 2 * name.length + 1
  ie_nodeId name := Nat.mul_mod_right 2 name.length
  ie_platformId name := Nat.mul_add_mod 2 name.length 1
  ne := by decide

/-- Two nodes have an address, and the second one is deleted: the first one is still there, but
its fields are not. -/
theorem shared_address_lost :
    let messages : List (KafkaMessage (SonataData Nat)) :=
      [⟨⟨.insert, 1, some ⟨"first", 9, ⟨"router"⟩⟩⟩, 0, 0⟩,
        ⟨⟨.insert, 2, some ⟨"second", 9, ⟨"router"⟩⟩⟩, 0, 1⟩, ⟨⟨.delete, 2, none⟩, 0, 2⟩]
    (run parityNames .ok 20 messages).cache.held (.global 9) (toLex (0, 0)) = none ∧
      ((Inventory.after .ok messages).latest 9).map (·.hostname) = some "first" := by
  decide +kernel

end Sample

end Mirroring

end Model

end NetCalyx.Collector
