import NetCalyx.Flow.Consumption
import NetCalyx.Flow.NetflowCodec
import NetCalyx.Runs.Stepwise

/-!
# The usage of templates

Every template has a counter of the data records that were decoded with it, which can be
read and set back. A ledger keeps the books next to it: for each template id, what the
resets have returned and how many records have been decoded since the template was
learned. A template whose counter and ledger agree is balanced.

The NetFlow reader counts record by record, the IPFIX reader once for a data set, and both
count what they read in front of an error. `usage_balanced` says which runs keep all
templates balanced.
-/

namespace NetCalyx.Flow
open Wire Stepwise StateParser

/-! ## Ledgers -/

/-- What has become of a template since it was learned. -/
structure Entry where
  /-- The sum of what its resets have returned. -/
  returned : Nat
  /-- The data records that were decoded with it. -/
  decoded : Nat

def Ledger := BitVec 16 → Entry

namespace Ledger

def empty : Ledger := fun _ => ⟨0, 0⟩

variable (ledger : Ledger)
variable (id : BitVec 16)

def update (entry : Entry) : Ledger :=
  fun id' => if id' = id then entry else ledger id'

def learn : Ledger := ledger.update id ⟨0, 0⟩

def decode (records : Nat) : Ledger :=
  ledger.update id { ledger id with decoded := (ledger id).decoded + records }

def reset (count : BitVec 64) : Ledger :=
  ledger.update id { ledger id with returned := (ledger id).returned + count.toNat }

/-- A set that was parsed in a packet that was parsed. -/
def enter {O R : Type} (idOf : O → BitVec 16) (ledger : Ledger) : Set O R → Ledger
  | .template records => records.foldl (fun ledger record => ledger.learn record.id) ledger
  | .optionsTemplate records => records.foldl (fun ledger record => ledger.learn (idOf record)) ledger
  | .data id records => ledger.decode id.val records.length

end Ledger

/-! ## Resets -/

/-- The count, and the template with none. -/
def DecodingTemplate.resetProcessedCount {S : Type} (template : DecodingTemplate S) :
    BitVec 64 × DecodingTemplate S :=
  (template.processedCount, { template with processedCount := 0 })

/-- A reset of the template of an id, if there is one. -/
def TemplatesMap.resetTemplate {S : Type} (map : TemplatesMap S) (ledger : Ledger) (id : BitVec 16) :
    TemplatesMap S × Ledger :=
  match map id with
  | none => (map, ledger)
  | some template =>
    let (count, template) := template.resetProcessedCount
    (map.insert id template, ledger.reset id count)

/-! ## The codec with its ledgers -/

structure Metered where
  codec : FlowInfoCodec
  ipfix : Ledger
  netflow : Ledger

inductive Action where
  | datagram (buf : Octets)
  | resetIpfix (id : BitVec 16)
  | resetNetflow (id : BitVec 16)

/-- All templates with the same count. -/
def FlowInfoCodec.withCounts (count : BitVec 64) (codec : FlowInfoCodec) : FlowInfoCodec where
  netflowV9TemplatesMap id :=
    (codec.netflowV9TemplatesMap id).map fun template => { template with processedCount := count }
  ipfixTemplatesMap id :=
    (codec.ipfixTemplatesMap id).map fun template => { template with processedCount := count }

/-- The entries behind a datagram that was refused. It may have announced templates in front of
its error: these are the ones whose count does not depend on the one before. -/
def Ledger.refuse {S : Type} (ledger : Ledger) (zero one : TemplatesMap S) : Ledger := fun id =>
  if (zero id).map (·.processedCount) = (one id).map (·.processedCount) then ⟨0, 0⟩ else ledger id

namespace Metered

variable (DateTime : Type) [Chrono DateTime] (registry : Registry)

def datagram (s : Metered) (buf : Octets) : Metered :=
  match (s.codec.decode registry buf : _ × Octets × Decoded DateTime) with
  | (codec, _, .ok none) => { s with codec := codec }
  | (codec, _, .ok (some (.ipfix packet))) =>
    { s with codec := codec, ipfix := packet.sets.foldl (Ledger.enter (·.id)) s.ipfix }
  | (codec, _, .ok (some (.netFlowV9 packet))) =>
    { s with codec := codec, netflow := packet.sets.foldl (Ledger.enter (·.id)) s.netflow }
  | (codec, _, .error _) =>
    let zero := ((s.codec.withCounts 0).decode registry buf : _ × Octets × Decoded DateTime).1
    let one := ((s.codec.withCounts 1).decode registry buf : _ × Octets × Decoded DateTime).1
    { codec := codec
      ipfix := s.ipfix.refuse zero.ipfixTemplatesMap one.ipfixTemplatesMap
      netflow := s.netflow.refuse zero.netflowV9TemplatesMap one.netflowV9TemplatesMap }

def step (s : Metered) : Action → Option Metered
  | .datagram buf => some (s.datagram DateTime registry buf)
  | .resetIpfix id =>
    let (map, ledger) := s.codec.ipfixTemplatesMap.resetTemplate s.ipfix id
    some { s with codec := { s.codec with ipfixTemplatesMap := map }, ipfix := ledger }
  | .resetNetflow id =>
    let (map, ledger) := s.codec.netflowV9TemplatesMap.resetTemplate s.netflow id
    some { s with codec := { s.codec with netflowV9TemplatesMap := map }, netflow := ledger }

end Metered

/-- What the resets of a template returned and its count are the records decoded with it. -/
def BalancedIn {S : Type} (map : TemplatesMap S) (ledger : Ledger) : Prop :=
  ∀ id template, map id = some template →
    (ledger id).returned + template.processedCount.toNat = (ledger id).decoded

structure Metered.Balanced (s : Metered) : Prop where
  ipfix : BalancedIn s.codec.ipfixTemplatesMap s.ipfix
  netflow : BalancedIn s.codec.netflowV9TemplatesMap s.netflow

/-- No counter of a template runs over while `n` records are counted. -/
def Room {S : Type} (n : Nat) (map : TemplatesMap S) : Prop :=
  ∀ id template, map id = some template → template.processedCount.toNat + n < 2 ^ 64

/-- A data set of exactly one record. -/
def Set.single {O R : Type} : Set O R → Prop
  | .data _ records => records.length = 1
  | .template _ | .optionsTemplate _ => True

/-- The templates behind a refused datagram have the counts they had, and the ones it announced have
none. -/
def CountsNothing {S : Type} (before after zero one : TemplatesMap S) : Prop :=
  ∀ id template, after id = some template →
    if (zero id).map (·.processedCount) = (one id).map (·.processedCount) then
      template.processedCount = 0
    else (before id).map (·.processedCount) = some template.processedCount

/-- A datagram whose data sets of IPFIX have one record each, with room for a packet in the
counters, or one that is refused and counts nothing. -/
def Metered.Fair (DateTime : Type) [Chrono DateTime] (registry : Registry) (s : Metered) :
    Action → Prop
  | .datagram buf =>
    match (s.codec.decode registry buf : _ × Octets × Decoded DateTime).2.2 with
    | .ok none => True
    | .ok (some (.ipfix packet)) =>
      (∀ set ∈ packet.sets, set.single) ∧ Room 65535 s.codec.ipfixTemplatesMap
    | .ok (some (.netFlowV9 _)) => Room 65535 s.codec.netflowV9TemplatesMap
    | .error _ =>
      let behind (codec : FlowInfoCodec) :=
        (codec.decode registry buf : FlowInfoCodec × Octets × Decoded DateTime).1
      CountsNothing s.codec.ipfixTemplatesMap (behind s.codec).ipfixTemplatesMap
          (behind (s.codec.withCounts 0)).ipfixTemplatesMap
          (behind (s.codec.withCounts 1)).ipfixTemplatesMap ∧
        CountsNothing s.codec.netflowV9TemplatesMap (behind s.codec).netflowV9TemplatesMap
          (behind (s.codec.withCounts 0)).netflowV9TemplatesMap
          (behind (s.codec.withCounts 1)).netflowV9TemplatesMap
  | .resetIpfix _ | .resetNetflow _ => True

/-! ## Counting -/

/-- The data records of a set. -/
def Set.dataCount {O R : Type} : Set O R → Nat
  | .data _ records => records.length
  | .template _ | .optionsTemplate _ => 0

/-- Balanced, with room for `n` more records. -/
structure Sound {S : Type} (n : Nat) (map : TemplatesMap S) (ledger : Ledger) : Prop where
  balanced : BalancedIn map ledger
  room : Room n map
  small : n < 2 ^ 64

theorem Ledger.decode_zero (ledger : Ledger) (id : BitVec 16) : ledger.decode id 0 = ledger := by
  funext id'
  unfold Ledger.decode Ledger.update
  split
  · rename_i h
    rw [h]
    rfl
  · rfl

theorem Ledger.decode_decode (ledger : Ledger) (id : BitVec 16) (m n : Nat) :
    (ledger.decode id m).decode id n = ledger.decode id (m + n) := by
  funext id'
  unfold Ledger.decode Ledger.update
  split
  · simp only [if_true, Nat.add_assoc]
  · rfl

namespace Sound

variable {S O R : Type} {n : Nat} {map : TemplatesMap S} {ledger : Ledger}

/-- What happens to one template leaves the others as they are. -/
theorem of_update {id : BitVec 16} {entry : Entry} {map' : TemplatesMap S} {m : Nat}
    (h : Sound m map ledger) (hn : n ≤ m)
    (hother : ∀ id', id' ≠ id → map' id' = map id')
    (hself : ∀ template, map' id = some template →
      entry.returned + template.processedCount.toNat = entry.decoded ∧
        template.processedCount.toNat + n < 2 ^ 64) :
    Sound n map' (ledger.update id entry) := by
  have hboth (id' : BitVec 16) (template : DecodingTemplate S) (hmap : map' id' = some template) :
      (ledger.update id entry id').returned + template.processedCount.toNat =
        (ledger.update id entry id').decoded ∧ template.processedCount.toNat + n < 2 ^ 64 := by
    unfold Ledger.update
    by_cases hid : id' = id
    · rw [if_pos hid]
      exact hself template (hid ▸ hmap)
    · rw [if_neg hid]
      rw [hother id' hid] at hmap
      have := h.room id' template hmap
      exact ⟨h.balanced id' template hmap, by omega⟩
  have := h.small
  exact ⟨fun id' t ht => (hboth id' t ht).1, fun id' t ht => (hboth id' t ht).2, by omega⟩

variable {template : DecodingTemplate S}

/-- A template that is learned starts from nothing. -/
theorem learn (h : Sound n map ledger) (id : BitVec 16) (hnew : template.processedCount.toNat = 0) :
    Sound n (map.insert id template) (ledger.learn id) := by
  refine h.of_update (le_refl n) (fun id' hid => if_neg hid) fun template' htemplate' => ?_
  rw [TemplatesMap.insert, if_pos rfl] at htemplate'
  cases htemplate'
  rw [hnew]
  exact ⟨rfl, by have := h.small; omega⟩

/-- One record is counted, and there is room for one less. -/
theorem count (h : Sound (n + 1) map ledger) (id : BitVec 16) :
    Sound n (map.increment id) (ledger.decode id 1) := by
  refine h.of_update (Nat.le_succ n) (fun id' hid => if_neg hid) fun template' htemplate' => ?_
  rw [TemplatesMap.increment, if_pos rfl] at htemplate'
  obtain ⟨template, htemplate, rfl⟩ := Option.map_eq_some_iff.mp htemplate'
  have hbalanced := h.balanced id template htemplate
  have hroom := h.room id template htemplate
  have hone : template.incrementProcessedCount.processedCount.toNat =
      template.processedCount.toNat + 1 := by
    show (template.processedCount + 1#64).toNat = _
    rw [BitVec.toNat_add, BitVec.toNat_ofNat, Nat.mod_eq_of_lt (by omega)]
  rw [hone]
  dsimp only
  omega

/-- A reset moves the count to what was returned. -/
theorem reset {id : BitVec 16} (h : Sound n map ledger) (hmap : map id = some template) :
    Sound n (map.insert id template.resetProcessedCount.2)
      (ledger.reset id template.resetProcessedCount.1) := by
  refine h.of_update (le_refl n) (fun id' hid => if_neg hid) fun template' htemplate' => ?_
  rw [TemplatesMap.insert, if_pos rfl] at htemplate'
  cases htemplate'
  exact ⟨h.balanced id template hmap, by have := h.small; show 0 + n < 2 ^ 64; omega⟩

theorem learnAll {α : Type} {insert : TemplatesMap S → α → TemplatesMap S} {idOf : α → BitVec 16}
    (hinsert : ∀ map record, ∃ template : DecodingTemplate S, template.processedCount.toNat = 0 ∧
      insert map record = map.insert (idOf record) template) (records : List α)
    (h : Sound n map ledger) :
    Sound n (records.foldl insert map)
      (records.foldl (fun ledger record => ledger.learn (idOf record)) ledger) := by
  induction records generalizing map ledger with
  | nil => exact h
  | cons record records ih =>
    obtain ⟨template, hnew, heq⟩ := hinsert map record
    rw [List.foldl_cons, List.foldl_cons, heq]
    exact ih (h.learn (idOf record) hnew)

theorem countAll {α : Type} (id : BitVec 16) (records : List α)
    (h : Sound (n + records.length) map ledger) :
    Sound n (records.foldl (fun map _ => map.increment id) map) (ledger.decode id records.length) := by
  induction records generalizing map ledger with
  | nil =>
    rw [List.length_nil, Ledger.decode_zero]
    exact h
  | cons record records ih =>
    have hfirst : Sound (n + records.length + 1) map ledger := h
    rw [List.foldl_cons, List.length_cons, Nat.add_comm records.length, ← Ledger.decode_decode]
    exact ih (hfirst.count id)

/-- The sets of a packet, one after the other. -/
theorem sets {next : TemplatesMap S → Set O R → TemplatesMap S} {idOf : O → BitVec 16}
    {sets : List (Set O R)}
    (hset : ∀ set ∈ sets, ∀ n (map : TemplatesMap S) ledger,
      Sound (n + set.dataCount) map ledger → Sound n (next map set) (ledger.enter idOf set))
    (h : Sound (n + (sets.map (·.dataCount)).sum) map ledger) :
    Sound n (sets.foldl next map) (sets.foldl (Ledger.enter idOf) ledger) := by
  induction sets generalizing map ledger with
  | nil => exact h
  | cons set sets ih =>
    rw [List.map_cons, List.sum_cons, ← Nat.add_assoc, Nat.add_right_comm] at h
    exact ih (fun set' h' => hset set' (List.mem_cons_of_mem set h'))
      (hset set List.mem_cons_self _ _ _ h)

theorem ipfixSet {DateTime : Type} {map : Ipfix.TemplatesMap} {set : Ipfix.Set DateTime}
    (hsingle : set.single) (h : Sound (n + set.dataCount) map ledger) :
    Sound n (Ipfix.Set.next map set) (ledger.enter (·.id) set) := by
  cases set with
  | template records | optionsTemplate records =>
    exact h.learnAll (fun _ _ => ⟨_, rfl, rfl⟩) records
  | data id records =>
    have hone : records.length = 1 := hsingle
    rw [Ledger.enter, hone]
    rw [Set.dataCount, hone] at h
    exact h.count id.val

theorem netflowSet {DateTime : Type} {map : Netflow.TemplatesMap} {set : Netflow.Set DateTime}
    (h : Sound (n + set.dataCount) map ledger) :
    Sound n (Netflow.Set.next map set) (ledger.enter (·.id) set) := by
  cases set with
  | template records | optionsTemplate records =>
    exact h.learnAll (fun _ _ => ⟨_, rfl, rfl⟩) records
  | data id records => exact h.countAll id.val records

theorem of_balanced (h : BalancedIn map ledger) : Sound 0 map ledger :=
  ⟨h, fun _ template _ => template.processedCount.isLt, by decide⟩

theorem mono {m : Nat} (h : Sound m map ledger) (hn : n ≤ m) : Sound n map ledger := by
  have hsmall := h.small
  refine ⟨h.balanced, fun id template hmap => ?_, by omega⟩
  have := h.room id template hmap
  omega

theorem resetTemplate (h : BalancedIn map ledger) (id : BitVec 16) :
    BalancedIn (map.resetTemplate ledger id).1 (map.resetTemplate ledger id).2 := by
  unfold TemplatesMap.resetTemplate
  cases hmap : map id with
  | none => exact h
  | some template => exact ((of_balanced h).reset hmap).balanced

end Sound

/-! ## What a packet does to the templates -/

section Packets

variable {S O R OE RE : Type}

theorem notes_checkPadding :
    Notes (checkPadding : StateParser (TemplatesMap S) (SetParsingError OE RE) Unit)
      fun map _ => map := by
  intro map map' buf rest a h
  obtain ⟨_, _, _, hinput, hcheck⟩ := bind_eq_ok h
  cases hinput
  exact Notes.liftP _ _ _ _ _ _ hcheck

/-- A set does to the templates what its records do. -/
theorem notes_fromWireWith {ids : SetIds} {registry : Registry}
    {fromWire : StateParser (TemplatesMap S) OE O}
    {records : DataSetId → StateParser (TemplatesMap S) (SetParsingError OE RE) (Set O R)}
    {announce : TemplatesMap S → O → TemplatesMap S}
    {next : TemplatesMap S → Set O R → TemplatesMap S} (hoptions : Notes fromWire announce)
    (hrecords : ∀ id, Notes (records id) next)
    (htemplate : ∀ map records, next map (.template records) =
      records.foldl TemplateRecord.announce map)
    (hoptionsTemplate : ∀ map records, next map (.optionsTemplate records) =
      records.foldl announce map) :
    Notes (Set.fromWireWith ids registry fromWire records) next := by
  intro map map' buf rest set h
  obtain ⟨_, _, ⟨id, content⟩, hheader, hset⟩ := bind_eq_ok h
  obtain ⟨rfl, -⟩ := liftP_eq_ok.mp hheader
  obtain ⟨-, left, hset⟩ := within_eq_ok.mp hset
  cases id with
  | template =>
    obtain ⟨_, _, read, hread, hpure⟩ := bind_eq_ok hset
    cases hpure
    rw [htemplate]
    exact ((Notes.noted _ _).mapErr _).repeatWhile hread
  | optionsTemplate =>
    obtain ⟨_, _, read, hread, hbehind⟩ := bind_eq_ok hset
    obtain ⟨_, _, _, hpadding, hpure⟩ := bind_eq_ok hbehind
    obtain rfl := notes_checkPadding _ _ _ _ _ hpadding
    cases hpure
    rw [hoptionsTemplate]
    exact (hoptions.mapErr _).repeatWhile hread
  | data id => exact hrecords id _ _ _ _ _ hset

end Packets

variable {DateTime : Type} [Chrono DateTime] {registry : Registry}

namespace Ipfix

theorem notes_dataRecords (id : DataSetId) :
    Notes (Set.dataRecords id : StateParser _ _ (Set DateTime)) Set.next := by
  intro map map' buf rest set h
  obtain ⟨inForce, read, t, -, hread, rfl, rfl⟩ := dataRecords_eq_ok h
  -- the records themselves are not noted
  rw [(Notes.liftP _).repeatWhile hread, List.foldl_fixed]
  rfl

theorem notes_set : Notes (Set.fromWire registry : StateParser _ _ (Set DateTime)) Set.next :=
  notes_fromWireWith (Notes.noted _ _) notes_dataRecords (fun _ _ => rfl) fun _ _ => rfl

variable {buf rest : Octets}

/-- The templates behind a packet, which has no more sets than octets. -/
theorem packet_next {map map' : TemplatesMap} {packet : IpfixPacket DateTime}
    (h : IpfixPacket.fromWire registry map buf = (map', .ok (rest, packet))) :
    map' = packet.sets.foldl Set.next map ∧ packet.sets.length ≤ 65535 := by
  obtain ⟨_, content, hheader, hwithin⟩ := liftP_bind_eq_ok h
  obtain ⟨-, left, hbody⟩ := within_eq_ok.mp hwithin
  obtain ⟨-, -, -, hcontent⟩ := header_length hheader
  have hsize : lengthOf buf < 65536 := BitVec.isLt _
  obtain ⟨_, time, htime, hbehind⟩ := liftP_bind_eq_ok hbody
  obtain ⟨_, sequence, hsequence, hbehind'⟩ := liftP_bind_eq_ok hbehind
  obtain ⟨_, domain, hdomain, hlast⟩ := liftP_bind_eq_ok hbehind'
  obtain ⟨_, _, sets, hsets, hpure⟩ := bind_eq_ok hlast
  cases hpure
  have hstate := (notes_set.mapErr _).repeatWhile hsets
  have hlength := length_of_repeatWhile hsets
  rw [body_rest htime hsequence hdomain, List.length_drop] at hlength
  exact ⟨hstate, by dsimp only; omega⟩

end Ipfix

namespace Netflow

theorem notes_dataRecord (id : DataSetId) (inForce : DecodingTemplate) :
    Notes (Set.dataRecord id inForce : StateParser _ _ (DataRecord DateTime))
      fun map _ => map.increment id.val :=
  Notes.noted _ _

theorem notes_dataRecords (id : DataSetId) :
    Notes (Set.dataRecords id : StateParser _ _ (Set DateTime)) Set.next := by
  intro map map' buf rest set h
  obtain ⟨inForce, read, t, mid, -, hread, hpadding, rfl⟩ := dataRecords_eq_ok h
  obtain rfl := notes_checkPadding _ _ _ _ _ hpadding
  unfold Set.readRecords at hread
  split at hread
  · cases hread
    rfl
  · exact (notes_dataRecord id inForce).repeatWhile hread

theorem notes_set : Notes (Set.fromWire registry : StateParser _ _ (Set DateTime)) Set.next :=
  notes_fromWireWith (Notes.noted _ _) notes_dataRecords (fun _ _ => rfl) fun _ _ => rfl

variable {map map' : TemplatesMap}

/-- The sets note their records, which are no more than are expected. -/
theorem readSets_next (count : BitVec 16) {fuel i : Nat} {sets : List (Set DateTime)}
    (h : NetFlowV9Packet.readSets registry count fuel i map buf = (map', .ok (rest, sets))) :
    map' = sets.foldl Set.next map ∧ (sets.map (·.dataCount)).sum ≤ i := by
  induction fuel generalizing i map buf sets with
  | zero =>
    unfold NetFlowV9Packet.readSets at h
    split at h
    · cases h
    · cases h
      exact ⟨rfl, Nat.zero_le _⟩
  | succ fuel ih =>
    unfold NetFlowV9Packet.readSets at h
    split at h
    · rcases hset : (Set.fromWire registry map buf : _ × Except _ (Octets × Set DateTime)) with ⟨t, r⟩
      rw [hset] at h
      cases r with
      | error err => cases h
      | ok r =>
        obtain ⟨mid, set⟩ := r
        dsimp only at h
        cases hsub : Set.subtract i set with
        | none =>
          rw [hsub] at h
          cases h
        | some i' =>
          simp only [hsub] at h
          rcases hrest : (NetFlowV9Packet.readSets registry count fuel i' t mid :
            _ × Except _ (Octets × List (Set DateTime))) with ⟨t', r'⟩
          rw [hrest] at h
          cases r' with
          | error err => cases h
          | ok r' =>
            cases h
            obtain ⟨hstate, hsum⟩ := ih hrest
            have hless : set.dataCount + i' ≤ i := by
              unfold Set.subtract at hsub
              split at hsub
              · cases hsub
              · rename_i hle
                cases hsub
                cases set <;> simp only [Set.subtracted, Set.dataCount] at hle ⊢ <;> omega
            rw [List.foldl_cons, List.map_cons, List.sum_cons, ← notes_set _ _ _ _ _ hset]
            exact ⟨hstate, by omega⟩
    · cases h
      exact ⟨rfl, Nat.zero_le _⟩

theorem packet_next {packet : NetFlowV9Packet DateTime}
    (h : NetFlowV9Packet.fromWire registry map buf = (map', .ok (rest, packet))) :
    map' = packet.sets.foldl Set.next map ∧ (packet.sets.map (·.dataCount)).sum ≤ 65535 := by
  obtain ⟨_, version, -, hversion⟩ := liftP_bind_eq_ok h
  split at hversion
  · cases hversion
  · obtain ⟨_, count, -, hcount⟩ := liftP_bind_eq_ok hversion
    obtain ⟨_, uptime, -, huptime⟩ := liftP_bind_eq_ok hcount
    obtain ⟨_, time, -, htime⟩ := liftP_bind_eq_ok huptime
    obtain ⟨_, sequence, -, hsequence⟩ := liftP_bind_eq_ok htime
    obtain ⟨_, source, -, hsource⟩ := liftP_bind_eq_ok hsequence
    obtain ⟨_, input, -, hinput⟩ := liftP_bind_eq_ok hsource
    obtain ⟨_, _, sets, hsets, hpure⟩ := bind_eq_ok hinput
    cases hpure
    obtain ⟨hstate, hsum⟩ := readSets_next count hsets
    have := count.isLt
    exact ⟨hstate, by dsimp only; omega⟩

end Netflow

/-! ## Runs -/

namespace Metered

variable {s : Metered} {ledger : Ledger}

theorem balanced_ipfix {map' : Ipfix.TemplatesMap} {map : Ipfix.TemplatesMap}
    {packet : Ipfix.IpfixPacket DateTime} (h : BalancedIn map ledger)
    (hpacket : Ipfix.IpfixPacket.fromWire registry map buf = (map', .ok (rest, packet)))
    (hsingle : ∀ set ∈ packet.sets, set.single) (hroom : Room 65535 map) :
    BalancedIn map' (packet.sets.foldl (Ledger.enter (·.id)) ledger) := by
  obtain ⟨rfl, hlength⟩ := Ipfix.packet_next hpacket
  have hsum : (packet.sets.map (·.dataCount)).sum ≤ packet.sets.length := by
    refine (List.sum_le_card_nsmul _ 1 fun n hn => ?_).trans (by simp)
    obtain ⟨set, hset, rfl⟩ := List.mem_map.mp hn
    have hone := hsingle set hset
    cases set with
    | template | optionsTemplate => exact Nat.zero_le _
    | data id records => exact le_of_eq hone
  have hsound : Sound 65535 map ledger := ⟨h, hroom, by decide⟩
  have hstart := hsound.mono (hsum.trans hlength)
  rw [← Nat.zero_add (List.sum _)] at hstart
  exact (Sound.sets (fun set hset _ _ _ => .ipfixSet (hsingle set hset)) hstart).balanced

theorem balanced_netflow {map' : Netflow.TemplatesMap} {map : Netflow.TemplatesMap}
    {packet : Netflow.NetFlowV9Packet DateTime} (h : BalancedIn map ledger)
    (hpacket : Netflow.NetFlowV9Packet.fromWire registry map buf = (map', .ok (rest, packet)))
    (hroom : Room 65535 map) :
    BalancedIn map' (packet.sets.foldl (Ledger.enter (·.id)) ledger) := by
  obtain ⟨rfl, hsum⟩ := Netflow.packet_next hpacket
  have hsound : Sound 65535 map ledger := ⟨h, hroom, by decide⟩
  have hstart := hsound.mono hsum
  rw [← Nat.zero_add (List.sum _)] at hstart
  exact (Sound.sets (fun _ _ _ _ _ => .netflowSet) hstart).balanced

theorem balanced_refuse {S : Type} {before after zero one : TemplatesMap S}
    (h : BalancedIn before ledger) (hnothing : CountsNothing before after zero one) :
    BalancedIn after (ledger.refuse zero one) := by
  intro id template hafter
  have hcount := hnothing id template hafter
  unfold Ledger.refuse
  split at hcount
  · rename_i hlearned
    rw [if_pos hlearned, hcount]
    rfl
  · rename_i hkept
    obtain ⟨old, hold, hsame⟩ := Option.map_eq_some_iff.mp hcount
    rw [if_neg hkept, ← hsame]
    exact h id old hold

/-- What a call of `decode` can do: ask for more, return a packet with the templates that the
parser left, or refuse. -/
theorem decode_cases {codec codec' : FlowInfoCodec} {decoded : Decoded DateTime}
    (h : codec.decode registry buf = (codec', rest, decoded)) :
    (decoded = .ok none ∧ codec' = codec) ∨
    (∃ packet, decoded = .ok (some (.ipfix packet)) ∧
      codec'.netflowV9TemplatesMap = codec.netflowV9TemplatesMap ∧
      Ipfix.IpfixPacket.fromWire registry codec.ipfixTemplatesMap buf =
        (codec'.ipfixTemplatesMap, .ok (rest, packet))) ∨
    (∃ packet, decoded = .ok (some (.netFlowV9 packet)) ∧
      codec'.ipfixTemplatesMap = codec.ipfixTemplatesMap ∧
      Netflow.NetFlowV9Packet.fromWire registry codec.netflowV9TemplatesMap buf =
        (codec'.netflowV9TemplatesMap, .ok (rest, packet))) ∨
    ∃ e, decoded = .error e := by
  unfold FlowInfoCodec.decode at h
  split at h
  · cases h
    exact .inl ⟨rfl, rfl⟩
  · split at h
    · cases h
      exact .inl ⟨rfl, rfl⟩
    · split at h
      · unfold parseIpfix at h
        rcases hpacket : (Ipfix.IpfixPacket.fromWire registry codec.ipfixTemplatesMap buf :
          _ × Except _ (Octets × Ipfix.IpfixPacket DateTime)) with ⟨map', r⟩
        rw [hpacket] at h
        cases r with
        | error err =>
          cases h
          exact .inr (.inr (.inr ⟨_, rfl⟩))
        | ok r =>
          cases h
          exact .inr (.inl ⟨r.2, rfl, rfl, rfl⟩)
      · split at h
        · unfold parseNetflowV9 at h
          rcases hpacket : (Netflow.NetFlowV9Packet.fromWire registry codec.netflowV9TemplatesMap buf :
            _ × Except _ (Octets × Netflow.NetFlowV9Packet DateTime)) with ⟨map', r⟩
          rw [hpacket] at h
          cases r with
          | error err =>
            cases h
            exact .inr (.inr (.inr ⟨_, rfl⟩))
          | ok r =>
            cases h
            exact .inr (.inr (.inl ⟨r.2, rfl, rfl, rfl⟩))
        · cases h
          exact .inr (.inr (.inr ⟨_, rfl⟩))

theorem balanced_datagram (h : s.Balanced) (hfair : s.Fair DateTime registry (.datagram buf)) :
    (s.datagram DateTime registry buf).Balanced := by
  simp only [Fair] at hfair
  unfold datagram
  rcases hdecode : (s.codec.decode registry buf : _ × Octets × Decoded DateTime) with
    ⟨codec', rest, decoded⟩
  rw [hdecode] at hfair
  obtain ⟨rfl, rfl⟩ | ⟨packet, rfl, hother, hpacket⟩ | ⟨packet, rfl, hother, hpacket⟩ | ⟨e, rfl⟩ :=
    decode_cases hdecode
  · exact h
  · exact ⟨balanced_ipfix h.ipfix hpacket hfair.1 hfair.2, hother ▸ h.netflow⟩
  · exact ⟨hother ▸ h.ipfix, balanced_netflow h.netflow hpacket hfair⟩
  · exact ⟨balanced_refuse h.ipfix hfair.1, balanced_refuse h.netflow hfair.2⟩

theorem balanced_step {s' : Metered} {action : Action} (h : s.Balanced)
    (hstep : s.step DateTime registry action = some s') (hfair : s.Fair DateTime registry action) :
    s'.Balanced := by
  cases action with
  | datagram buf =>
    cases hstep
    exact balanced_datagram h hfair
  | resetIpfix id =>
    cases hstep
    exact ⟨Sound.resetTemplate h.ipfix id, h.netflow⟩
  | resetNetflow id =>
    cases hstep
    exact ⟨h.ipfix, Sound.resetTemplate h.netflow id⟩

end Metered

/-- A codec without templates. -/
def Metered.new : Metered := ⟨⟨TemplatesMap.empty, TemplatesMap.empty⟩, .empty, .empty⟩

/-- Along every run of fair actions all templates are balanced. -/
theorem usage_balanced (DateTime : Type) [Chrono DateTime] (registry : Registry)
    (actions : List Action)
    (hfair : Along (Metered.step DateTime registry) (fun s action _ => s.Fair DateTime registry action)
      .new actions) :
    Along (Metered.step DateTime registry) (fun _ _ s' => s'.Balanced) .new actions := by
  refine along_of_along Metered.Balanced (fun s action s' h hstep hfair => ?_) ?_ hfair
  · have := Metered.balanced_step h hstep hfair
    exact ⟨this, this⟩
  · exact ⟨nofun, nofun⟩

/-- A template of a counter of the given size, eight octets of data for it, and a reset. -/
def counterUse (size : BitVec 8) : List Action :=
  [.datagram (announcement 1 0 size), .datagram (counters 1), .resetIpfix 256]

theorem room_counterMap : Room 65535 Ipfix.counterMap := by
  intro id template h
  unfold Ipfix.counterMap TemplatesMap.insert at h
  split at h
  · cases h
    decide
  · cases h

/-- The eight octets are one record, which is counted and returned. -/
theorem counterUse_balanced :
    Along (Metered.step UtcTime sampleRegistry) (fun _ _ s' => s'.Balanced) .new
      (counterUse 8) := by
  apply usage_balanced
  intro s₁ h₁
  cases h₁
  refine ⟨⟨?_, nofun⟩, fun s₂ h₂ => ?_⟩
  · intro set hset
    cases List.mem_singleton.mp hset
    trivial
  · cases h₂
    refine ⟨⟨?_, room_counterMap⟩, fun s₃ h₃ => ⟨trivial, trivial⟩⟩
    intro set hset
    cases List.mem_singleton.mp hset
    rfl

/-- Two records of four octets in one data set are counted once. -/
theorem counterUse_unbalanced :
    ¬ Along (Metered.step UtcTime sampleRegistry) (fun _ _ s' => s'.Balanced) .new
      (counterUse 4) := by
  intro h
  obtain ⟨-, h⟩ := h _ rfl
  obtain ⟨hbalanced, -⟩ := h _ rfl
  exact absurd (hbalanced.ipfix 256 _ rfl) (by decide)

end NetCalyx.Flow
