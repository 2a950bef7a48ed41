import NetCalyx.Flow.Reading
import NetCalyx.Wire.Framing

/-!
# Padding of IPFIX sets

Zeros behind the records of a set are to be skipped. The three kinds of sets end their
loops by different rules. Behind options templates less than four octets are left over,
behind data records less than the least size of a record, so that zeros in these places
change nothing. The loop over templates goes on until nothing is left: it takes the first
octet of the padding for the next template and fails.
-/

namespace NetCalyx.Flow
open Wire StateParser List

namespace Ipfix

/-! ## Sets -/

/-- The parser of the content of a set. -/
def records {DateTime : Type} [Chrono DateTime] (registry : Registry) :
    SetId → StateParser TemplatesMap SetParsingError (Set DateTime)
  | .template => Set.templateRecords registry
  | .optionsTemplate => Set.optionsTemplateRecords (OptionsTemplateRecord.fromWire registry)
  | .data id => Set.dataRecords id

/-- A set on the wire: its records, and zeros behind them. -/
structure RawSet where
  id : SetId
  content : Octets
  padding : Nat
  fits : content.length + padding + 4 < 65536

namespace RawSet

variable (set : RawSet)

def size : Nat := set.content.length + set.padding + 4

def zeros : Octets := List.replicate set.padding 0

def encoded : Octets :=
  octets (set.id.code ipfixSetIds) ++ octets (BitVec.ofNat 16 set.size) ++ (set.content ++ set.zeros)

def unpadded : RawSet :=
  { set with padding := 0, fits := by have := set.fits; omega }

/-- Less than four octets behind templates, and less than a record of the template in force
behind data records. -/
def Admissible (map : TemplatesMap) (set : RawSet) : Prop :=
  match set.id with
  | .template | .optionsTemplate => set.padding < 4
  | .data id => set.padding = 0 ∨
      ∃ inForce, map id.val = some inForce ∧ set.padding < minRecordLength inForce

end RawSet

variable {DateTime : Type} {registry : Registry} {map map' : TemplatesMap}
  {content : Octets} {set : Set DateTime}

/-- Zeros are no template. -/
theorem templateRecord_zeros {n : Nat} (hn : 0 < n) (hn' : n < 4) (map : TemplatesMap) :
    ∃ e, (TemplateRecord.fromWire registry : StateParser TemplatesMap _ _) map
      (List.replicate n 0) = (map, .error e) := by
  have hparse : ∃ e, TemplateRecord.parse registry (List.replicate n 0) = .error e := by
    obtain rfl | rfl | rfl : n = 1 ∨ n = 2 ∨ n = 3 := by omega
    · exact ⟨_, rfl⟩
    · exact ⟨_, rfl⟩
    · exact ⟨_, rfl⟩
  obtain ⟨e, he⟩ := hparse
  refine ⟨e, ?_⟩
  show andThen (.liftP _) _ map _ = _
  simp only [andThen, liftP, he]

theorem templateRecords_zeros {n : Nat} (hn : 0 < n) (hn' : n < 4)
    (h : (Set.templateRecords registry : StateParser TemplatesMap SetParsingError (Set DateTime)) map
      content = (map', .ok ([], set))) :
    ∃ map'' e, (Set.templateRecords registry :
      StateParser TemplatesMap SetParsingError (Set DateTime)) map (content ++ List.replicate n 0) =
        (map'', .error e) := by
  obtain ⟨s₀, buf₀, read, hloop, hpure⟩ := bind_eq_ok h
  cases hpure
  obtain ⟨e, he⟩ := @templateRecord_zeros registry n hn hn' map'
  have hrecord : ExtendsState (.mapErr .templateRecordError (TemplateRecord.fromWire registry) :
      StateParser TemplatesMap SetParsingError TemplateRecord) :=
    (ExtendsState.noted (reads_templateRecord registry).longer _).mapErr _
  have herror : (.mapErr .templateRecordError (TemplateRecord.fromWire registry) :
      StateParser TemplatesMap SetParsingError TemplateRecord) map' (List.replicate n 0) =
        (map', .error (e.map .templateRecordError)) := by
    rw [mapErr, he]
  have hfull : List.replicate n (0 : Octet) ≠ [] := by
    intro hnil
    rw [replicate_eq_nil_iff] at hnil
    omega
  have hgo : (!(List.replicate n (0 : Octet)).isEmpty) = true := by
    rw [isEmpty_eq_false_iff.mpr hfull]
    rfl
  have hloop' := repeatWhile_extends_error hrecord
    (fun buf more hbuf => by simp_all) hloop hgo hfull herror
  refine ⟨map', e.map .templateRecordError, ?_⟩
  show andThen _ _ map _ = _
  rw [andThen, hloop']

theorem checkPadding_ok {buf rest : Octets}
    (h : (checkPadding : StateParser TemplatesMap SetParsingError Unit) map buf =
      (map', .ok (rest, ()))) : map = map' ∧ buf = rest := by
  have hrun : (map, Parser.lift (checkPaddingValue buf : Except SetParsingError Unit) buf) =
      (map', .ok (rest, ())) := h
  cases hvalue : (checkPaddingValue buf : Except SetParsingError Unit) with
  | error e =>
    rw [hvalue] at hrun
    cases hrun
  | ok _ =>
    rw [hvalue] at hrun
    cases hrun
    exact ⟨rfl, rfl⟩

theorem optionsTemplateRecords_zeros {n : Nat} (hn : n < 4)
    (h : (Set.optionsTemplateRecords (OptionsTemplateRecord.fromWire registry) :
      StateParser TemplatesMap SetParsingError (Set DateTime)) map content = (map', .ok ([], set))) :
    (Set.optionsTemplateRecords (OptionsTemplateRecord.fromWire registry) :
      StateParser TemplatesMap SetParsingError (Set DateTime)) map (content ++ List.replicate n 0) =
        (map', .ok (List.replicate n 0, set)) := by
  obtain ⟨s₀, buf₀, read, hloop, h₁⟩ := bind_eq_ok h
  obtain ⟨s₁, buf₁, _, hcheck, hpure⟩ := bind_eq_ok h₁
  cases hpure
  obtain ⟨rfl, rfl⟩ := checkPadding_ok hcheck
  have hrecord : ExtendsState (.mapErr .optionsTemplateRecordError
      (OptionsTemplateRecord.fromWire registry) :
        StateParser TemplatesMap SetParsingError OptionsTemplateRecord) :=
    (ExtendsState.noted (reads_optionsTemplateRecord registry).longer _).mapErr _
  have hend : decide (3 < (List.replicate n (0 : Octet)).length) = false := by
    rw [length_replicate, decide_eq_false_iff_not]
    omega
  have hloop' := repeatWhile_extends hrecord (fun buf more hbuf => by
    simp only [decide_eq_true_iff, length_append] at hbuf ⊢
    omega) hloop hend
  rw [Set.optionsTemplateRecords, run_bind hloop',
    run_bind (checkPadding_replicate _ n)]
  rfl

variable [Chrono DateTime]

theorem dataRecords_zeros {n : Nat} {id : DataSetId} {inForce : DecodingTemplate}
    (hforce : map id.val = some inForce) (hn : n < minRecordLength inForce)
    (h : (Set.dataRecords id : StateParser TemplatesMap SetParsingError (Set DateTime)) map content =
      (map', .ok ([], set))) :
    (Set.dataRecords id : StateParser TemplatesMap SetParsingError (Set DateTime)) map
      (content ++ List.replicate n 0) = (map', .ok (List.replicate n 0, set)) := by
  have hrecord : ExtendsState (.liftP (.mapErr .dataRecordError (DataRecord.fromWire inForce)) :
      StateParser TemplatesMap SetParsingError (DataRecord DateTime)) :=
    .liftP ((reads_dataRecord inForce).mapErr _).longer
  obtain ⟨s₀, buf₀, templates, hstate, h₁⟩ := bind_eq_ok h
  cases hstate
  simp only [hforce] at h₁
  obtain ⟨s₁, buf₁, read, hloop, h₂⟩ := bind_eq_ok h₁
  obtain ⟨s₂, buf₂, _, hmodify, hpure⟩ := bind_eq_ok h₂
  cases hmodify
  cases hpure
  have hend : (decide (minRecordLength inForce ≤ (List.replicate n (0 : Octet)).length) &&
      decide (0 < minRecordLength inForce)) = false := by
    simp only [length_replicate, Bool.and_eq_false_iff, decide_eq_false_iff_not]
    omega
  have hloop' := repeatWhile_extends hrecord (fun buf more hbuf => by
    simp only [Bool.and_eq_true, decide_eq_true_iff, length_append] at hbuf ⊢
    omega) hloop hend
  rw [Set.dataRecords, state_bind]
  simp only [hforce]
  rw [run_bind hloop']
  rfl

/-- What a set gives, whatever comes behind it. -/
def readSet (registry : Registry) (set : RawSet) (map : TemplatesMap) :
    TemplatesMap × Except (Err IpfixPacketParsingError) (Set DateTime) :=
  match records registry set.id map (set.content ++ set.zeros) with
  | (map', .error e) => (map', .error (e.map .setParsingError))
  | (map', .ok (_, parsed)) => (map', .ok parsed)

theorem framed_set (registry : Registry) (set : RawSet) :
    Framed (.mapErr IpfixPacketParsingError.setParsingError (Set.fromWire registry))
      set.encoded (readSet registry set : _ → _ × Except _ (Set DateTime)) := by
  have hsize : set.size = (set.content ++ set.zeros).length + 4 := by
    rw [length_append, RawSet.zeros, length_replicate, RawSet.size]
  have hframed : Framed (Set.fromWire registry : StateParser _ _ (Set DateTime)) set.encoded _ :=
    Set.framed_fromWireWith (by decide) (by decide) (by decide) hsize set.fits
  have hcontent : Set.content registry (OptionsTemplateRecord.fromWire registry) Set.dataRecords set.id =
      (records registry set.id : StateParser _ _ (Set DateTime)) := by
    cases set.id <;> rfl
  intro map rest
  rw [hframed.mapErr, hcontent, readSet]
  simp only [alone]
  rcases (records registry set.id map (set.content ++ set.zeros) :
    _ × Except _ (_ × Set DateTime)) with ⟨map', e | ⟨left, parsed⟩⟩ <;> rfl

/-! ## Packets -/

/-- The sets can be read one after the other and use up their octets, and the padding is
short enough for the templates in force. -/
def WellFormed (DateTime : Type) [Chrono DateTime] (registry : Registry) :
    TemplatesMap → List RawSet → Prop
  | _, [] => True
  | map, set :: sets => set.Admissible map ∧ ∃ map' parsed,
      (records registry set.id map set.content : _ × Except _ (_ × Set DateTime)) =
        (map', .ok ([], parsed)) ∧ WellFormed DateTime registry map' sets

theorem readSet_unpadded {set : RawSet} {parsed : Set DateTime}
    (h : records registry set.id map set.content = (map', .ok ([], parsed))) :
    readSet registry set.unpadded map = (map', .ok parsed) := by
  have hrecords : records registry set.unpadded.id map (set.unpadded.content ++ set.unpadded.zeros) =
      (map', .ok ([], parsed)) := by
    rw [← h]
    exact congrArg (records registry set.id map) (append_nil set.content)
  rw [readSet, hrecords]

/-- Padding makes no difference, unless it stands behind templates. -/
theorem readSet_padded {set : RawSet} {parsed : Set DateTime} (hpadding : set.Admissible map)
    (h : records registry set.id map set.content = (map', .ok ([], parsed))) :
    (set.id = .template ∧ set.padding ≠ 0 ∧
        ∃ map'' e, (readSet registry set map : _ × Except _ (Set DateTime)) = (map'', .error e)) ∨
      ((set.id = .template → set.padding = 0) ∧ readSet registry set map = (map', .ok parsed)) := by
  by_cases hzero : set.padding = 0
  · refine .inr ⟨fun _ => hzero, ?_⟩
    have hcontent : set.content ++ set.zeros = set.content := by
      rw [RawSet.zeros, hzero, replicate_zero, append_nil]
    rw [readSet, hcontent, h]
  · unfold RawSet.Admissible at hpadding
    unfold readSet RawSet.zeros
    cases hid : set.id with
    | template =>
      rw [hid] at hpadding h
      obtain ⟨map'', e, he⟩ := templateRecords_zeros (Nat.pos_of_ne_zero hzero) hpadding h
      exact .inl ⟨rfl, hzero, map'', e.map .setParsingError, by rw [records, he]⟩
    | optionsTemplate =>
      rw [hid] at hpadding h
      refine .inr ⟨fun htemplate => (nomatch htemplate), ?_⟩
      rw [records, optionsTemplateRecords_zeros hpadding h]
    | data id =>
      rw [hid] at hpadding h
      obtain ⟨inForce, hforce, hshort⟩ := hpadding.resolve_left hzero
      refine .inr ⟨fun htemplate => (nomatch htemplate), ?_⟩
      rw [records, dataRecords_zeros hforce hshort h]

/-- Along the sets of a packet. -/
theorem runEach_padded {sets : List RawSet} (h : WellFormed DateTime registry map sets) :
    ∃ map' parsed, runEach (readSet registry) (sets.map RawSet.unpadded) map =
        (map', .ok (parsed : List (Set DateTime))) ∧
      (((∀ set ∈ sets, set.id = .template → set.padding = 0) ∧
          runEach (readSet registry) sets map = (map', .ok parsed)) ∨
        (¬ (∀ set ∈ sets, set.id = .template → set.padding = 0) ∧
          ∃ map'' e, (runEach (readSet registry) sets map : _ × Except _ (List (Set DateTime))) =
            (map'', .error e))) := by
  induction sets generalizing map with
  | nil => exact ⟨map, [], rfl, .inl ⟨fun _ hset => (nomatch hset), rfl⟩⟩
  | cons set sets ih =>
    obtain ⟨hpadding, mid, own, hown, hrest⟩ := h
    obtain ⟨map', parsed, hplain, hpadded⟩ := ih hrest
    refine ⟨map', own :: parsed, ?_, ?_⟩
    · rw [map_cons, runEach, readSet_unpadded hown]
      simp only [hplain]
    · obtain ⟨htemplate, hzero, map'', e, he⟩ | ⟨hzero, hread⟩ := readSet_padded hpadding hown
      · exact .inr ⟨fun hall => hzero (hall set mem_cons_self htemplate), map'', e, by
          rw [runEach, he]⟩
      · obtain ⟨hall, hsets⟩ | ⟨hnot, map'', e, he⟩ := hpadded
        · refine .inl ⟨?_, ?_⟩
          · rw [forall_mem_cons]
            exact ⟨hzero, hall⟩
          · rw [runEach, hread]
            simp only [hsets]
        · refine .inr ⟨fun hall => hnot (forall_mem_cons.mp hall).2, map'', e, ?_⟩
          rw [runEach, hread]
          simp only [he]

/-- The octets of a packet of sets. -/
def packetOctets (exportTime sequenceNumber observationDomainId : BitVec 32) (sets : List RawSet) :
    Octets :=
  octets ipfixVersion ++ octets (BitVec.ofNat 16 (16 + (sets.map RawSet.size).sum)) ++
    (octets exportTime ++ (octets sequenceNumber ++ (octets observationDomainId ++
      sets.flatMap RawSet.encoded)))

theorem RawSet.encoded_length (set : RawSet) : set.encoded.length = set.size := by
  simp only [encoded, zeros, size, length_append, octets_length, length_replicate]
  omega

theorem RawSet.encoded_ne_nil (set : RawSet) : set.encoded ≠ [] := by
  apply ne_nil_of_length_pos
  rw [encoded_length, size]
  omega

theorem fromWire_packetOctets {exportTime : BitVec 32} {time : DateTime}
    (htime : timestampOpt exportTime.toNat 0 = some time)
    (sequenceNumber observationDomainId : BitVec 32) {sets : List RawSet}
    (hsize : 16 + (sets.map RawSet.size).sum ≤ 65535) (map : TemplatesMap) :
    IpfixPacket.fromWire registry map
        (packetOctets exportTime sequenceNumber observationDomainId sets) =
      match runEach (readSet registry) sets map with
      | (map', .error e) => (map', .error e)
      | (map', .ok parsed) =>
        (map', .ok ([], ⟨time, sequenceNumber, observationDomainId, parsed⟩)) := by
  have hlength : (sets.flatMap RawSet.encoded).length = (sets.map RawSet.size).sum :=
    length_flatMap_of fun set _ => set.encoded_length
  have hheader : Decodes IpfixPacket.header
      (packetOctets exportTime sequenceNumber observationDomainId sets)
      (octets exportTime ++ (octets sequenceNumber ++ (octets observationDomainId ++
        sets.flatMap RawSet.encoded))) := by
    refine decodes_header ?_ (Nat.le_add_right _ _) (by omega)
    simp only [length_append, octets_length, hlength]
    omega
  have hclock : Decodes (mapRes beU32 fun time => (timestampOpt time.toNat 0 : Option DateTime).elim
      (.error (IpfixPacketParsingError.invalidExportTime time)) .ok) (octets exportTime) time :=
    (decodes_beU32 exportTime).mapRes (by simp only [htime, Option.elim])
  have hframed : ∀ set ∈ sets,
      Framed (.mapErr IpfixPacketParsingError.setParsingError (Set.fromWire registry))
        set.encoded (readSet registry set : _ → _ × Except _ (Set DateTime)) :=
    fun set _ => framed_set registry set
  have hloop := repeatWhile_onlyFrames hframed (fun set _ => set.encoded_ne_nil) map
  have hread := (Reads.liftP hheader map).run_bind (fun data => StateParser.within data
    (IpfixPacket.body registry : StateParser _ _ (IpfixPacket DateTime))) []
  rw [append_nil] at hread
  rw [IpfixPacket.fromWire, hread, StateParser.within, IpfixPacket.body,
    (Reads.liftP hclock map).run_bind, (Reads.liftP (decodes_beU32 _) map).run_bind,
    (Reads.liftP (decodes_beU32 _) map).run_bind, StateParser.bind_apply, hloop]
  rcases (runEach (readSet registry) sets map : _ × Except _ (List (Set DateTime))) with
    ⟨map', e | parsed⟩ <;> rfl

/-- Zeros behind the records of the sets of a packet are neutral exactly when none stand
behind templates: the packet is read with the same records, and leaves the same templates,
as without them. -/
theorem padding_neutral_iff (registry : Registry) (map : TemplatesMap)
    (exportTime sequenceNumber observationDomainId : BitVec 32) (sets : List RawSet)
    (htime : (timestampOpt exportTime.toNat 0 : Option DateTime).isSome)
    (hsize : 16 + (sets.map RawSet.size).sum ≤ 65535)
    (h : WellFormed DateTime registry map sets) :
    (∃ (map' : TemplatesMap) (packet : IpfixPacket DateTime),
        IpfixPacket.fromWire registry map (packetOctets exportTime sequenceNumber
          observationDomainId (sets.map RawSet.unpadded)) = (map', .ok ([], packet)) ∧
        IpfixPacket.fromWire registry map (packetOctets exportTime sequenceNumber
          observationDomainId sets) = (map', .ok ([], packet))) ↔
      ∀ set ∈ sets, set.id = .template → set.padding = 0 := by
  obtain ⟨time, htime⟩ := Option.isSome_iff_exists.mp htime
  have hplainSize : 16 + ((sets.map RawSet.unpadded).map RawSet.size).sum ≤ 65535 := by
    have hless : ((sets.map RawSet.unpadded).map RawSet.size).sum ≤ (sets.map RawSet.size).sum := by
      rw [map_map]
      exact sum_le_sum fun set _ => by
        simp only [Function.comp_apply, RawSet.size, RawSet.unpadded]
        omega
    omega
  rw [fromWire_packetOctets htime _ _ hplainSize, fromWire_packetOctets htime _ _ hsize]
  obtain ⟨map', parsed, hplain, ⟨hall, hpadded⟩ | ⟨hnot, map'', e, he⟩⟩ := runEach_padded h
  · refine iff_of_true ⟨map', ⟨time, sequenceNumber, observationDomainId, parsed⟩, ?_, ?_⟩ hall
    · rw [hplain]
    · rw [hpadded]
  · refine iff_of_false ?_ hnot
    rintro ⟨last, packet, -, hok⟩
    rw [he] at hok
    cases hok

/-! ## Two packets -/

/-- A counter of 189, with seven zeros behind it. -/
def counterSet : RawSet :=
  ⟨.data .least, [0, 0, 0, 0, 0, 0, 0, 189], 7, by decide⟩

theorem counterSet_wellFormed : WellFormed UtcTime sampleRegistry counterMap [counterSet] :=
  ⟨.inr ⟨.new [] [counterSpecifier], rfl, by decide⟩, counterMap.increment 256,
    .data .least [⟨[], [counterField]⟩], rfl, trivial⟩

theorem padding_neutral_counter :
    counterSet.padding = 7 ∧ ∃ (map' : TemplatesMap) (packet : IpfixPacket UtcTime),
      IpfixPacket.fromWire sampleRegistry counterMap (packetOctets 0 0 1 [counterSet.unpadded]) =
          (map', .ok ([], packet)) ∧
      IpfixPacket.fromWire sampleRegistry counterMap (packetOctets 0 0 1 [counterSet]) =
          (map', .ok ([], packet)) := by
  refine ⟨rfl, (padding_neutral_iff sampleRegistry counterMap 0 0 1 [counterSet] (by decide)
    (by decide) counterSet_wellFormed).mpr fun set hset htemplate => ?_⟩
  rw [mem_singleton.mp hset] at htemplate
  cases htemplate

/-- A template of a counter, with two zeros behind it. -/
def paddedTemplate : RawSet :=
  ⟨.template, TemplateRecord.write counterTemplate, 2, by decide⟩

/-- The zeros are taken for a template with the number zero. -/
theorem paddedTemplate_refused :
    WellFormed UtcTime sampleRegistry counterMap [paddedTemplate] ∧
      (IpfixPacket.fromWire sampleRegistry counterMap
          (packetOctets 0 0 1 [paddedTemplate.unpadded]) :
        _ × Except _ (_ × IpfixPacket UtcTime)).2.isOk = true ∧
      (IpfixPacket.fromWire sampleRegistry counterMap (packetOctets 0 0 1 [paddedTemplate]) :
        _ × Except _ (_ × IpfixPacket UtcTime)).2 =
          .error (.error (.setParsingError (.templateRecordError (.invalidTemplateId 0)))) :=
  ⟨⟨(by decide : 2 < 4), TemplateRecord.announce counterMap counterTemplate,
    .template [counterTemplate], rfl, trivial⟩, rfl, rfl⟩

end Ipfix

end NetCalyx.Flow
