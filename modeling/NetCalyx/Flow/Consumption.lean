import NetCalyx.Flow.Codec
import NetCalyx.Flow.Reading

/-!
# Packets and sets stay inside their octets

The sizes of records come from templates that anyone may send. All the same every loop of the
parsers ends: a field takes at least the least size that its template counts for it, and no record
is read with a template that counts nothing; a template takes at least its id, a set its header.

A set takes the octets that its header announces. What it contains depends on these octets alone,
and it has no more records than octets (`sets_contained`). A packet takes octets as well, unless
the codec takes the record count of a NetFlow packet for a length (`consumes_datagram_iff`).
-/

namespace NetCalyx.Flow
open Wire StateParser Ipfix Netflow NetFlowV9Packet

theorem reads_header {OE RE : Type} (ids : SetIds) :
    ReadsFront 1 (Set.header ids : Parser (SetParsingError OE RE) _) :=
  (ReadsFront.mapRes ((ReadsFront.beUint 16).mono (by decide)) _).first fun _ =>
    ((ReadsFront.beUint 16).mapRes _).first fun _ => (ReadsFront.take _).first fun _ => .pure _

/-! ## Sets -/

/-- The number of records in a set. -/
def Set.entryCount {O R : Type} : Set O R → Nat
  | .template records => records.length
  | .optionsTemplate records => records.length
  | .data _ records => records.length

variable {DateTime : Type} [Chrono DateTime] {registry : Registry} {content rest : Octets}

section Sets

variable {S O R OE RE : Type}

/-- A set takes the octets that its header announces, whatever follows. It has fewer records than
octets. -/
structure Contained (fromWire : StateParser (TemplatesMap S) (SetParsingError OE RE) (Set O R)) :
    Prop where
  exact : ∀ map map' buf rest set, fromWire map buf = (map', .ok (rest, set)) →
    4 ≤ lengthOf buf ∧ lengthOf buf ≤ buf.length ∧ rest = buf.drop (lengthOf buf) ∧
      set.entryCount + 4 ≤ lengthOf buf
  alone : ∀ map buf, 4 ≤ lengthOf buf → lengthOf buf ≤ buf.length → ∀ tail,
    fromWire map (buf.take (lengthOf buf) ++ tail) =
      ((fromWire map buf).1, (fromWire map buf).2.map fun r => (tail, r.2))

theorem lengthOf_frame (code length : BitVec 16) (rest : Octets) :
    lengthOf (octets code ++ (octets length ++ rest)) = length.toNat := by
  have hcode : (octets code).length = 2 := octets_length code
  have hfield : (octets length).length = 2 := octets_length length
  rw [lengthOf, List.drop_left' hcode, List.take_left' hfield, ofOctets_octets rfl]

/-- The octets of a set in front of a buffer that has them. -/
theorem exists_frame {buf : Octets} (hlength : 4 ≤ lengthOf buf) (hbuf : lengthOf buf ≤ buf.length) :
    ∃ (code length : BitVec 16) (content rest : Octets),
      buf = octets code ++ (octets length ++ (content ++ rest)) ∧
        content.length + 4 = length.toNat := by
  refine ⟨ofOctets 16 (buf.take 2), ofOctets 16 ((buf.drop 2).take 2),
    (buf.drop 4).take (lengthOf buf - 4), (buf.drop 4).drop (lengthOf buf - 4), ?_, ?_⟩
  · rw [octets_ofOctets rfl _ (by rw [List.length_take]; omega),
      octets_ofOctets rfl _ (by rw [List.length_take, List.length_drop]; omega),
      List.take_append_drop, show buf.drop 4 = (buf.drop 2).drop 2 by rw [List.drop_drop],
      List.take_append_drop, List.take_append_drop]
  · rw [List.length_take, List.length_drop]
    change min (lengthOf buf - 4) (buf.length - 4) + 4 = lengthOf buf
    omega

theorem length_frame (code length : BitVec 16) (content rest : Octets) :
    (octets code ++ (octets length ++ (content ++ rest))).length =
      content.length + 4 + rest.length := by
  have hcode : (octets code).length = 2 := octets_length code
  have hfield : (octets length).length = 2 := octets_length length
  simp only [List.length_append, hcode, hfield]
  omega

variable {code length : BitVec 16}

theorem split_frame (h : content.length + 4 = length.toNat) (rest : Octets) :
    (octets code ++ (octets length ++ (content ++ rest))).drop length.toNat = rest ∧
      (octets code ++ (octets length ++ (content ++ rest))).take length.toNat =
        octets code ++ (octets length ++ content) := by
  have hlength : (octets code ++ (octets length ++ content)).length = length.toNat := by
    have hframe := length_frame code length content []
    rw [List.append_nil] at hframe
    rw [hframe, ← h, List.length_nil, Nat.add_zero]
  have hassoc : octets code ++ (octets length ++ (content ++ rest)) =
      octets code ++ (octets length ++ content) ++ rest := by
    simp only [List.append_assoc]
  rw [hassoc]
  exact ⟨List.drop_left' hlength, List.take_left' hlength⟩

theorem header_eq_ok {ids : SetIds} {buf : Octets} {id : SetId}
    (h : (Set.header ids : Parser (SetParsingError OE RE) _) buf = .ok (rest, (id, content))) :
    ∃ code length : BitVec 16, buf = octets code ++ (octets length ++ (content ++ rest)) ∧
      content.length + 4 = length.toNat := by
  obtain ⟨_, _, hid, hbehind⟩ := Parser.bind_eq_ok h
  obtain ⟨_, length, hlength, hbehind'⟩ := Parser.bind_eq_ok hbehind
  obtain ⟨_, _, htake, hpure⟩ := Parser.bind_eq_ok hbehind'
  obtain ⟨code, hcode, -⟩ := mapRes_eq_ok.mp hid
  obtain ⟨length', hfield, hcheck⟩ := mapRes_eq_ok.mp hlength
  obtain rfl := (beUint_eq_ok rfl).mp hcode
  obtain rfl := (beUint_eq_ok rfl).mp hfield
  obtain ⟨hcontent, rfl⟩ := takeOr_eq_ok.mp htake
  cases hpure
  unfold checkSetLength at hcheck
  split at hcheck
  · cases hcheck
  · cases hcheck
    exact ⟨code, length, rfl, by omega⟩

variable {ids : SetIds} {options : StateParser (TemplatesMap S) OE O}
  {records : DataSetId → StateParser (TemplatesMap S) (SetParsingError OE RE) (Set O R)}

theorem fromWireWith_eq : Set.fromWireWith ids registry options records =
    liftP (Set.header ids) >>= fun r =>
      StateParser.within r.2 (Set.content registry options records r.1) := by
  rfl

/-- What a set gives is decided by its own octets. -/
theorem framed_frame (h : content.length + 4 = length.toNat) :
    ∃ run, Framed (Set.fromWireWith ids registry options records)
      (octets code ++ (octets length ++ content)) run := by
  have hcheck : checkSetLength length = (.ok length : Except (SetParsingError OE RE) _) := by
    rw [checkSetLength, if_neg (by omega)]
  rw [fromWireWith_eq]
  refine Settles.framed_within (((decodes_beU16 code).settles.mapRes _).bind fun id =>
    .after ((decodes_beU16 length).mapRes hcheck) ?_) _ _
  exact ((decodes_take (by omega)).map _).settles

theorem entryCount_content {id : SetId} {map map' : TemplatesMap S} {set : Set O R}
    (hrecords : ∀ id map map' content rest set, records id map content = (map', .ok (rest, set)) → set.entryCount ≤ content.length)
    (h : Set.content registry options records id map content = (map', .ok (rest, set))) :
    set.entryCount ≤ content.length := by
  cases id with
  | template =>
    obtain ⟨_, _, read, hread, hpure⟩ := bind_eq_ok h
    cases hpure
    exact length_of_repeatWhile hread
  | optionsTemplate =>
    obtain ⟨_, _, read, hread, hbehind⟩ := bind_eq_ok h
    obtain ⟨_, _, _, -, hpure⟩ := bind_eq_ok hbehind
    cases hpure
    exact length_of_repeatWhile hread
  | data id => exact hrecords id _ _ _ _ _ h

theorem contained_fromWireWith
    (hrecords : ∀ id map map' content rest set, records id map content = (map', .ok (rest, set)) →
      set.entryCount ≤ content.length) :
    Contained (Set.fromWireWith ids registry options records) := by
  constructor
  · intro map map' buf rest set h
    rw [fromWireWith_eq] at h
    obtain ⟨mid, ⟨id, content⟩, hheader, hbehind⟩ := liftP_bind_eq_ok h
    obtain ⟨rfl, left, hset⟩ := within_eq_ok.mp hbehind
    obtain ⟨code, length, rfl, hlength⟩ := header_eq_ok hheader
    have hcount : set.entryCount ≤ content.length := entryCount_content hrecords hset
    rw [lengthOf_frame, (split_frame hlength _).1, length_frame]
    exact ⟨by omega, by omega, rfl, by omega⟩
  · intro map buf hlength hbuf tail
    obtain ⟨code, length, content, rest, rfl, hcontent⟩ := exists_frame hlength hbuf
    have hassoc : octets code ++ (octets length ++ (content ++ rest)) =
        octets code ++ (octets length ++ content) ++ rest := by
      simp only [List.append_assoc]
    obtain ⟨run, hrun⟩ : ∃ run, Framed (Set.fromWireWith ids registry options records)
      (octets code ++ (octets length ++ content)) run := framed_frame hcontent
    rw [lengthOf_frame, (split_frame hcontent _).2, hassoc, hrun, hrun]
    rcases run map with ⟨map', e | set⟩ <;> rfl

/-- The loops over the templates of a set end. -/
structure TemplateLoopsEnd (RE : Type) (registry : Registry)
    (options : StateParser (TemplatesMap S) OE O) : Prop where
  templates : Ends (fun buf => !buf.isEmpty)
    (.mapErr .templateRecordError (TemplateRecord.fromWire registry) :
      StateParser (TemplatesMap S) (SetParsingError OE RE) _)
  options : Ends (fun buf => 3 < buf.length)
    (.mapErr .optionsTemplateRecordError options : StateParser _ (SetParsingError OE RE) _)

theorem templateLoops_end (hoptions : TakesState 1 options) :
    TemplateLoopsEnd RE registry options where
  templates := ends_of_takes rfl ((TakesState.noted (reads_templateRecord registry).takes _).mapErr _)
  options := ends_of_takes rfl (hoptions.mapErr _)

theorem takes_fromWireWith : TakesState 1 (Set.fromWireWith ids registry options records) :=
  (TakesState.liftP (reads_header ids).takes).first fun _ => .within

end Sets

namespace Ipfix

/-- A packet is as long as its header says. -/
theorem header_length {buf : Octets} (h : IpfixPacket.header buf = .ok (rest, content)) :
    16 ≤ lengthOf buf ∧ lengthOf buf ≤ buf.length ∧ rest = buf.drop (lengthOf buf) ∧
      content.length + 4 = lengthOf buf := by
  obtain ⟨mid, version, hversion, hbehind⟩ := Parser.bind_eq_ok h
  obtain rfl := (beUint_eq_ok rfl).mp hversion
  split at hbehind
  · cases hbehind
  · obtain ⟨mid', length, hlength, hcontent⟩ := Parser.bind_eq_ok hbehind
    obtain rfl := (beUint_eq_ok rfl).mp hlength
    split at hcontent
    · cases hcontent
    · obtain ⟨hcontent, rfl⟩ := takeOr_eq_ok.mp hcontent
      have hsize : content.length + 4 = length.toNat := by omega
      rw [lengthOf_frame, (split_frame hsize rest).1, length_frame]
      exact ⟨by omega, by omega, rfl, hsize⟩

variable {map map' : TemplatesMap}

theorem packet_length {buf : Octets} {packet : IpfixPacket DateTime}
    (h : IpfixPacket.fromWire registry map buf = (map', .ok (rest, packet))) :
    16 ≤ lengthOf buf ∧ lengthOf buf ≤ buf.length ∧ rest = buf.drop (lengthOf buf) := by
  obtain ⟨mid, content, hheader, hwithin⟩ := liftP_bind_eq_ok h
  obtain ⟨rfl, -⟩ := within_eq_ok.mp hwithin
  obtain ⟨hle, hle', hrest, -⟩ := header_length hheader
  exact ⟨hle, hle', hrest⟩

/-- The loops of a packet end, whatever the templates. -/
structure LoopsEnd (DateTime : Type) [Chrono DateTime] (registry : Registry) : Prop extends
    TemplateLoopsEnd DataRecordParsingError registry (OptionsTemplateRecord.fromWire registry) where
  records : ∀ inForce : DecodingTemplate,
    Ends (fun buf => minRecordLength inForce ≤ buf.length && 0 < minRecordLength inForce)
      (.liftP (.mapErr .dataRecordError (DataRecord.fromWire inForce)) :
        StateParser TemplatesMap SetParsingError (DataRecord DateTime))
  sets : Ends (fun buf => !buf.isEmpty)
    (.mapErr .setParsingError (Set.fromWire registry) :
      StateParser TemplatesMap IpfixPacketParsingError (Set DateTime))

theorem loops_end : LoopsEnd DateTime registry where
  toTemplateLoopsEnd :=
    templateLoops_end (TakesState.noted (reads_optionsTemplateRecord registry).takes _)
  records inForce := by
    refine ends_repeatWhile ?_ ?_
    · -- an empty rest ends the loop: it is less than a record, or records have no size
      cases minRecordLength inForce <;> rfl
    · intro s s' buf rest record hgo hrecord
      rw [Bool.and_eq_true, decide_eq_true_iff, decide_eq_true_iff] at hgo
      have htakes := ((reads_dataRecord inForce).mapErr SetParsingError.dataRecordError).takes buf rest
        record (liftP_eq_ok.mp hrecord).2
      omega
  sets := ends_of_takes rfl (takes_fromWireWith.mapErr _)

theorem dataRecords_eq_ok {id : DataSetId} {set : Set DateTime}
    (h : Set.dataRecords id map content = (map', .ok (rest, set))) :
    ∃ inForce read t, map id.val = some inForce ∧
      repeatWhile
        (fun buf => minRecordLength inForce ≤ buf.length && 0 < minRecordLength inForce)
        (.liftP (.mapErr .dataRecordError (DataRecord.fromWire inForce)) :
          StateParser TemplatesMap SetParsingError (DataRecord DateTime)) map content =
            (t, .ok (rest, read)) ∧ map' = t.increment id.val ∧ set = .data id read := by
  obtain ⟨_, _, _, hstate, hset⟩ := bind_eq_ok h
  cases hstate
  cases hforce : map id.val with
  | none =>
    rw [hforce] at hset
    cases hset
  | some inForce =>
    rw [hforce] at hset
    obtain ⟨t, _, read, hread, hbehind⟩ := bind_eq_ok hset
    obtain ⟨_, _, _, hcount, hpure⟩ := bind_eq_ok hbehind
    cases hcount
    cases hpure
    exact ⟨inForce, read, t, rfl, hread, rfl, rfl⟩

theorem entryCount_dataRecords (id : DataSetId) {set : Set DateTime}
    (h : Set.dataRecords id map content = (map', .ok (rest, set))) :
    set.entryCount ≤ content.length := by
  obtain ⟨_, _, _, -, hread, -, rfl⟩ := dataRecords_eq_ok h
  exact length_of_repeatWhile hread

end Ipfix

namespace Netflow

theorem reads_scopeFieldSpecifier : ReadsFront 1 ScopeFieldSpecifier.fromWire :=
  ReadsFront.first ((ReadsFront.beUint 16).mono (by decide)) fun _ =>
    (ReadsFront.beUint 16).first fun _ =>
      ReadsFront.first (.ite (ReadsFront.beUint 32).any (.pure _)) fun _ => .ite (.pure _) (.fail _ _)

theorem reads_optionsTemplateRecord : ReadsFront 1 (OptionsTemplateRecord.parse registry) :=
  ReadsFront.first ((ReadsFront.beUint 16).mono (by decide)) fun _ => .ite (.fail _ _) <|
    (ReadsFront.beUint 16).first fun _ => (ReadsFront.beUint 16).first fun _ =>
      (ReadsFront.take _).first fun _ => (ReadsFront.take _).first fun _ =>
        ReadsFront.within.first fun _ => ReadsFront.within.first fun _ => .pure _

theorem fixed_scopeField (ie : ScopeIE) (length : BitVec 16) :
    Fixed length.toNat (ScopeField.fromWire ie length) := by
  have hnumber : Fixed length.toNat (scopeNumber length) := fixed_announced fun _ => rfl
  have hoctets :
      Fixed length.toNat (Wire.count beU8 length.toNat : Parser ScopeFieldParsingError _) := by
    have hone : Fixed 1 (beU8 : Parser ScopeFieldParsingError _) := .beUint 8
    simpa using hone.count length.toNat
  cases ie with
  | unknown | cache | template => exact hoctets.first fun _ => .pure _
  | system | interface | lineCard => exact hnumber.first fun _ => .pure _

/-- The fields of a record take something unless all of them are empty. -/
theorem readFields_takes_pos {specs : List FieldSpecifier}
    (h : 0 < (specs.map (·.length.toNat)).sum) : 0 < (specs.map (·.minLength)).sum := by
  induction specs with
  | nil => exact h
  | cons spec specs ih =>
    rw [List.map_cons, List.sum_cons] at h ⊢
    by_cases hspec : 0 < spec.length.toNat
    · exact Nat.add_pos_left (leastLength_pos hspec) _
    · exact Nat.add_pos_right _ (ih (by omega))

theorem reads_dataRecord {template : DecodingTemplate} (h : recordLength template ≠ 0) :
    ReadsFront 1 (DataRecord.fromWire template : Parser _ (DataRecord DateTime)) := by
  have hscope := ReadsFront.readEach (fun spec : ScopeFieldSpecifier =>
    (fixed_scopeField spec.elementId spec.length).readsFront) template.scopeFieldsSpecs
  have hrecord : ReadsFront _ (DataRecord.fromWire template : Parser _ (DataRecord DateTime)) :=
    (hscope.mapErr _).bind fun _ => ((reads_readFields template.fieldsSpecs).mapErr _).first
      fun _ => .pure _
  refine hrecord.mono ?_
  unfold recordLength at h
  by_cases hfields : 0 < (template.fieldsSpecs.map (·.length.toNat)).sum
  · have := readFields_takes_pos hfields
    omega
  · omega

/-- A round of the loop over the sets, with the number of records that are still expected. -/
def setRound (registry : Registry) (count : BitVec 16) :
    StateParser (TemplatesMap × Nat) NetFlowV9PacketParsingError (Set DateTime) := fun s buf =>
  match Set.fromWire registry s.1 buf with
  | (map, .error e) => ((map, s.2), .error (e.map .setError))
  | (map, .ok (rest, set)) =>
    match Set.subtract s.2 set with
    | none => ((map, s.2), .error (.error (.invalidCount count)))
    | some i => ((map, i), .ok (rest, set))

theorem takes_setRound (count : BitVec 16) :
    TakesState 0 (setRound registry count : StateParser _ _ (Set DateTime)) := by
  intro s s' buf rest set h
  rcases hset : (Set.fromWire registry s.1 buf : _ × Except _ (Octets × Set DateTime)) with
    ⟨map, e | ⟨mid, set'⟩⟩
  · simp only [setRound, hset] at h
    cases h
  · have hless := takes_fromWireWith _ _ _ _ _ hset
    cases hsub : Set.subtract s.2 set' with
    | none =>
      simp only [setRound, hset, hsub] at h
      cases h
    | some i =>
      simp only [setRound, hset, hsub] at h
      cases h
      omega

/-- Records are expected and there are octets for another set. -/
def expectsSet (s : TemplatesMap × Nat) (buf : Octets) : Bool :=
  0 < s.2 && 3 < buf.length

theorem unrolls_readSets (count : BitVec 16) {fuel : Nat} (i : Nat) (map : TemplatesMap)
    {buf : Octets} (hfuel : buf.length ≤ fuel) : ∃ i',
      Unrolls expectsSet (setRound registry count : StateParser _ _ (Set DateTime)) (map, i) buf
        (((@readSets DateTime _ registry count fuel i map buf).1, i'),
          (readSets registry count fuel i map buf).2) := by
  induction fuel generalizing i map buf with
  | zero =>
    have hbuf : buf = [] := List.eq_nil_of_length_eq_zero (Nat.le_zero.mp hfuel)
    subst hbuf
    have hgo : expectsSet (map, i) [] = false := by simp [expectsSet]
    have hstops : readSets registry count 0 i map [] =
        (map, .ok ([], ([] : List (Set DateTime)))) := by
      simp [readSets]
    rw [hstops]
    exact ⟨i, .stops hgo⟩
  | succ fuel ih =>
    unfold readSets
    by_cases hgo : 0 < i ∧ 3 < buf.length
    · have hgo' : expectsSet (map, i) buf = true := by simpa [expectsSet] using hgo
      rw [if_pos hgo]
      rcases hset : (Set.fromWire registry map buf : _ × Except _ (Octets × Set DateTime)) with
        ⟨map', e | ⟨rest, set⟩⟩
      · refine ⟨i, .fails hgo' ?_⟩
        simp only [setRound, hset]
      · have hless := takes_fromWireWith _ _ _ _ _ hset
        dsimp only
        cases hsub : Set.subtract i set with
        | none =>
          refine ⟨i, .fails hgo' ?_⟩
          simp only [setRound, hset, hsub]
        | some i' =>
          have hround : setRound registry count (map, i) buf = ((map', i'), .ok (rest, set)) := by
            simp only [setRound, hset, hsub]
          obtain ⟨i'', hrest⟩ := ih i' map' (show rest.length ≤ fuel by omega)
          have hnext := Unrolls.next hgo' hround hrest
          refine ⟨i'', ?_⟩
          dsimp only
          generalize @readSets DateTime _ registry count fuel i' map' rest = sets
            at hnext ⊢
          obtain ⟨map'', e | r⟩ := sets
          · exact hnext
          · exact hnext
    · have hgo' : expectsSet (map, i) buf = false := by simpa [expectsSet] using hgo
      rw [if_neg hgo]
      exact ⟨i, .stops hgo'⟩

/-- The loops of a packet end, whatever the templates. -/
structure LoopsEnd (DateTime : Type) [Chrono DateTime] (registry : Registry) : Prop extends
    TemplateLoopsEnd DataRecordParsingError registry (OptionsTemplateRecord.fromWire registry) where
  scopeFields : ∀ buf, Unrolls (fun _ buf => !buf.isEmpty)
    (.liftP (.mapErr OptionsTemplateRecordParsingError.scopeFieldSpecifierError
      ScopeFieldSpecifier.fromWire)) () buf
    ((), parseTillEmpty (.mapErr .scopeFieldSpecifierError ScopeFieldSpecifier.fromWire) buf)
  fields : ∀ buf, Unrolls (fun _ buf => !buf.isEmpty)
    (.liftP (.mapErr OptionsTemplateRecordParsingError.fieldSpecifierError
      (FieldSpecifier.fromWire registry))) () buf
    ((), parseTillEmpty (.mapErr .fieldSpecifierError (FieldSpecifier.fromWire registry)) buf)
  records : ∀ id (inForce : DecodingTemplate), recordLength inForce ≠ 0 →
    Ends (fun buf => recordLength inForce ≤ buf.length)
      (Set.dataRecord id inForce : StateParser _ _ (DataRecord DateTime))
  sets : ∀ count i map buf, ∃ i',
    Unrolls expectsSet (setRound registry count : StateParser _ _ (Set DateTime)) (map, i) buf
      (((@readSets DateTime _ registry count buf.length i map buf).1, i'),
        (readSets registry count buf.length i map buf).2)

theorem loops_end : LoopsEnd DateTime registry where
  toTemplateLoopsEnd := templateLoops_end (TakesState.noted reads_optionsTemplateRecord.takes _)
  scopeFields := unrolls_parseTillEmpty (reads_scopeFieldSpecifier.mapErr _).takes
  fields := unrolls_parseTillEmpty ((reads_fieldSpecifier registry).mapErr _).takes
  records id inForce h := by
    refine ends_of_takes (decide_eq_false fun hle => h (Nat.le_zero.mp hle)) ?_
    exact (TakesState.liftP ((reads_dataRecord h).mapErr _).takes).first fun _ =>
      (TakesState.modify _).first fun _ => .pure _
  sets count i map buf := unrolls_readSets count i map (le_refl buf.length)

/-- A packet takes at least its version. -/
theorem takes_packet :
    TakesState 1 (NetFlowV9Packet.fromWire registry : StateParser _ _ (NetFlowV9Packet DateTime)) := by
  have hnumber (w : Nat) : TakesState 0 (.liftP (beUint w) :
      StateParser TemplatesMap NetFlowV9PacketParsingError _) :=
    .liftP (ReadsFront.beUint w).any.takes
  refine (TakesState.liftP ((ReadsFront.beUint 16).mono (by decide)).takes).first fun version => ?_
  split
  · exact .liftP (ReadsFront.fail _ _).takes
  · refine (hnumber 16).first fun count => (hnumber 32).first fun _ => ?_
    refine (TakesState.liftP ((ReadsFront.beUint 32).mapRes _).any.takes).first fun _ => ?_
    refine (hnumber 32).first fun _ => (hnumber 32).first fun _ => ?_
    intro map map' buf rest packet h
    obtain ⟨_, _, _, hinput, hbehind⟩ := bind_eq_ok h
    cases hinput
    obtain ⟨_, _, sets, hsets, hpacket⟩ := bind_eq_ok hbehind
    cases hpacket
    obtain ⟨i, hloop⟩ := @unrolls_readSets DateTime _ registry count _ count.toNat map buf (le_refl _)
    rw [hsets] at hloop
    exact hloop.rest_le (takes_setRound count)

variable {map map' : TemplatesMap}

theorem dataRecords_eq_ok {id : DataSetId} {set : Set DateTime}
    (h : Set.dataRecords id map content = (map', .ok (rest, set))) :
    ∃ inForce read t mid, map id.val = some inForce ∧
      Set.readRecords id inForce map content = (t, .ok (mid, read)) ∧
      checkPadding t mid = ((map', .ok (rest, ())) : _ × Except (Err SetParsingError) _) ∧
      set = .data id read := by
  obtain ⟨_, _, _, hstate, hset⟩ := bind_eq_ok h
  cases hstate
  cases hforce : map id.val with
  | none =>
    rw [hforce] at hset
    cases hset
  | some inForce =>
    rw [hforce] at hset
    obtain ⟨t, mid, read, hread, hbehind⟩ := bind_eq_ok hset
    obtain ⟨_, _, _, hpadding, hpure⟩ := bind_eq_ok hbehind
    cases hpure
    exact ⟨inForce, read, t, mid, rfl, hread, hpadding, rfl⟩

theorem entryCount_dataRecords (id : DataSetId) {set : Set DateTime}
    (h : Set.dataRecords id map content = (map', .ok (rest, set))) :
    set.entryCount ≤ content.length := by
  obtain ⟨_, _, _, _, -, hread, -, rfl⟩ := dataRecords_eq_ok h
  unfold Set.readRecords at hread
  split at hread
  · cases hread
    exact Nat.zero_le _
  · exact length_of_repeatWhile hread

end Netflow

/-- The parsers of both protocols end on every input and with all templates. A set takes exactly the
octets that its header announces, reads none behind them, and has fewer records than octets. -/
theorem sets_contained (DateTime : Type) [Chrono DateTime] (registry : Registry) :
    Ipfix.LoopsEnd DateTime registry ∧ Netflow.LoopsEnd DateTime registry ∧
      Contained (Ipfix.Set.fromWire registry : StateParser _ _ (Ipfix.Set DateTime)) ∧
      Contained (Netflow.Set.fromWire registry : StateParser _ _ (Netflow.Set DateTime)) :=
  ⟨Ipfix.loops_end, Netflow.loops_end,
    contained_fromWireWith fun id _ _ _ _ _ => entryCount_dataRecords id,
    contained_fromWireWith fun id _ _ _ _ _ => entryCount_dataRecords id⟩

/-! ## The codec -/

section Codec

/-- The number of octets by which the code advances its buffer, behind a packet as far as
the packet was read. -/
def FlowInfoCodec.advanced (DateTime : Type) [Chrono DateTime] (registry : Registry)
    (codec : FlowInfoCodec) (buf : Octets) : Nat :=
  if buf.length < 16 then 0
  else if buf.length < lengthOf buf then 0
  else if versionOf buf = ipfixVersion then
    match (Ipfix.IpfixPacket.fromWire registry codec.ipfixTemplatesMap buf :
      _ × Except _ (Octets × IpfixPacket DateTime)) with
    | (_, .ok (rest, _)) => buf.length - rest.length
    | (_, .error _) => if lengthOf buf < 5 then 5 else lengthOf buf
  else if versionOf buf = netflowV9Version then
    match (Netflow.NetFlowV9Packet.fromWire registry codec.netflowV9TemplatesMap buf :
      _ × Except _ (Octets × NetFlowV9Packet DateTime)) with
    | (_, .ok (rest, _)) => buf.length - rest.length
    | (_, .error _) => buf.length
  else buf.length

/-- What a call of `decode` with a whole header in its buffer is to do. -/
structure ConsumesDatagram (DateTime : Type) [Chrono DateTime] (registry : Registry)
    (codec : FlowInfoCodec) (buf rest : Octets) (decoded : Decoded DateTime) : Prop where
  /-- All loops of the parsers end. -/
  returns : Ipfix.LoopsEnd DateTime registry ∧ Netflow.LoopsEnd DateTime registry
  /-- The buffer has the octets by which it is advanced, so that this does not panic. -/
  advances : rest.length + codec.advanced DateTime registry buf = buf.length
  /-- Something is taken, unless an IPFIX packet is not complete yet. -/
  takes : (decoded ≠ .ok none ∧ rest.length < buf.length) ∨
    (decoded = .ok none ∧ rest = buf ∧ versionOf buf = ipfixVersion ∧
      buf.length < lengthOf buf)
  netflow : versionOf buf = netflowV9Version → decoded ≠ .ok none
  ipfix : versionOf buf = ipfixVersion → 16 ≤ lengthOf buf → decoded ≠ .ok none →
    lengthOf buf ≤ buf.length ∧ rest = buf.drop (lengthOf buf)

variable {codec : FlowInfoCodec} {buf : Octets}

theorem loops_end : Ipfix.LoopsEnd DateTime registry ∧ Netflow.LoopsEnd DateTime registry :=
  ⟨Ipfix.loops_end, Netflow.loops_end⟩

section

variable {decoded : Decoded DateTime} {codec' : FlowInfoCodec} (hfull : 16 ≤ buf.length)
  (hlength : lengthOf buf ≤ buf.length)
  (h : codec.decode registry buf = (codec', rest, decoded))
include hfull hlength h

/-- A complete IPFIX packet is taken, whether it can be parsed or not. -/
theorem consumes_ipfix (hversion : versionOf buf = ipfixVersion) :
    ConsumesDatagram DateTime registry codec buf rest decoded := by
  have hother : versionOf buf ≠ netflowV9Version := by
    rw [hversion]
    decide
  rw [FlowInfoCodec.decode, if_neg (by omega), if_neg (by omega), if_pos hversion] at h
  have hadvanced := FlowInfoCodec.advanced.eq_def DateTime registry codec buf
  rw [if_neg (by omega), if_neg (by omega), if_pos hversion] at hadvanced
  unfold parseIpfix at h
  rcases hpacket : (Ipfix.IpfixPacket.fromWire registry codec.ipfixTemplatesMap buf :
    _ × Except _ (Octets × IpfixPacket DateTime)) with ⟨map', r⟩
  rw [hpacket] at h hadvanced
  cases r with
  | ok r =>
    obtain ⟨rest', packet⟩ := r
    cases h
    dsimp only at hadvanced
    obtain ⟨hle, hle', hrest⟩ := packet_length hpacket
    have hlen : rest.length = buf.length - lengthOf buf := by rw [hrest, List.length_drop]
    refine ⟨loops_end, by omega, .inl ⟨nofun, by omega⟩, fun h => absurd h hother, ?_⟩
    exact fun _ _ _ => ⟨hle', hrest⟩
  | error err =>
    cases h
    dsimp only at hadvanced
    have hskip : (if lengthOf buf < 5 then 5 else lengthOf buf) ≤ buf.length := by
      split <;> omega
    have hpos : 0 < if lengthOf buf < 5 then 5 else lengthOf buf := by
      split <;> omega
    refine ⟨loops_end, ?_, .inl ⟨nofun, ?_⟩, fun h => absurd h hother, ?_⟩
    · rw [hadvanced, List.length_drop]
      omega
    · rw [List.length_drop]
      omega
    · intro _ hle _
      rw [if_neg (by omega)]
      exact ⟨hlength, rfl⟩

/-- So is a NetFlow packet with no more records than octets. -/
theorem consumes_netflow (hversion : versionOf buf = netflowV9Version) :
    ConsumesDatagram DateTime registry codec buf rest decoded := by
  have hother : versionOf buf ≠ ipfixVersion := by
    rw [hversion]
    decide
  rw [FlowInfoCodec.decode, if_neg (by omega), if_neg (by omega), if_neg hother,
    if_pos hversion] at h
  have hadvanced := FlowInfoCodec.advanced.eq_def DateTime registry codec buf
  rw [if_neg (by omega), if_neg (by omega), if_neg hother, if_pos hversion] at hadvanced
  unfold parseNetflowV9 at h
  rcases hpacket : (Netflow.NetFlowV9Packet.fromWire registry codec.netflowV9TemplatesMap buf :
    _ × Except _ (Octets × NetFlowV9Packet DateTime)) with ⟨map', r⟩
  rw [hpacket] at h hadvanced
  cases r with
  | ok r =>
    obtain ⟨rest', packet⟩ := r
    cases h
    dsimp only at hadvanced
    have htakes := takes_packet _ _ _ _ _ hpacket
    exact ⟨loops_end, by omega, .inl ⟨nofun, by omega⟩, fun _ => nofun, fun h => absurd h hother⟩
  | error err =>
    cases h
    dsimp only at hadvanced
    refine ⟨loops_end, ?_, .inl ⟨nofun, ?_⟩, fun _ => nofun, fun h => absurd h hother⟩
    · rw [hadvanced, List.length_nil]
      omega
    · rw [List.length_nil]
      omega

/-- Octets of another version are given up. -/
theorem consumes_unsupported (hipfix : versionOf buf ≠ ipfixVersion)
    (hnetflow : versionOf buf ≠ netflowV9Version) :
    ConsumesDatagram DateTime registry codec buf rest decoded := by
  rw [FlowInfoCodec.decode, if_neg (by omega), if_neg (by omega), if_neg hipfix,
    if_neg hnetflow] at h
  have hadvanced : codec.advanced DateTime registry buf = buf.length := by
    rw [FlowInfoCodec.advanced, if_neg (by omega), if_neg (by omega), if_neg hipfix,
      if_neg hnetflow]
  cases h
  refine ⟨loops_end, by simp [hadvanced], .inl ⟨nofun, ?_⟩, fun _ => nofun, fun h => absurd h hipfix⟩
  rw [List.length_nil]
  omega

end

/-- As long as its second field is larger than the buffer, nothing is taken from a packet of
any version. -/
theorem decode_waits (hlength : buf.length < lengthOf buf) :
    (codec.decode registry buf : _ × Octets × Decoded DateTime) = (codec, buf, .ok none) := by
  unfold FlowInfoCodec.decode
  rw [if_pos hlength, ite_self]

theorem consumes_datagram_iff (registry : Registry) (codec : FlowInfoCodec) (buf : Octets)
    (hfull : 16 ≤ buf.length) :
    ConsumesDatagram DateTime registry codec buf
        (codec.decode registry buf : _ × Octets × Decoded DateTime).2.1
        (codec.decode registry buf).2.2 ↔
      versionOf buf = ipfixVersion ∨ lengthOf buf ≤ buf.length := by
  by_cases hlength : lengthOf buf ≤ buf.length
  · refine ⟨fun _ => .inr hlength, fun _ => ?_⟩
    by_cases hipfix : versionOf buf = ipfixVersion
    · exact consumes_ipfix hfull hlength rfl hipfix
    · by_cases hnetflow : versionOf buf = netflowV9Version
      · exact consumes_netflow hfull hlength rfl hnetflow
      · exact consumes_unsupported hfull hlength rfl hipfix hnetflow
  · rw [decode_waits (by omega)]
    constructor
    · intro h
      obtain ⟨hnone, -⟩ | ⟨-, -, hversion, -⟩ := h.takes
      · exact absurd rfl hnone
      · exact .inl hversion
    · rintro (hversion | hle)
      · have hadvanced : codec.advanced DateTime registry buf = 0 := by
          rw [FlowInfoCodec.advanced, if_neg (by omega), if_pos (by omega)]
        refine ⟨loops_end, by rw [hadvanced]; rfl, .inr ⟨rfl, rfl, hversion, by omega⟩, ?_,
          fun _ _ h => absurd rfl h⟩
        rw [hversion]
        intro h
        exact absurd h (by decide)
      · exact absurd hle hlength

/-- The header of a NetFlow packet without sets that counts the given number of records. -/
def netflowHeader (count : BitVec 8) : Octets := [0, 9, 0, count] ++ List.replicate 16 0

theorem consumes_netflowHeader : 16 ≤ (netflowHeader 20).length ∧
    ConsumesDatagram UtcTime sampleRegistry ⟨TemplatesMap.empty, TemplatesMap.empty⟩
      (netflowHeader 20)
      ((FlowInfoCodec.mk TemplatesMap.empty TemplatesMap.empty).decode sampleRegistry
        (netflowHeader 20) : _ × Octets × Decoded UtcTime).2.1
      ((FlowInfoCodec.mk TemplatesMap.empty TemplatesMap.empty).decode sampleRegistry
        (netflowHeader 20)).2.2 :=
  ⟨by decide, (consumes_datagram_iff _ _ _ (by decide)).mpr (.inr (by decide))⟩

/-- With one record more than it has octets it is neither parsed nor refused. -/
theorem netflowHeader_waits :
    ¬ ConsumesDatagram UtcTime sampleRegistry ⟨TemplatesMap.empty, TemplatesMap.empty⟩
      (netflowHeader 21)
      ((FlowInfoCodec.mk TemplatesMap.empty TemplatesMap.empty).decode sampleRegistry
        (netflowHeader 21) : _ × Octets × Decoded UtcTime).2.1
      ((FlowInfoCodec.mk TemplatesMap.empty TemplatesMap.empty).decode sampleRegistry
        (netflowHeader 21)).2.2 := by
  intro h
  rw [decode_waits (by decide)] at h
  exact h.netflow (by decide) rfl

end Codec

end NetCalyx.Flow
