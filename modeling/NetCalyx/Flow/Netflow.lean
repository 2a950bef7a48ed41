import NetCalyx.Flow.Set

/-!
# NetFlow version 9 packets

The header counts the records of the packet, and the parser reads sets until it
has seen as many: it takes one off for each set of templates, and the number of
records for each data set. There are no variable lengths, and the scope of an
options template has elements of its own.

A set can be padded with zeros, so that the next one starts on a boundary of four
octets.
-/

namespace NetCalyx.Flow.Netflow
open Wire

/-! ## Scopes -/

inductive ScopeIE where
  | unknown (pen : BitVec 32) (id : BitVec 16)
  | system
  | interface
  | lineCard
  | cache
  | template

namespace ScopeIE

def fromPair (pen : BitVec 32) (id : BitVec 16) : ScopeIE :=
  if pen = 0 then
    if id = 1 then system
    else if id = 2 then interface
    else if id = 3 then lineCard
    else if id = 4 then cache
    else if id = 5 then template
    else unknown pen id
  else unknown pen id

def dataType : ScopeIE → InformationElementDataType
  | system => .octetArray
  | interface => .unsigned32
  | lineCard => .unsigned32
  | cache => .octetArray
  | template => .octetArray
  | unknown .. => .octetArray

def id : ScopeIE → BitVec 16
  | unknown _ id => id
  | system => 1
  | interface => 2
  | lineCard => 3
  | cache => 4
  | template => 5

def pen : ScopeIE → BitVec 32
  | unknown pen _ => pen
  | _ => 0

def lengthRange (ie : ScopeIE) : Option (Nat × Nat) := ie.dataType.lengthRange

end ScopeIE

inductive ScopeField where
  | unknown (pen : BitVec 32) (id : BitVec 16) (value : Octets)
  | system (value : BitVec 32)
  | interface (value : BitVec 32)
  | lineCard (value : BitVec 32)
  | cache (value : Octets)
  | template (value : Octets)

def ScopeField.ie : ScopeField → ScopeIE
  | unknown pen id _ => .unknown pen id
  | system _ => .system
  | interface _ => .interface
  | lineCard _ => .lineCard
  | cache _ => .cache
  | template _ => .template

structure ScopeFieldSpecifier where
  elementId : ScopeIE
  length : BitVec 16

/-! ## Packets -/

abbrev DecodingTemplate := Flow.DecodingTemplate ScopeFieldSpecifier
abbrev TemplatesMap := Flow.TemplatesMap ScopeFieldSpecifier

structure OptionsTemplateRecord where
  id : BitVec 16
  scopeFieldSpecifiers : List ScopeFieldSpecifier
  fieldSpecifiers : List FieldSpecifier

structure DataRecord (DateTime : Type) where
  scopeFields : List ScopeField
  fields : List (Field DateTime)

abbrev Set (DateTime : Type) := Flow.Set OptionsTemplateRecord (DataRecord DateTime)

structure NetFlowV9Packet (DateTime : Type) where
  sysUpTime : BitVec 32
  unixTime : DateTime
  sequenceNumber : BitVec 32
  sourceId : BitVec 32
  sets : List (Set DateTime)

def netflowV9Version : BitVec 16 := 9
def netflowSetIds : SetIds := ⟨0, 1⟩

variable {DateTime : Type} [Chrono DateTime]

def Set.id (set : Set DateTime) : BitVec 16 := set.kind.code netflowSetIds

/-! ## Writers -/

inductive ScopeFieldWritingError where
  | invalidLength (length : BitVec 16)

inductive DataRecordWritingError where
  | scopeFieldError (e : ScopeFieldWritingError)
  | fieldError (e : FieldWritingError)

inductive SetWritingError where
  | dataRecordError (e : DataRecordWritingError)

inductive NetFlowV9WritingError where
  | setError (e : SetWritingError)

namespace ScopeFieldSpecifier

def len (spec : ScopeFieldSpecifier) : Nat := 4 + if spec.elementId.pen = 0 then 0 else 4

/-- The id is written as it is, without an enterprise bit. -/
def write (spec : ScopeFieldSpecifier) : Octets :=
  octets spec.elementId.id ++ octets spec.length
    ++ if spec.elementId.pen ≠ 0 then octets spec.elementId.pen else []

end ScopeFieldSpecifier

/-- The low octets of a number. -/
def writeScopeNumber (value : BitVec 32) :
    Option (BitVec 16) → Except (Stop ScopeFieldWritingError) Octets
  | none => .ok (octets value)
  | some len =>
    if (octets value).length < len.toNat then .error (.error (.invalidLength len))
    else .ok ((octets value).drop ((octets value).length - len.toNat))

namespace ScopeField

def len : ScopeField → Option (BitVec 16) → Nat
  | unknown _ _ value, _ => value.length
  | system _, length => length.elim 4 BitVec.toNat
  | interface _, length => length.elim 4 BitVec.toNat
  | lineCard _, length => length.elim 4 BitVec.toNat
  | cache value, _ => value.length
  | template value, _ => value.length

def write : ScopeField → Option (BitVec 16) → Except (Stop ScopeFieldWritingError) Octets
  | unknown _ _ value, _ => .ok value
  | system value, length => writeScopeNumber value length
  | interface value, length => writeScopeNumber value length
  | lineCard value, length => writeScopeNumber value length
  | cache value, _ => .ok value
  | template value, _ => .ok value

end ScopeField

namespace OptionsTemplateRecord

variable (record : OptionsTemplateRecord)

def scopeLength : Nat :=
  (record.scopeFieldSpecifiers.map ScopeFieldSpecifier.len).sum

def optionsLength : Nat :=
  (record.fieldSpecifiers.map FieldSpecifier.len).sum

def len : Nat := 6 + record.scopeLength + record.optionsLength

def write (record : OptionsTemplateRecord) : Octets :=
  octets record.id ++ octets (BitVec.ofNat 16 record.scopeLength)
    ++ octets (BitVec.ofNat 16 record.optionsLength)
    ++ record.scopeFieldSpecifiers.flatMap ScopeFieldSpecifier.write
    ++ record.fieldSpecifiers.flatMap FieldSpecifier.write

end OptionsTemplateRecord

def scopeLengths (template : Option DecodingTemplate) : List (BitVec 16) :=
  template.elim [] fun template => template.scopeFieldsSpecs.map (·.length)

def fieldLengths (template : Option DecodingTemplate) : List (BitVec 16) :=
  template.elim [] fun template => template.fieldsSpecs.map (·.length)

/-- The octets that a template takes for a record. -/
def recordLength (template : DecodingTemplate) : Nat :=
  (template.scopeFieldsSpecs.map (·.length.toNat)).sum
    + (template.fieldsSpecs.map (·.length.toNat)).sum

namespace DataRecord

/-- With a template, its length, whatever the record is. -/
def len (template : Option DecodingTemplate) (record : DataRecord DateTime) : Nat :=
  match template with
  | some template => recordLength template
  | none => (record.scopeFields.map (·.len none)).sum + (record.fields.map (·.len none)).sum

def write (template : Option DecodingTemplate) (record : DataRecord DateTime) :
    Except (Stop DataRecordWritingError) Octets :=
  writeBoth
    ((writeEach ScopeField.write record.scopeFields (scopeLengths template)).mapError
      (Stop.map .scopeFieldError))
    ((writeFields record.fields (fieldLengths template)).mapError (Stop.map .fieldError))

end DataRecord

namespace Set

variable (templatesMap : Option TemplatesMap)

def decodingTemplate (id : DataSetId) : Option DecodingTemplate :=
  templatesMap.bind (· id.val)

variable (alignTo4Bytes : Bool)
variable (set : Set DateTime)

/-- The size of a set, and the padding behind it. -/
def calculateSetSizeWithPadding : Nat × Nat :=
  let length := 4 + match set with
    | .template records => (records.map TemplateRecord.len).sum
    | .optionsTemplate records => (records.map OptionsTemplateRecord.len).sum
    | .data id records => (records.map (DataRecord.len (decodingTemplate templatesMap id))).sum
  if alignTo4Bytes then (length, length % 4) else (length, 0)

def len : Nat :=
  let (length, padding) := calculateSetSizeWithPadding templatesMap alignTo4Bytes set
  length + padding

def writeRecords :
    Set DateTime → Except (Stop SetWritingError) Octets
  | .template records => .ok (records.flatMap TemplateRecord.write)
  | .optionsTemplate records => .ok (records.flatMap OptionsTemplateRecord.write)
  | .data id records =>
    (writeAll (DataRecord.write (decodingTemplate templatesMap id)) records).mapError
      (Stop.map .dataRecordError)

def write : Except (Stop SetWritingError) Octets :=
  let (length, padding) := calculateSetSizeWithPadding templatesMap alignTo4Bytes set
  writeBoth (.ok (octets (Set.id set) ++ octets (BitVec.ofNat 16 (length + padding))))
    (writeBoth (writeRecords templatesMap set) (.ok (List.replicate padding 0)))

/-- What the writer counts for a set. -/
def recordCount : Set DateTime → Nat
  | .template records => records.length
  | .optionsTemplate records => records.length
  | .data _ records => records.length

end Set

namespace NetFlowV9Packet

def count (packet : NetFlowV9Packet DateTime) : BitVec 16 :=
  BitVec.ofNat 16 (packet.sets.map Set.recordCount).sum

def write (templatesMap : Option TemplatesMap) (alignTo4Bytes : Bool)
    (packet : NetFlowV9Packet DateTime) : Except (Stop NetFlowV9WritingError) Octets :=
  writeBoth
    (.ok (octets netflowV9Version ++ octets packet.count ++ octets packet.sysUpTime
      ++ octets (BitVec.ofInt 32 (timestamp packet.unixTime)) ++ octets packet.sequenceNumber
      ++ octets packet.sourceId))
    ((writeAll (Set.write templatesMap alignTo4Bytes) packet.sets).mapError (Stop.map .setError))

end NetFlowV9Packet

/-! ## Parsers -/

inductive ScopeFieldSpecifierParsingError where
  | nomError (kind : ErrorKind)
  | invalidLength (ie : ScopeIE) (length : BitVec 16)

instance : NomError ScopeFieldSpecifierParsingError := ⟨.nomError⟩

inductive OptionsTemplateRecordParsingError where
  | nomError (kind : ErrorKind)
  | invalidTemplateId (id : BitVec 16)
  | fieldSpecifierError (e : FieldSpecifierParsingError)
  | scopeFieldSpecifierError (e : ScopeFieldSpecifierParsingError)

instance : NomError OptionsTemplateRecordParsingError := ⟨.nomError⟩

inductive ScopeFieldParsingError where
  | nomError (kind : ErrorKind)
  | invalidLength (length : BitVec 16)

instance : NomError ScopeFieldParsingError := ⟨.nomError⟩

inductive DataRecordParsingError where
  | fieldError (e : FieldParsingError)
  | scopeFieldError (e : ScopeFieldParsingError)

abbrev SetParsingError := Flow.SetParsingError OptionsTemplateRecordParsingError DataRecordParsingError

inductive NetFlowV9PacketParsingError where
  | nomError (kind : ErrorKind)
  | unsupportedVersion (version : BitVec 16)
  | invalidCount (count : BitVec 16)
  | invalidUnixTime (time : BitVec 32)
  | setError (e : SetParsingError)

instance : NomError NetFlowV9PacketParsingError := ⟨.nomError⟩

/-- The enterprise number of a scope, behind its length. -/
def scopeEnterpriseNumber (code : BitVec 16) :
    Parser ScopeFieldSpecifierParsingError (BitVec 32) :=
  if code &&& 0x8000 ≠ 0 then beU32 else return 0

/-- The enterprise bit stays in the id. -/
def ScopeFieldSpecifier.fromWire : Parser ScopeFieldSpecifierParsingError ScopeFieldSpecifier := do
  let code ← beU16
  let length ← beU16
  let pen ← scopeEnterpriseNumber code
  let ie := ScopeIE.fromPair pen code
  if inRange ie.lengthRange length = true then return ⟨ie, length⟩
  else .fail (.invalidLength ie length)

def scopeNumber (length : BitVec 16) : Parser ScopeFieldParsingError (BitVec 32) := fun buf =>
  if length.toNat > 4 || buf.length < length.toNat then .error (.error (.invalidLength length))
  else .ok (buf.drop length.toNat, (buf.take length.toNat).foldl shiftIn 0)

def ScopeField.fromWire (ie : ScopeIE) (length : BitVec 16) :
    Parser ScopeFieldParsingError ScopeField :=
  match ie with
  | .unknown pen id => do
    let value ← Wire.count beU8 length.toNat
    return .unknown pen id value
  | .system => do
    let value ← scopeNumber length
    return .system value
  | .interface => do
    let value ← scopeNumber length
    return .interface value
  | .lineCard => do
    let value ← scopeNumber length
    return .lineCard value
  | .cache => do
    let value ← Wire.count beU8 length.toNat
    return .cache value
  | .template => do
    let value ← Wire.count beU8 length.toNat
    return .template value

namespace OptionsTemplateRecord

/-- Both lists of specifiers have their length in octets. -/
def parse (registry : Registry) :
    Parser OptionsTemplateRecordParsingError OptionsTemplateRecord := do
  let templateId ← beU16
  if templateId.toNat < 256 then .fail (.invalidTemplateId templateId) else do
  let optionsScopeLength ← beU16
  let optionsLength ← beU16
  let optionsScopeBuf ← take optionsScopeLength.toNat
  let optionsBuf ← take optionsLength.toNat
  let scopeFields ← .within optionsScopeBuf
    (parseTillEmpty (.mapErr .scopeFieldSpecifierError ScopeFieldSpecifier.fromWire))
  let fields ← .within optionsBuf
    (parseTillEmpty (.mapErr .fieldSpecifierError (FieldSpecifier.fromWire registry)))
  return ⟨templateId, scopeFields, fields⟩

def announce (map : TemplatesMap) (record : OptionsTemplateRecord) : TemplatesMap :=
  map.insert record.id (.new record.scopeFieldSpecifiers record.fieldSpecifiers)

def fromWire (registry : Registry) :
    StateParser TemplatesMap OptionsTemplateRecordParsingError OptionsTemplateRecord := do
  let record ← .liftP (parse registry)
  StateParser.modify (announce · record)
  return record

end OptionsTemplateRecord

def DataRecord.fromWire (template : DecodingTemplate) :
    Parser DataRecordParsingError (DataRecord DateTime) := do
  let scopeFields ← .mapErr .scopeFieldError
    (readEach (fun spec => ScopeField.fromWire spec.elementId spec.length)
      template.scopeFieldsSpecs)
  let fields ← .mapErr .fieldError (readFields template.fieldsSpecs)
  return ⟨scopeFields, fields⟩

/-- One record of a data set, which is counted at once. -/
def Set.dataRecord (id : DataSetId) (inForce : DecodingTemplate) :
    StateParser TemplatesMap SetParsingError (DataRecord DateTime) := do
  let record ← .liftP (.mapErr .dataRecordError (DataRecord.fromWire inForce))
  StateParser.modify (·.increment id.val)
  return record

/-- Records as long as there are enough octets, none for a template of no octets. -/
def Set.readRecords (id : DataSetId) (inForce : DecodingTemplate) :
    StateParser TemplatesMap SetParsingError (List (DataRecord DateTime)) :=
  if recordLength inForce = 0 then pure []
  else StateParser.repeatWhile (fun buf => recordLength inForce ≤ buf.length)
    (dataRecord id inForce)

/-- What the records of a set leave has to be zero. -/
def Set.dataRecords (id : DataSetId) : StateParser TemplatesMap SetParsingError (Set DateTime) := do
  match (← StateParser.state) id.val with
  | none => .liftP (.fail (.noTemplateDefinedFor id.val))
  | some inForce =>
    let records ← readRecords id inForce
    checkPadding
    return .data id records

def Set.fromWire (registry : Registry) :
    StateParser TemplatesMap SetParsingError (Set DateTime) :=
  Flow.Set.fromWireWith netflowSetIds registry (OptionsTemplateRecord.fromWire registry) dataRecords

/-- What the reader takes off its count for a set. -/
def Set.subtracted : Set DateTime → Nat
  | .template _ => 1
  | .optionsTemplate _ => 1
  | .data _ records => records.length

/-- The count behind a set. The reader only gets here with a positive count, so
that just the records of a data set can be too many. -/
def Set.subtract (i : Nat) (set : Set DateTime) : Option Nat :=
  if Set.subtracted set > i then none else some (i - Set.subtracted set)

namespace NetFlowV9Packet

/-- The sets, as long as `i` records are expected and octets are left. Each round
reads the four octets of a header, so that there are not more rounds than octets. -/
def readSets (registry : Registry) (count : BitVec 16) : Nat → Nat →
    StateParser TemplatesMap NetFlowV9PacketParsingError (List (Set DateTime))
  | 0, i => fun map buf =>
    if 0 < i ∧ 3 < buf.length then (map, .error (.error (.nomError .many0)))
    else (map, .ok (buf, []))
  | fuel + 1, i => fun map buf =>
    if 0 < i ∧ 3 < buf.length then
      match Set.fromWire registry map buf with
      | (map', .error e) => (map', .error (e.map .setError))
      | (map', .ok (rest, set)) =>
        match Set.subtract i set with
        | none => (map', .error (.error (.invalidCount count)))
        | some i' =>
          match readSets registry count fuel i' map' rest with
          | (map'', .error e) => (map'', .error e)
          | (map'', .ok (rest', sets)) => (map'', .ok (rest', set :: sets))
    else (map, .ok (buf, []))

def fromWire (registry : Registry) :
    StateParser TemplatesMap NetFlowV9PacketParsingError (NetFlowV9Packet DateTime) := do
  let version ← .liftP beU16
  if version ≠ netflowV9Version then .liftP (.fail (.unsupportedVersion version)) else do
  let count ← .liftP beU16
  let sysUpTime ← .liftP beU32
  let unixTime ← .liftP (mapRes beU32 fun time =>
    (timestampOpt time.toNat 0).elim (.error (.invalidUnixTime time)) .ok)
  let sequenceNumber ← .liftP beU32
  let sourceId ← .liftP beU32
  let buf ← .liftP .input
  let sets ← readSets registry count buf.length count.toNat
  return ⟨sysUpTime, unixTime, sequenceNumber, sourceId, sets⟩

end NetFlowV9Packet

end NetCalyx.Flow.Netflow
