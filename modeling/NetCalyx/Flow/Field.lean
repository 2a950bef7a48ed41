import NetCalyx.Flow.Value

/-!
# The generated field codec

For every information element the code generator emits three pieces of code:
the length of a field, its writer and its parser, all three given the length
that a template announces. A length of 65535 announces a variable length, which
the value itself carries.

`variable_length_field_iff` says which of the two standard forms of a variable
length the parser understands, `field_codec_exact` for which values and lengths
writer, length and parser agree.
-/

namespace NetCalyx.Flow
open Wire

variable {DateTime : Type}

/-- The type of the values of a field. Signed numbers are in two's complement,
floating point numbers are their bits. -/
abbrev FieldType.Value (DateTime : Type) : FieldType → Type
  | octetArray => Octets
  | mplsLabelStackSection => OctetArray 3
  | unsigned8 registry => UintValue 8 registry
  | unsigned16 registry => UintValue 16 registry
  | tcpControlBits => TcpHeaderFlags
  | unsigned32 registry => UintValue 32 registry
  | unsigned64 registry => UintValue 64 registry
  | signed8 => BitVec 8
  | signed16 => BitVec 16
  | signed32 => BitVec 32
  | signed64 => BitVec 64
  | float32 => BitVec 32
  | float64 => BitVec 64
  | boolean => Bool
  | macAddress => OctetArray 6
  | string => String
  | dateTimeSeconds => DateTime
  | dateTimeMilliseconds => DateTime
  | dateTimeMicroseconds => DateTime
  | dateTimeNanoseconds => DateTime
  | ipv4Address => BitVec 32
  | ipv6Address => BitVec 128
  | basicList => Octets
  | subTemplateList => Octets
  | subTemplateMultiList => Octets
  | unsigned256 => OctetArray 32
  | unknown => Octets
  | vendorUnknown => Octets

/-- A field: an element and a value of its type. -/
structure Field (DateTime : Type) where
  ie : IE
  value : ie.fieldType.Value DateTime

/-- The length that announces a value of variable length. -/
def variableLength : BitVec 16 := 65535

/-! ## Length and writer -/

/-- A writer refuses a length. -/
structure InvalidLength where
  ieName : String
  length : BitVec 16

inductive FieldWritingError where
  | vendorError (vendor : String) (e : InvalidLength)
  | invalidLength (e : InvalidLength)

/-- The size of a value behind its own length. -/
def lenWithHeader (n : Nat) : Nat := if n < 255 then n + 1 else n + 4

/-- One octet of length, or 255 and three octets. -/
def lengthHeader (n : Nat) : Octets :=
  if n < 255 then [BitVec.ofNat 8 n] else 255 :: (octets (BitVec.ofNat 32 n)).drop 1

/-- The value, then zeros up to the length. -/
def zeroFilled (value : Octets) (length : Nat) : Octets :=
  value ++ List.replicate (length - value.length) 0

/-- Octets, without a template as they are. -/
def writeOctetArray (value : Octets) : Option (BitVec 16) → Octets
  | none => value
  | some length =>
    if length = variableLength then lengthHeader value.length ++ value
    else zeroFilled value length.toNat

/-- Octets, without a template behind their length. -/
def writeString (value : Octets) : Option (BitVec 16) → Octets
  | none => lengthHeader value.length ++ value
  | some length => writeOctetArray value (some length)

/-- The low octets of a number. -/
def writeBeBytes (name : String) (bytes : Octets) :
    Option (BitVec 16) → Except (Stop InvalidLength) Octets
  | none => .ok bytes
  | some length =>
    if length.toNat > bytes.length then .error (.error ⟨name, length⟩)
    else .ok (bytes.drop (bytes.length - length.toNat))

namespace FieldType

def len [Chrono DateTime] :
    (t : FieldType) → t.Value DateTime → Option (BitVec 16) → Nat
  | octetArray, value, none => value.length
  | octetArray, value, some length =>
    if length = variableLength then lenWithHeader value.length else length.toNat
  | mplsLabelStackSection, value, none => value.val.length
  | mplsLabelStackSection, value, some length =>
    if length = variableLength then lenWithHeader value.val.length else length.toNat
  | macAddress, value, _ => value.val.length
  | basicList, value, _ => value.length
  | subTemplateList, value, _ => value.length
  | subTemplateMultiList, value, _ => value.length
  | unsigned8 _, _, _ => 1
  | signed8, _, _ => 1
  | boolean, _, _ => 1
  | unsigned16 _, _, length => length.elim 2 BitVec.toNat
  | tcpControlBits, _, length => length.elim 2 BitVec.toNat
  | signed16, _, length => length.elim 2 BitVec.toNat
  | unsigned32 _, _, length => length.elim 4 BitVec.toNat
  | signed32, _, length => length.elim 4 BitVec.toNat
  | float32, _, length => length.elim 4 BitVec.toNat
  | unsigned64 _, _, length => length.elim 8 BitVec.toNat
  | signed64, _, length => length.elim 8 BitVec.toNat
  | float64, _, length => length.elim 8 BitVec.toNat
  | string, value, none => lenWithHeader (stringOctets value).length
  | string, value, some length =>
    if length = variableLength then lenWithHeader (stringOctets value).length else length.toNat
  | dateTimeSeconds, _, _ => 4
  | ipv4Address, _, _ => 4
  | dateTimeMilliseconds, _, _ => 8
  | dateTimeMicroseconds, _, _ => 8
  | dateTimeNanoseconds, _, _ => 8
  | ipv6Address, _, _ => 16
  | unsigned256, value, length => length.elim value.val.length BitVec.toNat
  | unknown, value, none => value.length
  | unknown, value, some length =>
    if length = variableLength then lenWithHeader value.length else length.toNat
  | vendorUnknown, value, none => value.length
  | vendorUnknown, value, some length =>
    if length = variableLength then lenWithHeader value.length else length.toNat

/-- Seconds, then the fraction of a second. -/
def writeFraction [Chrono DateTime] (t : DateTime) : Octets :=
  octets (BitVec.ofInt 32 (timestamp t)) ++ octets (fractionOfNanos (timestampSubsecNanos t))

/-- Types of one size do not look at the length. -/
def write [Chrono DateTime] (name : String) :
    (t : FieldType) → t.Value DateTime → Option (BitVec 16) →
      Except (Stop InvalidLength) Octets
  | octetArray, value, length => .ok (writeOctetArray value length)
  | mplsLabelStackSection, value, length => .ok (writeOctetArray value.val length)
  | unsigned8 _, value, _ => .ok [value.toNum]
  | unsigned16 _, value, length => writeBeBytes name (octets value.toNum) length
  | tcpControlBits, value, length => writeBeBytes name (octets value.toU16) length
  | unsigned32 _, value, length => writeBeBytes name (octets value.toNum) length
  | unsigned64 _, value, length => writeBeBytes name (octets value.toNum) length
  | signed8, value, _ => .ok [value]
  | signed16, value, length => writeBeBytes name (octets value) length
  | signed32, value, length => writeBeBytes name (octets value) length
  -- the branch without a template hands an `i64` to `write_i32`: there is no such code
  | signed64, _, none => .error .panic
  | signed64, value, some length => writeBeBytes name (octets value) (some length)
  | float32, value, length => writeBeBytes name (octets value) length
  | float64, value, length => writeBeBytes name (octets value) length
  | boolean, value, _ => .ok [if value then 1 else 0]
  | macAddress, value, _ => .ok value.val
  | string, value, length => .ok (writeString (stringOctets value) length)
  | dateTimeSeconds, value, _ => .ok (octets (BitVec.ofInt 32 (timestamp value)))
  | dateTimeMilliseconds, value, _ => .ok (octets (BitVec.ofInt 64 (timestampMillis value)))
  | dateTimeMicroseconds, value, _ => .ok (writeFraction value)
  | dateTimeNanoseconds, value, _ => .ok (writeFraction value)
  | ipv4Address, value, _ => .ok (octets value)
  | ipv6Address, value, _ => .ok (octets value)
  | basicList, value, _ => .ok value
  | subTemplateList, value, _ => .ok value
  | subTemplateMultiList, value, _ => .ok value
  | unsigned256, value, length =>
    let len := length.elim value.val.length BitVec.toNat
    -- a slice past the end of the array
    if value.val.length < len then .error .panic else .ok (value.val.take len)
  | unknown, value, length => .ok (writeString value length)
  | vendorUnknown, value, length => .ok (writeString value length)

end FieldType

namespace Field

variable [Chrono DateTime]

def len (field : Field DateTime) (length : Option (BitVec 16)) : Nat :=
  field.ie.fieldType.len field.value length

/-- The errors of a vendor's fields are those of the vendor's module. -/
def writingError : IE → InvalidLength → FieldWritingError
  | .vendorUnknown v _, e => .vendorError v.name e
  | .vendor v _, e => .vendorError v.name e
  | .unknown .., e => .invalidLength e
  | .iana _, e => .invalidLength e

def write (field : Field DateTime) (length : Option (BitVec 16)) :
    Except (Stop FieldWritingError) Octets :=
  (field.ie.fieldType.write field.ie.name field.value length).mapError
    (Stop.map (writingError field.ie))

end Field

/-! ## Parser -/

/-- The errors of the code for one element. -/
inductive ElementParsingError where
  | nomError (kind : ErrorKind)
  | invalidLength (ieName : String) (length : BitVec 16)
  | invalidTimestamp (ieName : String) (seconds : BitVec 32)
  | invalidTimestampMillis (ieName : String) (millis : BitVec 64)
  | invalidTimestampFraction (ieName : String) (seconds fraction : BitVec 32)
  | utf8Error

instance : NomError ElementParsingError := ⟨.nomError⟩

inductive FieldParsingError where
  | vendorError (vendor : String) (e : ElementParsingError)
  | element (e : ElementParsingError)

/-- A parser for values of one length only. -/
def exactly {α : Type} (n : BitVec 16) (p : Parser ElementParsingError α) (name : String)
    (length : BitVec 16) : Parser ElementParsingError α :=
  if length = n then p else .fail (.invalidLength name length)

def u8Deserializer : String → BitVec 16 → Parser ElementParsingError (BitVec 8) :=
  exactly 1 beU8

def u16Deserializer (name : String) (length : BitVec 16) :
    Parser ElementParsingError (BitVec 16) :=
  if length = 1 then do
    let value ← beU8
    return value.setWidth 16
  else if length = 2 then beU16
  else .fail (.invalidLength name length)

/-- Shift in one octet after the other. -/
def shiftIn {w : Nat} (res : BitVec w) (byte : Octet) : BitVec w :=
  (res <<< 8) + byte.setWidth w

/-- A number of at most `w` bits, taken from as many octets as announced. -/
def uintDeserializer (w : Nat) (name : String) (length : BitVec 16) :
    Parser ElementParsingError (BitVec w) := fun buf =>
  if length.toNat > w / 8 || buf.length < length.toNat then
    .error (.error (.invalidLength name length))
  else .ok (buf.drop length.toNat, (buf.take length.toNat).foldl shiftIn 0)

def u32Deserializer := uintDeserializer 32
def u64Deserializer := uintDeserializer 64

/-- The first octet decides about the sign. -/
def shiftInSigned {w : Nat} : BitVec w × Bool → Octet → BitVec w × Bool
  | (res, first), byte =>
    let res := if first && byte &&& 0x80 != 0 then BitVec.allOnes w else res
    (shiftIn res byte, false)

def intDeserializer (w : Nat) (name : String) (length : BitVec 16) :
    Parser ElementParsingError (BitVec w) := fun buf =>
  if length.toNat > w / 8 || buf.length < length.toNat then
    .error (.error (.invalidLength name length))
  else .ok (buf.drop length.toNat, ((buf.take length.toNat).foldl shiftInSigned (0, true)).1)

def i8Deserializer : String → BitVec 16 → Parser ElementParsingError (BitVec 8) :=
  exactly 1 beU8

def i16Deserializer := intDeserializer 16
def i32Deserializer := intDeserializer 32
def i64Deserializer := intDeserializer 64

/-- The octets fill the array from the front. -/
def u256Deserializer (name : String) (length : BitVec 16) :
    Parser ElementParsingError (OctetArray 32) := fun buf =>
  if h : length.toNat > 32 ∨ buf.length < length.toNat then
    .error (.error (.invalidLength name length))
  else .ok (buf.drop length.toNat,
    ⟨zeroFilled (buf.take length.toNat) 32, by simp only [zeroFilled, List.length_append,
      List.length_take, List.length_replicate]; omega⟩)

def f32Deserializer : String → BitVec 16 → Parser ElementParsingError (BitVec 32) :=
  exactly 4 beU32

def f64Deserializer : String → BitVec 16 → Parser ElementParsingError (BitVec 64) :=
  exactly 8 beU64

def boolDeserializer : String → BitVec 16 → Parser ElementParsingError Bool :=
  exactly 1 do
    let value ← beU8
    return value != 0

def macAddressDeserializer : String → BitVec 16 → Parser ElementParsingError (OctetArray 6) :=
  exactly 6 (takeArray 6)

/-- A length in front of the value: one octet, or three behind 255. -/
def variableLengthHeader : Parser ElementParsingError Nat := do
  let shortLength ← beU8
  if shortLength = 255 then do
    let part1 ← beU8
    let part2 ← beU8
    let part3 ← beU8
    return ([part1, part2, part3].foldl shiftIn (0 : BitVec 32)).toNat
  else return shortLength.toNat

def utf8 (bytes : Octets) : Except ElementParsingError String :=
  (stringFromOctets bytes).elim (.error .utf8Error) .ok

/-- A string of fixed length ends at its first zero octet. -/
def stringDeserializer (length : BitVec 16) : Parser ElementParsingError String :=
  if length = variableLength then do
    let n ← variableLengthHeader
    mapRes (take n) utf8
  else mapRes (take length.toNat) fun bytes => utf8 (bytes.takeWhile (· != 0))

def ipv4Deserializer : String → BitVec 16 → Parser ElementParsingError (BitVec 32) :=
  exactly 4 beU32

def ipv6Deserializer : String → BitVec 16 → Parser ElementParsingError (BitVec 128) :=
  exactly 16 beU128

def vecU8Deserializer (length : BitVec 16) : Parser ElementParsingError Octets :=
  if length = variableLength then do
    let n ← variableLengthHeader
    take n
  else take length.toNat

def mplsDeserializer : String → BitVec 16 → Parser ElementParsingError (OctetArray 3) :=
  exactly 3 (takeArray 3)

section Time

variable [Chrono DateTime]

def dateTimeSeconds (name : String) : BitVec 16 → Parser ElementParsingError DateTime :=
  exactly 4 (mapRes beU32 fun secs =>
    (timestampOpt secs.toNat 0).elim (.error (.invalidTimestamp name secs)) .ok) name

def dateTimeMilli (name : String) : BitVec 16 → Parser ElementParsingError DateTime :=
  exactly 8 (mapRes beU64 fun millis =>
    (timestampMillisOpt millis.toInt).elim (.error (.invalidTimestampMillis name millis)) .ok) name

def dateTimeMicro (name : String) : BitVec 16 → Parser ElementParsingError DateTime :=
  exactly 8 (do
    let seconds ← beU32
    mapRes beU32 fun fraction =>
      (timestampOpt seconds.toNat (nanosOfFraction fraction)).elim
        (.error (.invalidTimestampFraction name seconds fraction)) .ok) name

end Time

/-- The parser for a type. -/
def FieldType.fromWire [Chrono DateTime] (name : String) (length : BitVec 16) :
    (t : FieldType) → Parser ElementParsingError (t.Value DateTime)
  | octetArray => vecU8Deserializer length
  | mplsLabelStackSection => mplsDeserializer name length
  | unsigned8 registry => do
    let value ← u8Deserializer name length
    return UintValue.ofNum registry value
  | unsigned16 registry => do
    let value ← u16Deserializer name length
    return UintValue.ofNum registry value
  | tcpControlBits => do
    let value ← u16Deserializer name length
    return TcpHeaderFlags.ofU16 value
  | unsigned32 registry => do
    let value ← u32Deserializer name length
    return UintValue.ofNum registry value
  | unsigned64 registry => do
    let value ← u64Deserializer name length
    return UintValue.ofNum registry value
  | signed8 => i8Deserializer name length
  | signed16 => i16Deserializer name length
  | signed32 => i32Deserializer name length
  | signed64 => i64Deserializer name length
  | float32 => f32Deserializer name length
  | float64 => f64Deserializer name length
  | boolean => boolDeserializer name length
  | macAddress => macAddressDeserializer name length
  | string => stringDeserializer length
  | dateTimeSeconds => Flow.dateTimeSeconds name length
  | dateTimeMilliseconds => dateTimeMilli name length
  | dateTimeMicroseconds => dateTimeMicro name length
  | dateTimeNanoseconds => dateTimeMicro name length
  | ipv4Address => ipv4Deserializer name length
  | ipv6Address => ipv6Deserializer name length
  | basicList => vecU8Deserializer length
  | subTemplateList => vecU8Deserializer length
  | subTemplateMultiList => vecU8Deserializer length
  | unsigned256 => u256Deserializer name length
  -- a variable length is not looked for here
  | unknown => take length.toNat
  | vendorUnknown => vecU8Deserializer length

def Field.parsingError : IE → ElementParsingError → FieldParsingError
  | .vendorUnknown v _, e => .vendorError v.name e
  | .vendor v _, e => .vendorError v.name e
  | .unknown .., e => .element e
  | .iana _, e => .element e

def Field.fromWire [Chrono DateTime] (ie : IE) (length : BitVec 16) :
    Parser FieldParsingError (Field DateTime) :=
  .mapErr (parsingError ie) do
    let value ← ie.fieldType.fromWire ie.name length
    return ⟨ie, value⟩

end NetCalyx.Flow
