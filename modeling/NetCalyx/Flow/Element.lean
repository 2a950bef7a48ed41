import NetCalyx.Wire.Parser

/-!
# Information elements

The element types and the field codec are generated from registries: the IANA
registry and one for each vendor. The model takes the registries as they are
read, so everything below holds for any of them.

An element is looked up by enterprise number and code (`IE.tryFrom`). Its data
type says which lengths a template may give it (`lengthRange`), and together
with its name and its sub-registry which of the generated codecs it gets
(`IE.fieldType`).
-/

namespace NetCalyx.Flow
open Wire

inductive InformationElementDataType where
  | octetArray
  | unsigned8
  | unsigned16
  | unsigned32
  | unsigned64
  | signed8
  | signed16
  | signed32
  | signed64
  | float32
  | float64
  | boolean
  | macAddress
  | string
  | dateTimeSeconds
  | dateTimeMilliseconds
  | dateTimeMicroseconds
  | dateTimeNanoseconds
  | ipv4Address
  | ipv6Address
  | basicList
  | subTemplateList
  | subTemplateMultiList
  | unsigned256

/-- The lengths `start ≤ length < stop` a template may give an element of this
type; no bound for the types of variable size. -/
def InformationElementDataType.lengthRange : InformationElementDataType → Option (Nat × Nat)
  | octetArray => none
  | unsigned8 => some (1, 2)
  | unsigned16 => some (1, 3)
  | unsigned32 => some (1, 5)
  | unsigned64 => some (1, 9)
  | signed8 => some (1, 2)
  | signed16 => some (1, 3)
  | signed32 => some (1, 5)
  | signed64 => some (1, 9)
  | float32 => some (4, 5)
  | float64 => some (8, 9)
  | boolean => some (1, 2)
  | macAddress => some (6, 7)
  | string => none
  | dateTimeSeconds => some (4, 5)
  | dateTimeMilliseconds => some (8, 9)
  | dateTimeMicroseconds => some (8, 9)
  | dateTimeNanoseconds => some (8, 9)
  | ipv4Address => some (4, 5)
  | ipv6Address => some (16, 17)
  | basicList => none
  | subTemplateList => none
  | subTemplateMultiList => none
  | unsigned256 => some (1, 33)

/-- A range of lengths, or none, contains a length. -/
def inRange (range : Option (Nat × Nat)) (length : BitVec 16) : Bool :=
  range.all fun r => r.1 ≤ length.toNat && length.toNat < r.2

/-! ## Registries -/

/-- The numbers with a name. In a nested registry each member has its own
reasons, and covers 64 numbers. -/
inductive SubRegistry where
  | valueNameDesc (values : List (BitVec 8))
  | reasonCodeNested (reasons : List (List (BitVec 8)))

/-- What the registry says of an element. -/
structure InformationElement where
  name : String
  elementId : BitVec 16
  dataType : InformationElementDataType
  subregistry : Option SubRegistry

structure Vendor where
  name : String
  pen : BitVec 32
  elements : List InformationElement

structure Registry where
  iana : List InformationElement
  vendors : List Vendor

def isMplsType (name : String) : Bool :=
  name == "mplsTopLabelStackSection" || "mplsLabelStackSection".toList.isPrefixOf name.toList

/-! ## Elements -/

/-- An element: of an enterprise without a registry, of a vendor that does not
list it, of a vendor, or of IANA. -/
inductive IE where
  | unknown (pen : BitVec 32) (id : BitVec 16)
  | vendorUnknown (vendor : Vendor) (id : BitVec 16)
  | vendor (vendor : Vendor) (element : InformationElement)
  | iana (element : InformationElement)

inductive IEError where
  | undefinedIanaIe (code : BitVec 16)

namespace IE

def pen : IE → BitVec 32
  | unknown pen _ => pen
  | vendorUnknown v _ => v.pen
  | vendor v _ => v.pen
  | iana _ => 0

def id : IE → BitVec 16
  | unknown _ id => id
  | vendorUnknown _ id => id
  | vendor _ e => e.elementId
  | iana e => e.elementId

def dataType : IE → InformationElementDataType
  | unknown .. => .octetArray
  | vendorUnknown .. => .octetArray
  | vendor _ e => e.dataType
  | iana e => e.dataType

def lengthRange (ie : IE) : Option (Nat × Nat) := ie.dataType.lengthRange

/-- The enterprise bit is removed again from the code of a vendor's element. -/
def vendorTryFrom (v : Vendor) (code : BitVec 16) : IE :=
  let value := code &&& 0x7fff
  match v.elements.find? fun e => e.elementId == value with
  | some e => .vendor v e
  | none => .vendorUnknown v value

def tryFrom (registry : Registry) (pen : BitVec 32) (code : BitVec 16) : Except IEError IE :=
  if pen = 0 then
    match registry.iana.find? fun e => e.elementId == code with
    | some e => .ok (.iana e)
    | none => .error (.undefinedIanaIe code)
  else
    match registry.vendors.find? fun v => v.pen == pen with
    | some v => .ok (vendorTryFrom v code)
    | none => .ok (.unknown pen code)

end IE

/-! ## Kinds of generated codecs -/

/-- The type of the value of a field, which decides how it is read and written. -/
inductive FieldType where
  | octetArray
  | mplsLabelStackSection
  | unsigned8 (registry : Option SubRegistry)
  | unsigned16 (registry : Option SubRegistry)
  | tcpControlBits
  | unsigned32 (registry : Option SubRegistry)
  | unsigned64 (registry : Option SubRegistry)
  | signed8
  | signed16
  | signed32
  | signed64
  | float32
  | float64
  | boolean
  | macAddress
  | string
  | dateTimeSeconds
  | dateTimeMilliseconds
  | dateTimeMicroseconds
  | dateTimeNanoseconds
  | ipv4Address
  | ipv6Address
  | basicList
  | subTemplateList
  | subTemplateMultiList
  | unsigned256
  | unknown
  | vendorUnknown

def InformationElement.fieldType (e : InformationElement) : FieldType :=
  match e.dataType with
  | .octetArray => if isMplsType e.name then .mplsLabelStackSection else .octetArray
  | .unsigned8 => .unsigned8 e.subregistry
  | .unsigned16 =>
    if e.name == "tcpControlBits" then .tcpControlBits else .unsigned16 e.subregistry
  | .unsigned32 => .unsigned32 e.subregistry
  | .unsigned64 => .unsigned64 e.subregistry
  | .signed8 => .signed8
  | .signed16 => .signed16
  | .signed32 => .signed32
  | .signed64 => .signed64
  | .float32 => .float32
  | .float64 => .float64
  | .boolean => .boolean
  | .macAddress => .macAddress
  | .string => .string
  | .dateTimeSeconds => .dateTimeSeconds
  | .dateTimeMilliseconds => .dateTimeMilliseconds
  | .dateTimeMicroseconds => .dateTimeMicroseconds
  | .dateTimeNanoseconds => .dateTimeNanoseconds
  | .ipv4Address => .ipv4Address
  | .ipv6Address => .ipv6Address
  | .basicList => .basicList
  | .subTemplateList => .subTemplateList
  | .subTemplateMultiList => .subTemplateMultiList
  | .unsigned256 => .unsigned256

def IE.fieldType : IE → FieldType
  | .unknown .. => .unknown
  | .vendorUnknown .. => .vendorUnknown
  | .vendor _ e => e.fieldType
  | .iana e => e.fieldType

/-- The name in the errors about a field. -/
def IE.name : IE → String
  | .unknown .. => ""
  | .vendorUnknown .. => ""
  | .vendor _ e => e.name
  | .iana e => e.name

end NetCalyx.Flow
