import NetCalyx.Bgp.Codec.AttributeLength
import NetCalyx.Bgp.Codec.Nlri

/-!
# Encoding of the Prefix-SID attribute

Three levels of TLVs, each with a type of one octet and a length of two: the
attribute, its service sub-TLVs and their sub-sub-TLVs. A TLV of an unregistered
type is kept with its data at every level; the writer of the outermost level
writes its type a second time.
-/

namespace NetCalyx.Bgp
open Wire

/-! ## Headers -/

variable (tlvType : BitVec 8)

/-- The length in the header does not count the header; octet arithmetic. -/
def writeTlvHeaderT8L16 (tlvLength : BitVec 16) : Octets :=
  tlvType :: octets (tlvLength - 3)

/-- Type, length and value of a TLV. -/
def readTlvHeaderT8L16 {ε : Type} [NomError ε] : Parser ε (BitVec 8 × BitVec 16 × Octets) := do
  let tlvType ← beU8
  let tlvLength ← beU16
  let data ← take tlvLength.toNat
  return (tlvType, tlvLength, data)

/-- Why a number is not a registered TLV type: the two ends of the range are reserved. -/
def sidTypeError : IanaValueError 8 :=
  if tlvType = 0 ∨ tlvType = 255 then .reserved tlvType else .unknown tlvType

/-- The outermost level has one deprecated type. -/
def BgpSidAttributeType.typeError : IanaValueError 8 :=
  if tlvType = 2 then .deprecated tlvType else sidTypeError tlvType

/-- What an unregistered TLV type is read as: the data is kept, unless the number
is reserved or deprecated. -/
def unregisteredSid {ε α : Type} (bad : IanaValueError 8 → ε) (unknown : BitVec 8 → Octets → α)
    (typeError : IanaValueError 8) (data : Octets) : Parser ε α :=
  match typeError with
  | .unknown code => return unknown code data
  | other => .fail (bad other)

/-! ## Sub-sub-TLVs -/

namespace SRv6ServiceSubSubTlv

def len (tlv : SRv6ServiceSubSubTlv) : Nat :=
  3 + match tlv with
    | srv6SIDStructure .. => 6
    | unknown _ value => value.length

def writeValue : SRv6ServiceSubSubTlv → Octets
  | srv6SIDStructure locatorBlockLen locatorNodeLen functionLen argLen transpositionLen
      transpositionOffset =>
    [locatorBlockLen, locatorNodeLen, functionLen, argLen, transpositionLen, transpositionOffset]
  | unknown _ value => value

def write (tlv : SRv6ServiceSubSubTlv) : Octets :=
  writeTlvHeaderT8L16 tlv.rawCode (BitVec.ofNat 16 tlv.len) ++ tlv.writeValue

def parseStructure : Parser BgpPrefixSidSubSubTlvParsingError SRv6ServiceSubSubTlv := do
  let locatorBlockLen ← beU8
  let locatorNodeLen ← beU8
  let functionLen ← beU8
  let argLen ← beU8
  let transpositionLen ← beU8
  let transpositionOffset ← beU8
  return srv6SIDStructure locatorBlockLen locatorNodeLen functionLen argLen transpositionLen
    transpositionOffset

def fromWire : Parser BgpPrefixSidSubSubTlvParsingError SRv6ServiceSubSubTlv := do
  let (tlvType, _tlvLength, data) ← readTlvHeaderT8L16
  match BgpSrv6ServiceSubSubTlvType.tryFrom tlvType with
  | some .srv6SIDStructure => .within data parseStructure
  | none => unregisteredSid .badBgpPrefixSidSubSubTlvType unknown (sidTypeError tlvType) data

end SRv6ServiceSubSubTlv

/-! ## Service sub-TLVs -/

namespace SRv6ServiceSubTlv

def len (tlv : SRv6ServiceSubTlv) : Nat :=
  3 + match tlv with
    | srv6SIDInformation _ _ _ _ _ subsubtlvs =>
      1 + 16 + 1 + 2 + 1 + (subsubtlvs.map SRv6ServiceSubSubTlv.len).sum
    | unknown _ value => value.length

def writeValue : SRv6ServiceSubTlv → Octets
  | srv6SIDInformation reserved1 sid serviceSidFlags endpointBehaviour reserved2 subsubtlvs =>
    reserved1 :: (octets sid ++ serviceSidFlags :: (octets endpointBehaviour ++
      reserved2 :: subsubtlvs.flatMap SRv6ServiceSubSubTlv.write))
  | unknown _ value => value

def write (tlv : SRv6ServiceSubTlv) : Octets :=
  writeTlvHeaderT8L16 tlv.rawCode (BitVec.ofNat 16 tlv.len) ++ tlv.writeValue

def parseInformation : Parser BgpPrefixSidSubTlvParsingError SRv6ServiceSubTlv := do
  let reserved1 ← beU8
  let sid ← beU128
  let serviceSidFlags ← beU8
  let endpointBehaviour ← beU16
  let reserved2 ← beU8
  let subsubtlvs ← parseTillEmpty
    (SRv6ServiceSubSubTlv.fromWire.mapErr .sRv6ServiceSubTlvError)
  return srv6SIDInformation reserved1 sid serviceSidFlags endpointBehaviour reserved2 subsubtlvs

def fromWire : Parser BgpPrefixSidSubTlvParsingError SRv6ServiceSubTlv := do
  let (tlvType, _tlvLength, data) ← readTlvHeaderT8L16
  match BgpSrv6ServiceSubTlvType.tryFrom tlvType with
  | some .srv6SIDInformation => .within data parseInformation
  | none => unregisteredSid .badBgpPrefixSidSubTlvType unknown (sidTypeError tlvType) data

end SRv6ServiceSubTlv

/-! ## The attribute -/

def SegmentRoutingGlobalBlock.write (block : SegmentRoutingGlobalBlock) : Octets :=
  block.firstLabel.write ++ block.rangeSize.val

def SegmentRoutingGlobalBlock.fromWire :
    Parser BgpSRv6SRGBParsingError SegmentRoutingGlobalBlock := do
  let firstLabel ← MplsLabel.fromWire.mapErr .mplsLabelParsingError
  let rangeSize0 ← beU8
  let rangeSize1 ← beU8
  let rangeSize2 ← beU8
  return ⟨firstLabel, .three rangeSize0 rangeSize1 rangeSize2⟩

namespace BgpSidAttribute

def len (tlv : BgpSidAttribute) : Nat :=
  3 + match tlv with
    | labelIndex .. => 7
    | originator _ srgbs => 2 + 6 * srgbs.length
    | srv6ServiceL2 _ subtlvs => 1 + (subtlvs.map SRv6ServiceSubTlv.len).sum
    | srv6ServiceL3 _ subtlvs => 1 + (subtlvs.map SRv6ServiceSubTlv.len).sum
    | unknown _ value => value.length

def writeValue : BgpSidAttribute → Octets
  | labelIndex flags index => 0 :: (octets flags ++ octets index)
  | originator flags srgbs => octets flags ++ srgbs.flatMap SegmentRoutingGlobalBlock.write
  | srv6ServiceL3 reserved subtlvs => reserved :: subtlvs.flatMap SRv6ServiceSubTlv.write
  | srv6ServiceL2 reserved subtlvs => reserved :: subtlvs.flatMap SRv6ServiceSubTlv.write
  -- the type again, which the length does not count
  | unknown code value => code :: value

def write (tlv : BgpSidAttribute) : Octets :=
  writeTlvHeaderT8L16 tlv.rawCode (BitVec.ofNat 16 tlv.len) ++ tlv.writeValue

/-- The value of a registered TLV; what it leaves of its data is dropped. -/
def parseValue : BgpSidAttributeType → Parser BgpPrefixSidTlvParsingError BgpSidAttribute
  | .labelIndex => do
    let _reserved ← beU8
    let flags ← beU16
    let index ← beU32
    return labelIndex flags index
  | .originator => do
    let flags ← beU16
    let srgbs ← parseTillEmpty (SegmentRoutingGlobalBlock.fromWire.mapErr .bgpSRv6SRGBError)
    return originator flags srgbs
  | .srv6ServiceL3 => do
    let reserved ← beU8
    let subtlvs ← parseTillEmpty (SRv6ServiceSubTlv.fromWire.mapErr .sRv6ServiceSubTlvError)
    return srv6ServiceL3 reserved subtlvs
  | .srv6ServiceL2 => do
    let reserved ← beU8
    let subtlvs ← parseTillEmpty (SRv6ServiceSubTlv.fromWire.mapErr .sRv6ServiceSubTlvError)
    return srv6ServiceL2 reserved subtlvs

def fromWire : Parser BgpPrefixSidTlvParsingError BgpSidAttribute := do
  let (tlvType, _tlvLength, data) ← readTlvHeaderT8L16
  match BgpSidAttributeType.tryFrom tlvType with
  | some type => .within data (parseValue type)
  | none =>
    unregisteredSid .badBgpPrefixSidTlvType unknown (BgpSidAttributeType.typeError tlvType) data

end BgpSidAttribute

namespace PrefixSegmentIdentifier

/-- The size without the length field of the attribute. -/
def payloadLen (sid : PrefixSegmentIdentifier) : Nat := (sid.tlvs.map BgpSidAttribute.len).sum

def payload (sid : PrefixSegmentIdentifier) : Octets := sid.tlvs.flatMap BgpSidAttribute.write

def fromWire (extendedLength : Bool) :
    Parser SegmentIdentifierParsingError PrefixSegmentIdentifier := do
  let segmentIdBuf ← attributeData extendedLength
  let tlvs ← .within segmentIdBuf
    (parseTillEmpty (BgpSidAttribute.fromWire.mapErr .bgpPrefixSidTlvError))
  return ⟨tlvs⟩

end PrefixSegmentIdentifier

end NetCalyx.Bgp
