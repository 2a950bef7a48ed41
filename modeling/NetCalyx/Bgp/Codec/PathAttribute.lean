import NetCalyx.Bgp.Codec.Community
import NetCalyx.Bgp.Codec.LinkStateAttribute
import NetCalyx.Bgp.Codec.MultiProtocol
import NetCalyx.Bgp.Codec.PrefixSid

/-!
# Encoding of path attributes

A path attribute is an octet of flags, a type, a length and a value. Some values
have a fixed length which the parser checks against the length field; all others
are cut out of the input by it, and what they leave is dropped.
-/

namespace NetCalyx.Bgp
open Wire NetCalyx.Iana

/-! ## AS paths -/

section AsPath

variable {w : Nat}

def AsPathSegment.len (segment : AsPathSegment w) : Nat := 2 + segment.asNumbers.length * (w / 8)

/-- The number of AS numbers is written in one octet. -/
def AsPathSegment.write (segment : AsPathSegment w) : Octets :=
  segment.segmentType.code :: BitVec.ofNat 8 segment.asNumbers.length ::
    segment.asNumbers.flatMap octets

def AsPathSegment.fromWire : Parser AsPathParsingError (AsPathSegment w) := do
  let segmentType ← mapRes beU8 fun type =>
    (AsPathSegmentType.tryFrom type).elim (.error (.undefinedAsPathSegmentType type)) .ok
  let count ← beU8
  if count = 0 then .fail .zeroSegmentLength
  else
    let buf ← .input
    let expecting := count.toNat * (w / 8)
    if buf.length < expecting then .fail (.invalidAsPathLength expecting buf.length)
    else
      let asNumbers ← Wire.count (beUint w) count.toNat
      return ⟨segmentType, asNumbers⟩

end AsPath

def As4Path.fromWire (extendedLength : Bool) : Parser AsPathParsingError (List As4PathSegment) := do
  let segmentsBuf ← attributeData extendedLength
  .within segmentsBuf (parseTillEmpty AsPathSegment.fromWire)

def AsPath.fromWire (extendedLength asn4 : Bool) : Parser AsPathParsingError AsPath := do
  let segmentsBuf ← attributeData extendedLength
  if asn4 then
    let segments ← .within segmentsBuf (parseTillEmpty AsPathSegment.fromWire)
    return .as4PathSegments segments
  else
    let segments ← .within segmentsBuf (parseTillEmpty AsPathSegment.fromWire)
    return .as2PathSegments segments

/-! ## Values of a fixed length -/

variable (extendedLength : Bool)

def pathAttributeLength {ε : Type} [NomError ε] : Parser ε PathAttributeLength :=
  if extendedLength then do
    let raw ← beU16
    return .u16 raw
  else do
    let raw ← beU8
    return .u8 raw

/-- The length field of a value which can only have one length. -/
def checkLength {ε : Type} [NomError ε] (expected : Nat) (invalid : PathAttributeLength → ε) :
    Parser ε Unit := do
  let length ← pathAttributeLength extendedLength
  if length.toNat ≠ expected then .fail (invalid length) else return ()

def Origin.fromWire : Parser OriginParsingError Origin := do
  checkLength extendedLength 1 .invalidOriginLength
  mapRes beU8 fun value => (Origin.tryFrom value).elim (.error (.undefinedOrigin value)) .ok

/-- A next hop, a metric or a local preference. -/
def parseFixedU32 : Parser FixedLengthParsingError (BitVec 32) := do
  checkLength extendedLength 4 .invalidLength
  beU32

def NextHop.fromWire : Parser NextHopParsingError Ipv4Addr :=
  parseFixedU32 extendedLength

def MultiExitDiscriminator.fromWire : Parser MultiExitDiscriminatorParsingError (BitVec 32) :=
  parseFixedU32 extendedLength

def LocalPreference.fromWire : Parser LocalPreferenceParsingError (BitVec 32) :=
  parseFixedU32 extendedLength

def AtomicAggregate.fromWire : Parser AtomicAggregateParsingError Unit :=
  checkLength extendedLength 0 .invalidLength

def Aggregator.fromWire (extendedLength asn4 : Bool) : Parser AggregatorParsingError Aggregator :=
  if asn4 then do
    checkLength extendedLength 8 .invalidLength
    let asn ← beU32
    let origin ← beU32
    return .as4Aggregator asn origin
  else do
    checkLength extendedLength 6 .invalidLength
    let asn ← beU16
    let origin ← beU32
    return .as2Aggregator asn origin

/-! ## Values behind a length -/

/-- A list of items until the end of the value. -/
def parseItems {ε α : Type} (item : Parser ε α) (extendedLength : Bool) :
    Parser (ItemsParsingError ε) (List α) := do
  let dataBuf ← attributeData extendedLength
  .within dataBuf (parseTillEmpty (item.mapErr .itemError))

def Communities.fromWire (extendedLength : Bool) : Parser CommunitiesParsingError (List Community) :=
  parseItems Community.fromWire extendedLength

def ExtendedCommunities.fromWire (extendedLength : Bool) :
    Parser ExtendedCommunitiesParsingError (List ExtendedCommunity) :=
  parseItems ExtendedCommunity.fromWire extendedLength

def ExtendedCommunitiesIpv6.fromWire (extendedLength : Bool) :
    Parser ExtendedCommunitiesIpv6ParsingError (List ExtendedCommunityIpv6) :=
  parseItems ExtendedCommunityIpv6.fromWire extendedLength

def LargeCommunities.fromWire (extendedLength : Bool) :
    Parser LargeCommunitiesParsingError (List LargeCommunity) :=
  parseItems LargeCommunity.fromWire extendedLength

def ClusterList.fromWire (extendedLength : Bool) : Parser ClusterListParsingError (List Ipv4Addr) :=
  parseItems beU32 extendedLength

/-- A number at the front of the value. -/
def parseDataU32 (extendedLength : Bool) : Parser NomParsingError (BitVec 32) := do
  let dataBuf ← attributeData extendedLength
  .within dataBuf beU32

def Originator.fromWire (extendedLength : Bool) : Parser OriginatorParsingError Ipv4Addr :=
  parseDataU32 extendedLength

def OnlyToCustomer.fromWire (extendedLength : Bool) :
    Parser OnlyToCustomerParsingError (BitVec 32) :=
  parseDataU32 extendedLength

/-- The length of a metric, with its type and length. -/
def accumulatedIgpLength : BitVec 16 := 11

def Aigp.fromWire (extendedLength : Bool) : Parser AigpParsingError Aigp := do
  let dataBuf ← attributeData extendedLength
  .within dataBuf do
    let aigpType ← mapRes beU8 fun type =>
      (AigpAttributeType.tryFrom type).elim (.error (.undefinedAigpAttributeType type)) .ok
    match aigpType with
    | .accumulatedIgpMetric =>
      let length ← beU16
      if length ≠ accumulatedIgpLength then .fail (.invalidLength length)
      else
        let metric ← beU64
        return .accumulatedIgpMetric metric

/-- Starts at the type, which is kept. -/
def UnknownAttribute.fromWire (extendedLength : Bool) :
    Parser UnknownAttributeParsingError UnknownAttribute := do
  let code ← beU8
  let length ← pathAttributeLength extendedLength
  let buf ← .input
  if length.toNat > buf.length then .fail (.invalidLength length.toNat buf.length)
  else
    let value ← take length.toNat
    return ⟨code, value⟩

/-! ## Attributes -/

inductive PathAttributeWritingError where
  | bgpLsError (err : BgpLsAttributeWritingError)

namespace PathAttributeValue

/-- The size without the length field. -/
def payloadLen : PathAttributeValue → Nat
  | origin _ => 1
  | asPath (.as2PathSegments segments) => (segments.map AsPathSegment.len).sum
  | asPath (.as4PathSegments segments) => (segments.map AsPathSegment.len).sum
  | as4Path segments => (segments.map AsPathSegment.len).sum
  | nextHop _ => 4
  | multiExitDiscriminator _ => 4
  | localPreference _ => 4
  | atomicAggregate => 0
  | aggregator (.as2Aggregator ..) => 6
  | aggregator (.as4Aggregator ..) => 8
  | communities items => (items.map Community.len).sum
  | extendedCommunities items => (items.map ExtendedCommunity.len).sum
  | extendedCommunitiesIpv6 items => (items.map ExtendedCommunityIpv6.len).sum
  | largeCommunities items => (items.map LargeCommunity.len).sum
  | originator _ => 4
  | clusterList ids => (ids.map fun _ => 4).sum
  | mpReach value => value.payloadLen
  | mpUnreach value => value.payloadLen
  | bgpLs value => (value.attributes.map BgpLsAttributeValue.len).sum
  | onlyToCustomer _ => 4
  | aigp (.accumulatedIgpMetric _) => 3 + 8
  | prefixSegmentIdentifier value => value.payloadLen
  | unknownAttribute value => value.value.length

/-- What is written behind the length field. -/
def payload : PathAttributeValue → Except PathAttributeWritingError Octets
  | origin value => .ok [value.code]
  | asPath (.as2PathSegments segments) => .ok (segments.flatMap AsPathSegment.write)
  | asPath (.as4PathSegments segments) => .ok (segments.flatMap AsPathSegment.write)
  | as4Path segments => .ok (segments.flatMap AsPathSegment.write)
  | nextHop addr => .ok (octets addr)
  | multiExitDiscriminator metric => .ok (octets metric)
  | localPreference metric => .ok (octets metric)
  | atomicAggregate => .ok []
  | aggregator (.as2Aggregator asn addr) => .ok (octets asn ++ octets addr)
  | aggregator (.as4Aggregator asn addr) => .ok (octets asn ++ octets addr)
  | communities items => .ok (items.flatMap Community.write)
  | extendedCommunities items => .ok (items.flatMap ExtendedCommunity.write)
  | extendedCommunitiesIpv6 items => .ok (items.flatMap ExtendedCommunityIpv6.write)
  | largeCommunities items => .ok (items.flatMap LargeCommunity.write)
  | originator id => .ok (octets id)
  | clusterList ids => .ok (ids.flatMap octets)
  | mpReach value => .ok value.payload
  | mpUnreach value => .ok value.payload
  | bgpLs value => (writeAll BgpLsAttributeValue.write value.attributes).mapError .bgpLsError
  | onlyToCustomer asn => .ok (octets asn)
  | aigp (.accumulatedIgpMetric metric) =>
    .ok (AigpAttributeType.accumulatedIgpMetric.code ::
      (octets accumulatedIgpLength ++ octets metric))
  | prefixSegmentIdentifier value => .ok value.payload
  | unknownAttribute value => .ok value.value

/-- The type of an attribute; an unknown one carries its own number. -/
def typeOctet (value : PathAttributeValue) : BitVec 8 :=
  match value.pathAttributeType with
  | .ok type => type.code
  | .error code => code

/-- The size of length field and value together. -/
def len (value : PathAttributeValue) (extendedLength : Bool) : Nat :=
  lengthFieldSize extendedLength + value.payloadLen

end PathAttributeValue

namespace PathAttribute

def len (attr : PathAttribute) : Nat := 2 + attr.value.len attr.extendedLength

def flags (attr : PathAttribute) : BitVec 8 :=
  flagBit attr.optional 0x80 ||| flagBit attr.transitive 0x40 ||| flagBit attr.isPartial 0x20 |||
    flagBit attr.extendedLength 0x10

/-- Flags, type, length field and value. -/
def write (attr : PathAttribute) : Except PathAttributeWritingError Octets := do
  let payload ← attr.value.payload
  return attr.flags :: attr.value.typeOctet ::
    (writeLength (attr.value.len attr.extendedLength) attr.extendedLength ++ payload)

/-- The value behind the type. Registered types that are not decoded are kept as
unknown ones, like types that are not registered. -/
def parseValue (ctx : BgpParsingContext) (direction : MessageDirection) (extendedLength : Bool)
    (code : BitVec 8) : Parser PathAttributeParsingError PathAttributeValue :=
  match PathAttributeType.tryFrom code with
  | some .origin => do
    return .origin (← (Origin.fromWire extendedLength).mapErr .originError)
  | some .asPath => do
    return .asPath (← (AsPath.fromWire extendedLength ctx.asn4).mapErr .asPathError)
  | some .as4Path => do
    return .as4Path (← (As4Path.fromWire extendedLength).mapErr .asPathError)
  | some .nextHop => do
    return .nextHop (← (NextHop.fromWire extendedLength).mapErr .nextHopError)
  | some .multiExitDiscriminator => do
    return .multiExitDiscriminator
      (← (MultiExitDiscriminator.fromWire extendedLength).mapErr .multiExitDiscriminatorError)
  | some .localPreference => do
    return .localPreference
      (← (LocalPreference.fromWire extendedLength).mapErr .localPreferenceError)
  | some .atomicAggregate => do
    let _ ← (AtomicAggregate.fromWire extendedLength).mapErr .atomicAggregateError
    return .atomicAggregate
  | some .aggregator => do
    return .aggregator (← (Aggregator.fromWire extendedLength ctx.asn4).mapErr .aggregatorError)
  | some .communities => do
    return .communities (← (Communities.fromWire extendedLength).mapErr .communitiesError)
  | some .extendedCommunities => do
    return .extendedCommunities
      (← (ExtendedCommunities.fromWire extendedLength).mapErr .extendedCommunitiesError)
  | some .extendedCommunitiesIpv6 => do
    return .extendedCommunitiesIpv6
      (← (ExtendedCommunitiesIpv6.fromWire extendedLength).mapErr .extendedCommunitiesErrorIpv6)
  | some .largeCommunities => do
    return .largeCommunities
      (← (LargeCommunities.fromWire extendedLength).mapErr .largeCommunitiesError)
  | some .originatorId => do
    return .originator (← (Originator.fromWire extendedLength).mapErr .originatorError)
  | some .clusterList => do
    return .clusterList (← (ClusterList.fromWire extendedLength).mapErr .clusterListError)
  | some .mpReachNlri => do
    return .mpReach (← (MpReach.fromWire extendedLength ctx direction).mapErr .mpReachErrorError)
  | some .mpUnreachNlri => do
    return .mpUnreach
      (← (MpUnreach.fromWire extendedLength ctx direction).mapErr .mpUnreachErrorError)
  | some .onlyToCustomer => do
    return .onlyToCustomer (← (OnlyToCustomer.fromWire extendedLength).mapErr .onlyToCustomerError)
  | some .accumulatedIgp => do
    return .aigp (← (Aigp.fromWire extendedLength).mapErr .aigpError)
  | some .bgpLsAttribute => do
    return .bgpLs (← (BgpLsAttribute.fromWire extendedLength).mapErr .bgpLsError)
  | some .bgpPrefixSid => do
    return .prefixSegmentIdentifier
      (← (PrefixSegmentIdentifier.fromWire extendedLength).mapErr .segmentIdentifierParsingError)
  | _ => fun buf => (do
      return .unknownAttribute
        (← (UnknownAttribute.fromWire extendedLength).mapErr .unknownAttributeError) :
    -- an unknown attribute starts at its type
    Parser _ _) (code :: buf)

def fromWire (ctx : BgpParsingContext) (direction : MessageDirection) :
    Parser PathAttributeParsingError PathAttribute := do
  let attributes ← beU8
  let code ← beU8
  let value ← parseValue ctx direction (hasFlag attributes 0x10) code
  match build (hasFlag attributes 0x80) (hasFlag attributes 0x40) (hasFlag attributes 0x20)
      (hasFlag attributes 0x10) value with
  | .ok attr => return attr
  | .error (value, err) => .fail (.invalidPathAttribute err value)

end PathAttribute

end NetCalyx.Bgp
