import NetCalyx.Bgp.Codec.AttributeLength
import NetCalyx.Bgp.Codec.Nlri

/-!
# Encoding of the BGP-LS attribute

Every value of the attribute is a TLV: a type and a length of two octets each,
then the value. Length, writer and parser have one case per kind of value, and
the writer narrows the length without a check.

`link_state_codec_iff` says for which values the three agree, and for which
lists of values the whole attribute is read back.
-/

variable {value : BgpLsAttributeValue} {bytes : Octets}

namespace NetCalyx.Bgp
open Wire

/-! ## Shared pieces -/

/-- A bit of a flags octet. -/
def flagBit {w : Nat} (set : Bool) (mask : BitVec w) : BitVec w := if set then mask else 0

def hasFlag {w : Nat} (flags mask : BitVec w) : Bool := flags &&& mask == mask

/-- The length in the header does not count the header; octet arithmetic. -/
def writeTlvHeaderT16L16 (tlvType tlvLength : BitVec 16) : Octets :=
  octets tlvType ++ octets (tlvLength - 4)

/-- Type, length and value of a TLV. -/
def readTlvHeaderT16L16 {ε : Type} [NomError ε] :
    Parser ε (BitVec 16 × BitVec 16 × Octets) := do
  let tlvType ← beU16
  let tlvLength ← beU16
  let data ← take tlvLength.toNat
  return (tlvType, tlvLength, data)

def MultiTopologyIdData.len (data : MultiTopologyIdData) : Nat := 2 * data.ids.length

def MultiTopologyIdData.write (data : MultiTopologyIdData) : Octets :=
  data.ids.flatMap fun id => octets id.value

def MultiTopologyId.fromWire {ε : Type} [NomError ε] : Parser ε MultiTopologyId := do
  let mtid ← beU16
  return .ofU16 mtid

def MultiTopologyIdData.fromWire {ε : Type} [NomError ε] : Parser ε MultiTopologyIdData := do
  let ids ← parseTillEmpty MultiTopologyId.fromWire
  return ⟨ids⟩

/-! ## Writer -/

/-- A name of a node is refused when it is longer than 255 octets. -/
inductive BgpLsAttributeWritingError where
  | nodeNameTlvStringTooLong (len : Nat)

def BgpLsPeerSid.len : BgpLsPeerSid → Nat
  | labelValue .. => 4 + 3
  | indexValue .. => 4 + 4

def BgpLsPeerSid.write : BgpLsPeerSid → Octets
  | labelValue flags weight label => [flags, weight, 0, 0] ++ label.write
  | indexValue flags weight index => [flags, weight, 0, 0] ++ octets index

namespace BgpLsAttributeValue

def nodeNameTlvMaxLen : Nat := 255

def len (value : BgpLsAttributeValue) : Nat :=
  4 + match value with
    | localNodeIpv4RouterId _ => 4
    | localNodeIpv6RouterId _ => 16
    | remoteNodeIpv4RouterId _ => 4
    | remoteNodeIpv6RouterId _ => 16
    | remoteNodeAdministrativeGroupColor _ => 4
    | maximumLinkBandwidth _ => 4
    | maximumReservableLinkBandwidth _ => 4
    | unreservedBandwidth _ => 4 * 8
    | teDefaultMetric _ => 4
    | linkProtectionType .. => 2
    | mplsProtocolMask .. => 1
    | igpMetric metric => metric.length
    | sharedRiskLinkGroup groups => 4 * groups.length
    | opaqueLinkAttribute attr => attr.length
    | linkName name => (stringOctets name).length
    | igpFlags .. => 1
    | igpRouteTag tags => 4 * tags.length
    | igpExtendedRouteTag tags => 8 * tags.length
    | prefixMetric _ => 4
    | ospfForwardingAddress addr => ipAddrLen addr
    | opaquePrefixAttribute attr => attr.length
    | multiTopologyIdentifier data => data.len
    | nodeFlagBits .. => 1
    | opaqueNodeAttribute bytes => bytes.length
    | nodeNameTlv ascii => (stringOctets ascii).length
    | isIsArea area => area.length
    | peerNodeSid value => value.len
    | peerAdjSid value => value.len
    | peerSetSid value => value.len
    | unknown _ value => value.length

/-- What follows the TLV header. -/
def writeValue : BgpLsAttributeValue → Except BgpLsAttributeWritingError Octets
  | localNodeIpv4RouterId addr => .ok (octets addr)
  | localNodeIpv6RouterId addr => .ok (octets addr)
  | remoteNodeIpv4RouterId addr => .ok (octets addr)
  | remoteNodeIpv6RouterId addr => .ok (octets addr)
  | remoteNodeAdministrativeGroupColor color => .ok (octets color)
  | maximumLinkBandwidth bandwidth => .ok (octets bandwidth)
  | maximumReservableLinkBandwidth bandwidth => .ok (octets bandwidth)
  | unreservedBandwidth bandwidths => .ok (bandwidths.val.flatMap octets)
  | teDefaultMetric metric => .ok (octets metric)
  -- one octet, where the length says two
  | linkProtectionType extraTraffic unprotected shared dedicated1c1 dedicated1p1 enhanced =>
    .ok [flagBit extraTraffic 0x01 ||| flagBit unprotected 0x02 ||| flagBit shared 0x04 |||
      flagBit dedicated1c1 0x08 ||| flagBit dedicated1p1 0x10 ||| flagBit enhanced 0x20]
  | mplsProtocolMask ldp rsvpTe => .ok [flagBit ldp 0x80 ||| flagBit rsvpTe 0x40]
  | igpMetric metric => .ok metric
  | sharedRiskLinkGroup groups => .ok (groups.flatMap fun group => octets group.value)
  | opaqueLinkAttribute attr => .ok attr
  | linkName ascii => .ok (stringOctets ascii)
  | igpFlags isisUpDown ospfNoUnicast ospfLocalAddress ospfPropagateNssa =>
    .ok [flagBit isisUpDown 0x80 ||| flagBit ospfNoUnicast 0x40 |||
      flagBit ospfLocalAddress 0x20 ||| flagBit ospfPropagateNssa 0x10]
  | igpRouteTag tags => .ok (tags.flatMap octets)
  | igpExtendedRouteTag tags => .ok (tags.flatMap octets)
  | prefixMetric metric => .ok (octets metric)
  | ospfForwardingAddress addr => .ok (ipAddrWrite addr)
  | opaquePrefixAttribute attr => .ok attr
  | multiTopologyIdentifier data => .ok data.write
  | nodeFlagBits overload attached external abr router v6 =>
    .ok [flagBit overload 0x80 ||| flagBit attached 0x40 ||| flagBit external 0x20 |||
      flagBit abr 0x10 ||| flagBit router 0x08 ||| flagBit v6 0x04]
  | opaqueNodeAttribute bytes => .ok bytes
  | nodeNameTlv ascii =>
    let len := (stringOctets ascii).length
    if len > nodeNameTlvMaxLen then .error (.nodeNameTlvStringTooLong len)
    else .ok (stringOctets ascii)
  | isIsArea area => .ok area
  | peerNodeSid value => .ok value.write
  | peerAdjSid value => .ok value.write
  | peerSetSid value => .ok value.write
  | unknown _ value => .ok value

def write (value : BgpLsAttributeValue) : Except BgpLsAttributeWritingError Octets := do
  let header := writeTlvHeaderT16L16 value.rawCode (BitVec.ofNat 16 value.len)
  let bytes ← value.writeValue
  return header ++ bytes

end BgpLsAttributeValue

/-! ## Parser -/

def BgpLsPeerSid.fromWire (length : BitVec 16) :
    Parser BgpLsAttributeParsingError BgpLsPeerSid := do
  let flags ← beU8
  let weight ← beU8
  let _reserved ← beU16
  if length = 7 ∧ flagsHaveVFlag flags then
    let label ← MplsLabel.fromWire.mapErr .mplsLabelParsingError
    return .labelValue flags weight label
  else if length = 8 ∧ ¬ flagsHaveVFlag flags then
    let index ← beU32
    return .indexValue flags weight index
  else .fail (.badSidValue flags)

def parseString (length : BitVec 16) : Parser BgpLsAttributeParsingError String :=
  mapRes (take length.toNat) fun bs => (stringFromOctets bs).elim (.error .utf8Error) .ok

namespace BgpLsAttributeValue

/-- The value of a registered TLV; what it leaves of its data is dropped. -/
def parseValue (tlvLength : BitVec 16) :
    BgpLsAttributeType → Parser BgpLsAttributeParsingError BgpLsAttributeValue
  | .multiTopologyIdentifier => do
    let mtid ← MultiTopologyIdData.fromWire
    return multiTopologyIdentifier mtid
  | .nodeFlagBits => do
    let flags ← beU8
    return nodeFlagBits (hasFlag flags 0x80) (hasFlag flags 0x40) (hasFlag flags 0x20)
      (hasFlag flags 0x10) (hasFlag flags 0x08) (hasFlag flags 0x04)
  | .opaqueNodeAttribute => do
    let data ← .input
    return opaqueNodeAttribute data
  | .nodeNameTlv => do
    let str ← parseString tlvLength
    return nodeNameTlv str
  | .isIsArea => do
    let data ← .input
    return isIsArea data
  | .localNodeIpv4RouterId => do
    let address ← beU32
    return localNodeIpv4RouterId address
  | .localNodeIpv6RouterId => do
    let address ← beU128
    return localNodeIpv6RouterId address
  | .remoteNodeIpv4RouterId => do
    let address ← beU32
    return remoteNodeIpv4RouterId address
  | .remoteNodeIpv6RouterId => do
    let address ← beU128
    return remoteNodeIpv6RouterId address
  | .remoteNodeAdministrativeGroupColor => do
    let color ← beU32
    return remoteNodeAdministrativeGroupColor color
  | .maximumLinkBandwidth => do
    let bandwidth ← beU32
    return maximumLinkBandwidth bandwidth
  | .maximumReservableLinkBandwidth => do
    let bandwidth ← beU32
    return maximumReservableLinkBandwidth bandwidth
  | .unreservedBandwidth => do
    let bandwidths ← count beU32 8
    if h : bandwidths.length = 8 then return unreservedBandwidth ⟨bandwidths, h⟩
    else .fail (.badUnreservedBandwidthLength bandwidths.length)
  | .teDefaultMetric => do
    let metric ← beU32
    return teDefaultMetric metric
  | .linkProtectionType => do
    let flags ← beU16
    return linkProtectionType (hasFlag flags 0x01) (hasFlag flags 0x02) (hasFlag flags 0x04)
      (hasFlag flags 0x08) (hasFlag flags 0x10) (hasFlag flags 0x20)
  | .mplsProtocolMask => do
    let flags ← beU8
    return mplsProtocolMask (hasFlag flags 0x80) (hasFlag flags 0x40)
  | .igpMetric => do
    let data ← .input
    return igpMetric data
  | .sharedRiskLinkGroup => do
    let values ← parseTillEmpty (beU32 >>= fun value => pure ⟨value⟩)
    return sharedRiskLinkGroup values
  | .opaqueLinkAttribute => do
    let data ← .input
    return opaqueLinkAttribute data
  | .linkName => do
    let str ← parseString tlvLength
    return linkName str
  | .igpFlags => do
    let flags ← beU8
    return igpFlags (hasFlag flags 0x80) (hasFlag flags 0x40) (hasFlag flags 0x20)
      (hasFlag flags 0x10)
  | .igpRouteTag => do
    let tags ← parseTillEmpty beU32
    return igpRouteTag tags
  | .igpExtendedRouteTag => do
    let tags ← parseTillEmpty beU64
    return igpExtendedRouteTag tags
  | .prefixMetric => do
    let metric ← beU32
    return prefixMetric metric
  | .ospfForwardingAddress =>
    if tlvLength = 4 then do
      let ip ← beU32
      return ospfForwardingAddress (.v4 ip)
    else if tlvLength = 16 then do
      let ip ← beU128
      return ospfForwardingAddress (.v6 ip)
    else .fail (.wrongIpAddrLength tlvLength.toNat)
  | .opaquePrefixAttribute => do
    let data ← .input
    return opaquePrefixAttribute data
  | .peerNodeSid => do
    let sid ← BgpLsPeerSid.fromWire tlvLength
    return peerNodeSid sid
  | .peerAdjSid => do
    let sid ← BgpLsPeerSid.fromWire tlvLength
    return peerAdjSid sid
  | .peerSetSid => do
    let sid ← BgpLsPeerSid.fromWire tlvLength
    return peerSetSid sid

/-- Unregistered types above 255 are kept with their data, those below are
reserved. -/
def fromWire : Parser BgpLsAttributeParsingError BgpLsAttributeValue := do
  let (tlvType, tlvLength, data) ← readTlvHeaderT16L16
  match BgpLsAttributeType.tryFrom tlvType with
  | some type => .within data (parseValue tlvLength type)
  | none =>
    if tlvType ≤ 255 then .fail (.unknownTlvType (.reserved tlvType))
    else return unknown tlvType data

end BgpLsAttributeValue

/-! ## The attribute -/

namespace BgpLsAttribute

def len (attr : BgpLsAttribute) (extendedLength : Bool) : Nat :=
  1 + extendedLength.toNat + (attr.attributes.map BgpLsAttributeValue.len).sum

def write (attr : BgpLsAttribute) (extendedLength : Bool) :
    Except BgpLsAttributeWritingError Octets := do
  let tlvs ← writeAll BgpLsAttributeValue.write attr.attributes
  return writeLength (attr.len extendedLength) extendedLength ++ tlvs

def fromWire (extendedLength : Bool) : Parser BgpLsAttributeParsingError BgpLsAttribute := do
  let lsBuf ← attributeData extendedLength
  let attributes ← .within lsBuf (parseTillEmpty BgpLsAttributeValue.fromWire)
  return ⟨attributes⟩

end BgpLsAttribute

/-! ## Sizes -/

/-- The header of a TLV counts the octets behind it, modulo the width of the
field. -/
theorem tlv_length_sub (n : Nat) : BitVec.ofNat 16 (4 + n) - 4 = BitVec.ofNat 16 n := by
  rw [BitVec.ofNat_add, BitVec.add_comm]
  exact BitVec.add_sub_cancel _ _

theorem BgpLsPeerSid.write_length (sid : BgpLsPeerSid) : sid.write.length = sid.len := by
  cases sid <;> simp [write, len]

namespace BgpLsAttributeValue

/-- The kinds of values whose announced and written sizes differ. -/
def LengthAgrees : BgpLsAttributeValue → Prop
  | linkProtectionType .. => False
  | ospfForwardingAddress _ => False
  | _ => True

theorem writeValue_length_iff (h : value.writeValue = .ok bytes) :
    4 + bytes.length = value.len ↔ value.LengthAgrees := by
  cases value with
  | linkProtectionType =>
    cases h
    simp [len, LengthAgrees]
  | ospfForwardingAddress addr =>
    cases h
    cases addr <;> simp [len, ipAddrLen, ipAddrWrite, LengthAgrees]
  | nodeNameTlv ascii =>
    rw [writeValue] at h
    split at h <;> cases h
    simp [len, LengthAgrees]
  | unreservedBandwidth bandwidths =>
    cases h
    simp [len, LengthAgrees, length_flatMap_const (octets_length (w := 32)), bandwidths.property]
  | sharedRiskLinkGroup groups =>
    cases h
    simp [len, LengthAgrees, length_flatMap_const fun group : SharedRiskLinkGroupValue =>
      octets_length group.value]
  | igpRouteTag tags =>
    cases h
    simp [len, LengthAgrees, length_flatMap_const fun tag : BitVec 32 => octets_length tag]
  | igpExtendedRouteTag tags =>
    cases h
    simp [len, LengthAgrees, length_flatMap_const fun tag : BitVec 64 => octets_length tag]
  | multiTopologyIdentifier data =>
    cases h
    simp [len, LengthAgrees, MultiTopologyIdData.len, MultiTopologyIdData.write,
      length_flatMap_const fun id : MultiTopologyId => octets_length id.value]
  | peerNodeSid sid | peerAdjSid sid | peerSetSid sid =>
    cases h
    simp [len, LengthAgrees, BgpLsPeerSid.write_length]
  | _ =>
    cases h
    simp [len, LengthAgrees]

end BgpLsAttributeValue

/-! ## Reading back -/

theorem decodes_parseString {s : String} (hfit : (stringOctets s).length < 2 ^ 16) :
    Decodes (parseString (BitVec.ofNat 16 (stringOctets s).length)) (stringOctets s) s := by
  have hlength : (BitVec.ofNat 16 (stringOctets s).length).toNat = (stringOctets s).length :=
    Nat.mod_eq_of_lt hfit
  refine (decodes_take hlength.symm).mapRes ?_
  rw [stringFromOctets_stringOctets]
  rfl

theorem nodeFlagBits_read_back (overload attached external abr router v6 : Bool) :
    let flags : BitVec 8 := flagBit overload 0x80 ||| flagBit attached 0x40 |||
      flagBit external 0x20 ||| flagBit abr 0x10 ||| flagBit router 0x08 ||| flagBit v6 0x04
    hasFlag flags 0x80 = overload ∧ hasFlag flags 0x40 = attached ∧
      hasFlag flags 0x20 = external ∧ hasFlag flags 0x10 = abr ∧ hasFlag flags 0x08 = router ∧
      hasFlag flags 0x04 = v6 := by
  revert overload attached external abr router v6
  decide

theorem igpFlags_read_back (isisUpDown ospfNoUnicast ospfLocalAddress ospfPropagateNssa : Bool) :
    let flags : BitVec 8 := flagBit isisUpDown 0x80 ||| flagBit ospfNoUnicast 0x40 |||
      flagBit ospfLocalAddress 0x20 ||| flagBit ospfPropagateNssa 0x10
    hasFlag flags 0x80 = isisUpDown ∧ hasFlag flags 0x40 = ospfNoUnicast ∧
      hasFlag flags 0x20 = ospfLocalAddress ∧ hasFlag flags 0x10 = ospfPropagateNssa := by
  revert isisUpDown ospfNoUnicast ospfLocalAddress ospfPropagateNssa
  decide

theorem mplsProtocolMask_read_back (ldp rsvpTe : Bool) :
    let flags : BitVec 8 := flagBit ldp 0x80 ||| flagBit rsvpTe 0x40
    hasFlag flags 0x80 = ldp ∧ hasFlag flags 0x40 = rsvpTe := by
  revert ldp rsvpTe
  decide

/-- A topology identifier whose reserved bits are zero. -/
def MultiTopologyId.Canonical (id : MultiTopologyId) : Prop := .ofU16 id.value = id

theorem MultiTopologyId.ofU16_canonical (v : BitVec 16) : (ofU16 v).Canonical := by
  rw [Canonical, ofU16, ofU16, BitVec.and_assoc, BitVec.and_self]

theorem MultiTopologyIdData.fromWire_write {ε : Type} [NomError ε] {data : MultiTopologyIdData}
    (h : ∀ id ∈ data.ids, id.Canonical) :
    (fromWire : Parser ε _) data.write = .ok ([], data) := by
  have hids : parseTillEmpty (ε := ε) MultiTopologyId.fromWire data.write = .ok ([], data.ids) := by
    refine parseTillEmpty_ok fun id hid => ⟨?_, octets_ne_nil id.value (by decide)⟩
    have hread := (decodes_beU16 (ε := ε) id.value).map MultiTopologyId.ofU16
    rwa [show MultiTopologyId.ofU16 id.value = id from h id hid] at hread
  exact Parser.run_map hids _

/-- The V flag of a peering segment says which of the two it is. -/
def BgpLsPeerSid.Canonical : BgpLsPeerSid → Prop
  | labelValue flags _ _ => flagsHaveVFlag flags = true
  | indexValue flags _ _ => flagsHaveVFlag flags = false

theorem BgpLsPeerSid.decodes {sid : BgpLsPeerSid} (h : sid.Canonical) :
    Decodes (fromWire (BitVec.ofNat 16 sid.write.length)) sid.write sid := by
  cases sid with
  | labelValue flags weight label =>
    refine (decodes_beU8 flags).bind <| (decodes_beU8 weight).bind <|
      (decodes_beU16 0).bind ?_
    rw [write_length, if_pos ⟨rfl, h⟩]
    exact (label.decodes.mapErr _).map _
  | indexValue flags weight index =>
    have hflag : ¬ flagsHaveVFlag flags = true := by
      rw [show flagsHaveVFlag flags = false from h]
      exact Bool.false_ne_true
    refine (decodes_beU8 flags).bind <| (decodes_beU8 weight).bind <|
      (decodes_beU16 0).bind ?_
    rw [write_length, if_neg fun hlabel => hflag hlabel.2, if_pos ⟨rfl, hflag⟩]
    exact (decodes_beU32 index).map _

namespace BgpLsAttributeValue

/-- Values that the parser can produce: reserved bits are zero, flags match the
kind of the value, and what is unregistered is registered nowhere. -/
def Canonical : BgpLsAttributeValue → Prop
  | multiTopologyIdentifier data => ∀ id ∈ data.ids, id.Canonical
  | peerNodeSid sid => sid.Canonical
  | peerAdjSid sid => sid.Canonical
  | peerSetSid sid => sid.Canonical
  | unknown code _ => BgpLsAttributeType.tryFrom code = none ∧ ¬ code ≤ 255
  | _ => True

/-- A registered value is read back from what is written behind its header. -/
theorem parseValue_writeValue {type : BgpLsAttributeType} (hcode : value.code = .ok type)
    (h : value.writeValue = .ok bytes) (hagrees : value.LengthAgrees) (hcanonical : value.Canonical)
    (hfit : bytes.length < 2 ^ 16) :
    ∃ left, parseValue (BitVec.ofNat 16 bytes.length) type bytes = .ok (left, value) := by
  cases value with
  | localNodeIpv4RouterId v | remoteNodeIpv4RouterId v | remoteNodeAdministrativeGroupColor v
  | maximumLinkBandwidth v | maximumReservableLinkBandwidth v | teDefaultMetric v
  | prefixMetric v =>
    cases hcode
    cases h
    exact ⟨_, ((decodes_beU32 v).map _).run_nil⟩
  | localNodeIpv6RouterId addr | remoteNodeIpv6RouterId addr =>
    cases hcode
    cases h
    exact ⟨_, ((decodes_beU128 addr).map _).run_nil⟩
  | unreservedBandwidth bandwidths =>
    cases hcode
    cases h
    have hcount := decodes_count fun bandwidth (_ : bandwidth ∈ bandwidths.val) =>
      decodes_beU32 (ε := BgpLsAttributeParsingError) bandwidth
    rw [bandwidths.property] at hcount
    refine ⟨_, (hcount.last ?_).run_nil⟩
    rw [dif_pos bandwidths.property]
    exact Decodes.pure _
  | mplsProtocolMask ldp rsvpTe =>
    cases hcode
    cases h
    refine ⟨_, ((decodes_beU8 _).last ?_).run_nil⟩
    obtain ⟨h1, h2⟩ := mplsProtocolMask_read_back ldp rsvpTe
    rw [h1, h2]
    exact Decodes.pure _
  | igpFlags isisUpDown ospfNoUnicast ospfLocalAddress ospfPropagateNssa =>
    cases hcode
    cases h
    refine ⟨_, ((decodes_beU8 _).last ?_).run_nil⟩
    obtain ⟨h1, h2, h3, h4⟩ :=
      igpFlags_read_back isisUpDown ospfNoUnicast ospfLocalAddress ospfPropagateNssa
    rw [h1, h2, h3, h4]
    exact Decodes.pure _
  | nodeFlagBits overload attached external abr router v6 =>
    cases hcode
    cases h
    refine ⟨_, ((decodes_beU8 _).last ?_).run_nil⟩
    obtain ⟨h1, h2, h3, h4, h5, h6⟩ :=
      nodeFlagBits_read_back overload attached external abr router v6
    rw [h1, h2, h3, h4, h5, h6]
    exact Decodes.pure _
  | igpMetric | opaqueLinkAttribute | opaquePrefixAttribute | opaqueNodeAttribute | isIsArea =>
    cases hcode
    cases h
    exact ⟨_, rfl⟩
  | sharedRiskLinkGroup groups =>
    cases hcode
    cases h
    have hgroups : parseTillEmpty (ε := BgpLsAttributeParsingError)
        (beU32 >>= fun value => pure ⟨value⟩)
        (groups.flatMap fun group : SharedRiskLinkGroupValue => octets group.value)
          = .ok ([], groups) :=
      parseTillEmpty_ok fun group _ =>
        ⟨(decodes_beU32 group.value).map _, octets_ne_nil group.value (by decide)⟩
    exact ⟨[], Parser.run_map hgroups _⟩
  | igpRouteTag tags =>
    cases hcode
    cases h
    have htags : parseTillEmpty (ε := BgpLsAttributeParsingError) beU32 (tags.flatMap octets)
        = .ok ([], tags) :=
      parseTillEmpty_ok fun tag _ => ⟨decodes_beU32 tag, octets_ne_nil tag (by decide)⟩
    exact ⟨[], Parser.run_map htags _⟩
  | igpExtendedRouteTag tags =>
    cases hcode
    cases h
    have htags : parseTillEmpty (ε := BgpLsAttributeParsingError) beU64 (tags.flatMap octets)
        = .ok ([], tags) :=
      parseTillEmpty_ok fun tag _ => ⟨decodes_beU64 tag, octets_ne_nil tag (by decide)⟩
    exact ⟨[], Parser.run_map htags _⟩
  | multiTopologyIdentifier data =>
    cases hcode
    cases h
    exact ⟨[], Parser.run_map (data.fromWire_write hcanonical) _⟩
  | linkName name =>
    cases hcode
    cases h
    exact ⟨_, ((decodes_parseString hfit).map _).run_nil⟩
  | nodeNameTlv name =>
    cases hcode
    rw [writeValue] at h
    split at h <;> cases h
    exact ⟨_, ((decodes_parseString hfit).map _).run_nil⟩
  | peerNodeSid sid | peerAdjSid sid | peerSetSid sid =>
    cases hcode
    cases h
    exact ⟨_, ((BgpLsPeerSid.decodes hcanonical).map _).run_nil⟩
  | linkProtectionType | ospfForwardingAddress => exact hagrees.elim
  | unknown => cases hcode

theorem rawCode_of_code {type : BgpLsAttributeType} (h : value.code = .ok type) :
    BgpLsAttributeType.tryFrom value.rawCode = some type := by
  rw [BgpLsAttributeValue.rawCode, h]
  exact BgpLsAttributeType.tryFrom_code type

theorem write_eq_ok (h : value.write = .ok bytes) :
    ∃ body, value.writeValue = .ok body ∧
      bytes = writeTlvHeaderT16L16 value.rawCode (BitVec.ofNat 16 value.len) ++ body := by
  rw [write] at h
  cases hbody : value.writeValue with
  | error e =>
    rw [hbody] at h
    cases h
  | ok body =>
    rw [hbody] at h
    cases h
    exact ⟨body, rfl, rfl⟩

theorem decodes (h : value.write = .ok bytes) (hagrees : value.LengthAgrees)
    (hcanonical : value.Canonical) (hfit : value.len ≤ 4 + 65535) :
    Decodes fromWire bytes value := by
  obtain ⟨body, hbody, rfl⟩ := write_eq_ok h
  have hlen := (writeValue_length_iff hbody).mpr hagrees
  have hfit : body.length < 2 ^ 16 := by omega
  have hheader : Decodes (readTlvHeaderT16L16 (ε := BgpLsAttributeParsingError))
      (writeTlvHeaderT16L16 value.rawCode (BitVec.ofNat 16 value.len) ++ body)
      (value.rawCode, BitVec.ofNat 16 body.length, body) := by
    rw [writeTlvHeaderT16L16, ← hlen, tlv_length_sub, List.append_assoc]
    refine (decodes_beU16 _).bind <| (decodes_beU16 _).bind <| (decodes_take ?_).map _
    rw [BitVec.toNat_ofNat, Nat.mod_eq_of_lt hfit]
  refine hheader.last ?_
  dsimp only
  cases hcode : value.code with
  | ok type =>
    obtain ⟨left, hread⟩ := parseValue_writeValue hcode hbody hagrees hcanonical hfit
    rw [rawCode_of_code hcode]
    exact Decodes.within hread
  | error code =>
    cases value with
    | unknown code =>
      cases hbody
      obtain ⟨hunregistered, hhigh⟩ := hcanonical
      rw [show (unknown code body).rawCode = code from rfl, hunregistered]
      dsimp only
      rw [if_neg hhigh]
      exact Decodes.pure _
    | _ => cases hcode

/-! ## What is read -/

theorem yields_peerSid (length : BitVec 16) :
    Yields (BgpLsPeerSid.fromWire length) BgpLsPeerSid.Canonical := by
  refine Yields.andThen fun flags => Yields.andThen fun weight => Yields.andThen fun _ => ?_
  split
  next h => exact Yields.andThen fun label => Yields.pure h.2
  next =>
    split
    next h => exact Yields.andThen fun index => Yields.pure (Bool.eq_false_iff.mpr h.2)
    next => exact Yields.fail

theorem yields_parseValue (tlvLength : BitVec 16) (type : BgpLsAttributeType) :
    Yields (parseValue tlvLength type) Canonical := by
  cases type with
  | multiTopologyIdentifier =>
    have hid : Yields (MultiTopologyId.fromWire (ε := BgpLsAttributeParsingError))
        MultiTopologyId.Canonical :=
      Yields.andThen fun v => Yields.pure (MultiTopologyId.ofU16_canonical v)
    have hdata : Yields (MultiTopologyIdData.fromWire (ε := BgpLsAttributeParsingError))
        fun data => ∀ id ∈ data.ids, id.Canonical :=
      (Yields.parseTillEmpty hid).bind fun ids hids => Yields.pure hids
    exact hdata.bind fun data h => Yields.pure h
  | peerNodeSid | peerAdjSid | peerSetSid =>
    exact (yields_peerSid tlvLength).bind fun sid h => Yields.pure h
  | ospfForwardingAddress =>
    rw [parseValue]
    split
    next => exact Yields.andThen fun _ => Yields.pure trivial
    next =>
      split
      next => exact Yields.andThen fun _ => Yields.pure trivial
      next => exact Yields.fail
  | unreservedBandwidth =>
    refine Yields.andThen fun bandwidths => ?_
    split
    next => exact Yields.pure trivial
    next => exact Yields.fail
  | _ => exact Yields.andThen fun _ => Yields.pure trivial

theorem yields_fromWire : Yields fromWire Canonical := by
  refine Yields.andThen fun (tlvType, tlvLength, data) => ?_
  dsimp only
  cases htype : BgpLsAttributeType.tryFrom tlvType with
  | some type => exact (yields_parseValue tlvLength type).within
  | none =>
    dsimp only
    split
    next => exact Yields.fail
    next hhigh => exact Yields.pure ⟨htype, hhigh⟩

/-! ## The codec of one value -/

/-- The length field of a TLV. -/
def tlvLengthField (bytes : Octets) : Nat := (ofOctets 16 ((bytes.drop 2).take 2)).toNat

/-- What is written has the announced size, its length field counts the octets
behind the header, and it is read back completely as the same value. -/
structure CodecAgrees (value : BgpLsAttributeValue) (bytes : Octets) : Prop where
  size : bytes.length = value.len
  field : tlvLengthField bytes = bytes.length - 4
  read : fromWire bytes = .ok ([], value)

/-- The values on which length, writer and parser agree. -/
structure Encodable (value : BgpLsAttributeValue) : Prop where
  agrees : value.LengthAgrees
  canonical : value.Canonical
  fits : value.len ≤ 4 + 65535

theorem tlvLengthField_write (type length : BitVec 16) (body : Octets) :
    tlvLengthField (writeTlvHeaderT16L16 type length ++ body) = (length - 4).toNat := by
  have hcut : ((writeTlvHeaderT16L16 type length ++ body).drop 2).take 2 = octets (length - 4) := by
    rw [writeTlvHeaderT16L16, List.append_assoc]
    rw [List.drop_append_of_le_length (by simp)]
    rw [List.drop_eq_nil_of_le (by simp), List.nil_append, List.take_left' (by simp)]
  rw [tlvLengthField, hcut, ofOctets_octets (by decide)]

theorem codecAgrees_iff (h : value.write = .ok bytes) :
    CodecAgrees value bytes ↔ value.Encodable := by
  obtain ⟨body, hbody, rfl⟩ := write_eq_ok h
  have hsize : (writeTlvHeaderT16L16 value.rawCode (BitVec.ofNat 16 value.len) ++ body).length
      = 4 + body.length := by
    rw [List.length_append]
    rfl
  constructor
  · rintro ⟨hlength, hfield, hread⟩
    rw [hsize] at hlength hfield
    rw [tlvLengthField_write, ← hlength, tlv_length_sub, BitVec.toNat_ofNat] at hfield
    refine ⟨(writeValue_length_iff hbody).mp hlength, yields_fromWire _ _ _ hread, ?_⟩
    omega
  · rintro ⟨hagrees, hcanonical, hfits⟩
    have hlength := (writeValue_length_iff hbody).mpr hagrees
    refine ⟨hsize.trans hlength, ?_, (decodes h hagrees hcanonical hfits).run_nil⟩
    rw [tlvLengthField_write, hsize, ← hlength, tlv_length_sub, BitVec.toNat_ofNat]
    omega

end BgpLsAttributeValue

/-! ## The codec of the attribute -/

namespace BgpLsAttribute

variable {attr : BgpLsAttribute} {extendedLength : Bool}

theorem write_eq_ok (h : attr.write extendedLength = .ok bytes) :
    (∀ value ∈ attr.attributes,
      value.write = .ok (written BgpLsAttributeValue.write value)) ∧
    bytes = writeLength (attr.len extendedLength) extendedLength ++
      attr.attributes.flatMap (written BgpLsAttributeValue.write) := by
  rw [write] at h
  cases htlvs : writeAll BgpLsAttributeValue.write attr.attributes with
  | error e =>
    rw [htlvs] at h
    cases h
  | ok tlvs =>
    rw [htlvs] at h
    cases h
    obtain ⟨heach, rfl⟩ := writeAll_eq_ok htlvs
    exact ⟨heach, rfl⟩

/-- Every value agrees with what is written for it, and the whole attribute is
read back. -/
structure CodecAgrees (attr : BgpLsAttribute) (extendedLength : Bool) (bytes : Octets) : Prop where
  values : ∀ value ∈ attr.attributes, value.CodecAgrees (written BgpLsAttributeValue.write value)
  read : fromWire extendedLength bytes = .ok ([], attr)

/-- The attributes of encodable values that fit the length field. -/
structure Encodable (attr : BgpLsAttribute) (extendedLength : Bool) : Prop where
  values : ∀ value ∈ attr.attributes, value.Encodable
  fits : (attr.attributes.map BgpLsAttributeValue.len).sum ≤ maxValueLength extendedLength

theorem decodes (h : attr.write extendedLength = .ok bytes) (hok : attr.Encodable extendedLength) :
    Decodes (fromWire extendedLength) bytes attr := by
  obtain ⟨heach, rfl⟩ := write_eq_ok h
  have hagree := fun value hvalue =>
    (BgpLsAttributeValue.codecAgrees_iff (heach value hvalue)).mpr (hok.values value hvalue)
  have hsize : (attr.attributes.flatMap (written BgpLsAttributeValue.write)).length
      = (attr.attributes.map BgpLsAttributeValue.len).sum :=
    length_flatMap_of fun value hvalue => (hagree value hvalue).size
  have hread : parseTillEmpty BgpLsAttributeValue.fromWire
      (attr.attributes.flatMap (written BgpLsAttributeValue.write)) = .ok ([], attr.attributes) := by
    refine parseTillEmpty_ok fun value hvalue => ⟨?_, ?_⟩
    · obtain ⟨hagrees, hcanonical, hfits⟩ := hok.values value hvalue
      exact BgpLsAttributeValue.decodes (heach value hvalue) hagrees hcanonical hfits
    · rw [← List.length_pos_iff, (hagree value hvalue).size]
      exact Nat.lt_of_lt_of_le (by decide) (Nat.le_add_right 4 _)
  have hdata := decodes_attributeData (ε := BgpLsAttributeParsingError) (hsize.trans_le hok.fits)
  rw [hsize] at hdata
  exact hdata.last <| (Decodes.within hread).map _

theorem codecAgrees_iff (h : attr.write extendedLength = .ok bytes) :
    attr.CodecAgrees extendedLength bytes ↔ attr.Encodable extendedLength := by
  obtain ⟨heach, hbytes⟩ := write_eq_ok h
  constructor
  · rintro ⟨hvalues, hread⟩
    have hsize : (attr.attributes.flatMap (written BgpLsAttributeValue.write)).length
        = (attr.attributes.map BgpLsAttributeValue.len).sum :=
      length_flatMap_of fun value hvalue => (hvalues value hvalue).size
    refine ⟨fun value hvalue =>
      (BgpLsAttributeValue.codecAgrees_iff (heach value hvalue)).mp (hvalues value hvalue), ?_⟩
    -- nothing is left, so the length field covered all values
    obtain ⟨mid, data, hdata, hrest⟩ := Parser.bind_eq_ok hread
    obtain ⟨left, attributes, hwithin, hlast⟩ := Parser.bind_eq_ok hrest
    cases hlast
    obtain ⟨rfl, -⟩ := Parser.within_eq_ok.mp hwithin
    rw [hbytes, len, ← hsize] at hdata
    exact hsize ▸ attributeData_fits hdata
  · intro hok
    refine ⟨fun value hvalue => ?_, (decodes h hok).run_nil⟩
    exact (BgpLsAttributeValue.codecAgrees_iff (heach value hvalue)).mpr (hok.values value hvalue)

end BgpLsAttribute

/-- **The BGP-LS attribute.** A value whose writing succeeds has the announced
size, a length field that counts its octets, and is read back completely,
exactly when it is neither a link protection type nor an OSPF forwarding
address, is a value the parser can produce, and fits the length field. An
attribute of such values is read back as the same list exactly when it also
fits its own length field. -/
theorem link_state_codec_iff (attr : BgpLsAttribute) (extendedLength : Bool) :
    (∀ (value : BgpLsAttributeValue) (bytes : Octets), value.write = .ok bytes →
      (value.CodecAgrees bytes ↔ value.Encodable)) ∧
    ∀ bytes : Octets, attr.write extendedLength = .ok bytes →
      (attr.CodecAgrees extendedLength bytes ↔ attr.Encodable extendedLength) :=
  ⟨fun _ _ h => BgpLsAttributeValue.codecAgrees_iff h,
    fun _ h => BgpLsAttribute.codecAgrees_iff h⟩

/-- A metric and a protocol mask in one attribute. -/
def metricAndMask : BgpLsAttribute :=
  ⟨[.teDefaultMetric 7, .mplsProtocolMask true false]⟩

theorem metricAndMask_agrees :
    metricAndMask.CodecAgrees false
      [13, 4, 68, 0, 4, 0, 0, 0, 7, 4, 70, 0, 1, 128] := by
  refine ((link_state_codec_iff metricAndMask false).2 _ rfl).mpr ⟨?_, by decide⟩
  intro value hvalue
  rw [metricAndMask, List.mem_pair] at hvalue
  obtain rfl | rfl := hvalue
  · exact ⟨trivial, trivial, by decide⟩
  · exact ⟨trivial, trivial, by decide⟩

/-- An OSPF forwarding address is announced with four octets and written with
five: the length comes first, which the parser takes for the address. -/
theorem ospfForwardingAddress_differs :
    ∃ bytes, (BgpLsAttributeValue.ospfForwardingAddress (.v4 0x0a000001)).write = .ok bytes ∧
      bytes.length = 9 ∧
      (BgpLsAttributeValue.ospfForwardingAddress (.v4 0x0a000001)).len = 8 ∧
      BgpLsAttributeValue.fromWire bytes
        = .ok ([1], .ospfForwardingAddress (.v4 0x040a0000)) :=
  ⟨_, rfl, rfl, rfl, rfl⟩

end NetCalyx.Bgp
