import NetCalyx.Bgp.Codec.Nlri

/-!
# Encoding of EVPN and route target routes

An EVPN route is a type, a length of one octet and a body of that length; the
parser keeps the body of a type it does not know. A route target route is a
length in bits and an origin AS followed by a part of a route target.
-/

namespace NetCalyx.Bgp
open Wire Parser List

/-! ## Addresses in routes -/

/-- An address behind its length in bits. -/
def ipBitsWrite : IpAddr → Octets
  | .v4 addr => 32 :: octets addr
  | .v6 addr => 128 :: octets addr

@[simp] theorem ipBitsWrite_length (addr : IpAddr) :
    (ipBitsWrite addr).length = 1 + ipAddrLen addr := by
  cases addr <;> simp [ipBitsWrite, ipAddrLen]

/-- An address behind its length in bits; `invalid` is the error for any other
length. -/
def parseIpBits {ε : Type} [NomError ε] (invalid : BitVec 8 → ε) : Parser ε IpAddr := do
  let ipLen ← beU8
  if ipLen = 32 then
    let ip ← beU32
    return .v4 ip
  else if ipLen = 128 then
    let ip ← beU128
    return .v6 ip
  else .fail (invalid ipLen)

def MacAddress.fromWire : Parser MacAddressParsingError MacAddress := takeArray 6

def EthernetSegmentIdentifier.fromWire :
    Parser EthernetSegmentIdentifierParsingError EthernetSegmentIdentifier := takeArray 10

def EthernetTag.fromWire : Parser EthernetTagParsingError EthernetTag := beU32

/-! ## Route bodies -/

def EthernetAutoDiscovery.len (route : EthernetAutoDiscovery) : Nat :=
  route.rd.len + 10 + 4 + 3

def EthernetAutoDiscovery.write (route : EthernetAutoDiscovery) : Octets :=
  route.rd.write ++ route.segmentId.val ++ octets route.tag ++ route.mplsLabel.write

def EthernetAutoDiscovery.fromWire :
    Parser EthernetAutoDiscoveryParsingError EthernetAutoDiscovery := do
  let rd ← RouteDistinguisher.fromWire.mapErr .routeDistinguisherError
  let segmentId ← EthernetSegmentIdentifier.fromWire.mapErr .ethernetSegmentIdentifierError
  let tag ← EthernetTag.fromWire.mapErr .ethernetTagError
  let mplsLabel ← MplsLabel.fromWire.mapErr .mplsLabelError
  return ⟨rd, segmentId, tag, mplsLabel⟩

def MacIpAdvertisement.len (route : MacIpAdvertisement) : Nat :=
  2 + route.rd.len + 10 + 4 + 6 + route.ip.elim 0 ipAddrLen + 3 + route.mplsLabel2.elim 0 fun _ => 3

def MacIpAdvertisement.write (route : MacIpAdvertisement) : Octets :=
  route.rd.write ++ route.segmentId.val ++ octets route.tag ++ 48 :: route.mac.val ++
    route.ip.elim [0] ipBitsWrite ++ route.mplsLabel1.write ++
    route.mplsLabel2.elim [] MplsLabel.write

/-- The address of a MAC/IP advertisement may be absent. -/
def parseOptionalIpBits {ε : Type} [NomError ε] (invalid : BitVec 8 → ε) :
    Parser ε (Option IpAddr) := do
  let ipLen ← beU8
  if ipLen = 0 then return none
  else if ipLen = 32 then
    let ip ← beU32
    return some (.v4 ip)
  else if ipLen = 128 then
    let ip ← beU128
    return some (.v6 ip)
  else .fail (invalid ipLen)

/-- A second label is read where octets are left. -/
def MacIpAdvertisement.fromWire :
    Parser MacIpAdvertisementParsingError MacIpAdvertisement := do
  let rd ← RouteDistinguisher.fromWire.mapErr .routeDistinguisherError
  let segmentId ← EthernetSegmentIdentifier.fromWire.mapErr .ethernetSegmentIdentifierError
  let tag ← EthernetTag.fromWire.mapErr .ethernetTagError
  let macLen ← beU8
  if macLen ≠ 48 then .fail (.invalidMacAddressLength macLen)
  else
    let mac ← MacAddress.fromWire.mapErr .macAddressError
    let ip ← parseOptionalIpBits .invalidIpAddressAddressLength
    let mplsLabel1 ← MplsLabel.fromWire.mapErr .mplsLabelError
    let buf ← .input
    if buf.length > 0 then
      let mplsLabel2 ← MplsLabel.fromWire.mapErr .mplsLabelError
      return ⟨rd, segmentId, tag, mac, ip, mplsLabel1, some mplsLabel2⟩
    else return ⟨rd, segmentId, tag, mac, ip, mplsLabel1, none⟩

def InclusiveMulticastEthernetTagRoute.len (route : InclusiveMulticastEthernetTagRoute) : Nat :=
  1 + route.rd.len + 4 + ipAddrLen route.ip

def InclusiveMulticastEthernetTagRoute.write (route : InclusiveMulticastEthernetTagRoute) :
    Octets :=
  route.rd.write ++ octets route.tag ++ ipBitsWrite route.ip

def InclusiveMulticastEthernetTagRoute.fromWire :
    Parser InclusiveMulticastEthernetTagRouteParsingError InclusiveMulticastEthernetTagRoute := do
  let rd ← RouteDistinguisher.fromWire.mapErr .routeDistinguisherError
  let tag ← EthernetTag.fromWire.mapErr .ethernetTagError
  let ip ← parseIpBits .invalidIpAddressAddressLength
  return ⟨rd, tag, ip⟩

def EthernetSegmentRoute.len (route : EthernetSegmentRoute) : Nat :=
  1 + route.rd.len + 10 + ipAddrLen route.ip

def EthernetSegmentRoute.write (route : EthernetSegmentRoute) : Octets :=
  route.rd.write ++ route.segmentId.val ++ ipBitsWrite route.ip

def EthernetSegmentRoute.fromWire :
    Parser EthernetSegmentRouteParsingError EthernetSegmentRoute := do
  let rd ← RouteDistinguisher.fromWire.mapErr .routeDistinguisherError
  let segmentId ← EthernetSegmentIdentifier.fromWire.mapErr .ethernetSegmentIdentifierError
  let ip ← parseIpBits .invalidIpAddressAddressLength
  return ⟨rd, segmentId, ip⟩

section PrefixRoutes

variable {w : Nat}

/-- Prefix and gateway take `w` bits each; the prefix is written in full. -/
def L2EvpnPrefixRoute.len (route : L2EvpnPrefixRoute w) : Nat :=
  1 + 2 * (w / 8) + 3 + route.rd.len + 10 + 4

def L2EvpnPrefixRoute.write (route : L2EvpnPrefixRoute w) : Octets :=
  route.rd.write ++ route.segmentId.val ++ octets route.tag ++
    BitVec.ofNat 8 route.net.prefixLen :: octets route.net.network ++ octets route.gateway ++
    route.label.write

def L2EvpnPrefixRoute.fromWire :
    Parser L2EvpnFamilyPrefixRouteParsingError (L2EvpnPrefixRoute w) := do
  let rd ← RouteDistinguisher.fromWire.mapErr .routeDistinguisherError
  let segmentId ← EthernetSegmentIdentifier.fromWire.mapErr .ethernetSegmentIdentifierError
  let tag ← EthernetTag.fromWire.mapErr .ethernetTagError
  let prefixLen ← beU8
  let network ← beUint w
  match IpNet.new network prefixLen.toNat with
  | none => .fail (.prefixError (.invalidPrefixLen prefixLen))
  | some net =>
    let gateway ← beUint w
    let label ← MplsLabel.fromWire.mapErr .mplsLabelError
    return ⟨rd, segmentId, tag, net, gateway, label⟩

end PrefixRoutes

def L2EvpnIpPrefixRoute.len : L2EvpnIpPrefixRoute → Nat
  | v4 route => route.len
  | v6 route => route.len

def L2EvpnIpPrefixRoute.write : L2EvpnIpPrefixRoute → Octets
  | v4 route => route.write
  | v6 route => route.write

/-- The family of a prefix route follows from its size. -/
def L2EvpnIpPrefixRoute.fromWire :
    Parser L2EvpnIpPrefixRouteParsingError L2EvpnIpPrefixRoute := do
  let buf ← .input
  if buf.length = 34 then
    let route ← L2EvpnPrefixRoute.fromWire.mapErr .l2EvpnIpv4PrefixRouteError
    return .v4 route
  else if buf.length = 58 then
    let route ← L2EvpnPrefixRoute.fromWire.mapErr .l2EvpnIpv6PrefixRouteError
    return .v6 route
  else .fail (.invalidBufferLength buf.length)

/-! ## Routes -/

namespace L2EvpnRoute

def routeType : L2EvpnRoute → Except (BitVec 8) L2EvpnRouteTypeCode
  | ethernetAutoDiscovery _ => .ok .ethernetAutoDiscovery
  | macIpAdvertisement _ => .ok .macIpAdvertisement
  | inclusiveMulticastEthernetTagRoute _ => .ok .inclusiveMulticastEthernetTagRoute
  | ethernetSegmentRoute _ => .ok .ethernetSegmentRoute
  | ipPrefixRoute _ => .ok .ipPrefix
  | unknown code _ => .error code

def len (route : L2EvpnRoute) : Nat :=
  2 + match route with
    | ethernetAutoDiscovery value => value.len
    | macIpAdvertisement value => value.len
    | inclusiveMulticastEthernetTagRoute value => value.len
    | ethernetSegmentRoute value => value.len
    | ipPrefixRoute value => value.len
    | unknown _ value => value.length

def writeValue : L2EvpnRoute → Octets
  | ethernetAutoDiscovery value => value.write
  | macIpAdvertisement value => value.write
  | inclusiveMulticastEthernetTagRoute value => value.write
  | ethernetSegmentRoute value => value.write
  | ipPrefixRoute value => value.write
  | unknown _ value => value

def write (route : L2EvpnRoute) : Octets :=
  rawCode L2EvpnRouteTypeCode.code route.routeType :: BitVec.ofNat 8 (route.len - 2) ::
    route.writeValue

def fromWire : Parser L2EvpnRouteParsingError L2EvpnRoute := do
  let typCode ← beU8
  let len ← beU8
  let routeBuf ← take len.toNat
  match L2EvpnRouteTypeCode.tryFrom typCode with
  | some .ethernetAutoDiscovery =>
    let value ← .within routeBuf
      (EthernetAutoDiscovery.fromWire.mapErr .ethernetAutoDiscoveryError)
    return ethernetAutoDiscovery value
  | some .macIpAdvertisement =>
    let value ← .within routeBuf (MacIpAdvertisement.fromWire.mapErr .macIpAdvertisementError)
    return macIpAdvertisement value
  | some .inclusiveMulticastEthernetTagRoute =>
    let value ← .within routeBuf (InclusiveMulticastEthernetTagRoute.fromWire.mapErr
      .inclusiveMulticastEthernetTagRouteError)
    return inclusiveMulticastEthernetTagRoute value
  | some .ethernetSegmentRoute =>
    let value ← .within routeBuf
      (EthernetSegmentRoute.fromWire.mapErr .ethernetSegmentRouteError)
    return ethernetSegmentRoute value
  | some .ipPrefix =>
    let value ← .within routeBuf (L2EvpnIpPrefixRoute.fromWire.mapErr .l2EvpnIpPrefixRouteError)
    return ipPrefixRoute value
  | _ => return unknown typCode routeBuf

end L2EvpnRoute

def L2EvpnAddress.len (address : L2EvpnAddress) : Nat :=
  pathIdLen address.pathId + address.route.len

def L2EvpnAddress.write (address : L2EvpnAddress) : Octets :=
  pathIdWrite address.pathId ++ address.route.write

def L2EvpnAddress.fromWire (addPath : Bool) : Parser L2EvpnAddressParsingError L2EvpnAddress := do
  let pathId ← parsePathId addPath
  let route ← L2EvpnRoute.fromWire.mapErr .l2EvpnRouteError
  return ⟨pathId, route⟩

/-! ## Route target membership -/

def RouteTargetMembership.len (membership : RouteTargetMembership) : Nat :=
  4 + membership.routeTarget.length

def RouteTargetMembership.write (membership : RouteTargetMembership) : Octets :=
  octets membership.originAs ++ membership.routeTarget

def RouteTargetMembership.fromWire (prefixLen : BitVec 8) :
    Parser RouteTargetMembershipParsingError RouteTargetMembership := do
  let originAs ← beU32
  let routeTarget ← count beU8 ((prefixLen.toNat - 32) / 8)
  return ⟨originAs, routeTarget⟩

def RouteTargetMembershipAddress.len (address : RouteTargetMembershipAddress) : Nat :=
  1 + pathIdLen address.pathId + address.membership.elim 0 RouteTargetMembership.len

/-- The length in bits is narrowed to one octet. -/
def RouteTargetMembershipAddress.write (address : RouteTargetMembershipAddress) : Octets :=
  pathIdWrite address.pathId ++ address.membership.elim [0] fun membership =>
    BitVec.ofNat 8 (membership.len * 8) :: membership.write

def RouteTargetMembershipAddress.fromWire (addPath : Bool) :
    Parser RouteTargetMembershipAddressParsingError RouteTargetMembershipAddress := do
  let pathId ← parsePathId addPath
  let prefixLen ← beU8
  if prefixLen = 0 then return ⟨pathId, none⟩
  else if ¬ (32 ≤ prefixLen ∧ prefixLen ≤ 96) then .fail (.invalidPrefixLen prefixLen)
  else
    let membership ← (RouteTargetMembership.fromWire prefixLen).mapErr .routeTargetMembershipError
    return ⟨pathId, some membership⟩

/-! ## Sizes -/

theorem EthernetAutoDiscovery.write_length (route : EthernetAutoDiscovery) :
    route.write.length = route.len := by
  have hsegment : route.segmentId.val.length = 10 := route.segmentId.property
  simp [write, len, RouteDistinguisher.len, hsegment]

theorem MacIpAdvertisement.write_length (route : MacIpAdvertisement) :
    route.write.length = route.len := by
  have hsegment : route.segmentId.val.length = 10 := route.segmentId.property
  have hmac : route.mac.val.length = 6 := route.mac.property
  have hip : (route.ip.elim [0] ipBitsWrite).length = 1 + route.ip.elim 0 ipAddrLen := by
    cases route.ip <;> simp
  have hlabel : (route.mplsLabel2.elim [] MplsLabel.write).length
      = route.mplsLabel2.elim 0 fun _ => 3 := by
    cases route.mplsLabel2 <;> simp
  simp only [write, len, length_append, length_cons, RouteDistinguisher.write_length,
    RouteDistinguisher.len, octets_length, MplsLabel.write_length, hsegment, hmac, hip, hlabel]
  omega

variable (route : InclusiveMulticastEthernetTagRoute)

theorem InclusiveMulticastEthernetTagRoute.write_length : route.write.length = route.len := by
  simp only [write, len, length_append, RouteDistinguisher.write_length,
    RouteDistinguisher.len, octets_length, ipBitsWrite_length]
  omega

theorem EthernetSegmentRoute.write_length (route : EthernetSegmentRoute) :
    route.write.length = route.len := by
  have hsegment : route.segmentId.val.length = 10 := route.segmentId.property
  simp only [write, len, length_append, RouteDistinguisher.write_length,
    RouteDistinguisher.len, ipBitsWrite_length, hsegment]
  omega

theorem L2EvpnPrefixRoute.write_length {w : Nat} (route : L2EvpnPrefixRoute w) :
    route.write.length = route.len := by
  have hsegment : route.segmentId.val.length = 10 := route.segmentId.property
  simp only [write, len, length_append, length_cons, RouteDistinguisher.write_length,
    RouteDistinguisher.len, octets_length, MplsLabel.write_length, hsegment]
  omega

theorem L2EvpnRoute.write_length (route : L2EvpnRoute) : route.write.length = route.len := by
  have hvalue : 2 + route.writeValue.length = route.len := by
    rw [len.eq_def]
    cases route with
    | ethernetAutoDiscovery value | macIpAdvertisement value => rw [writeValue, value.write_length]
    | inclusiveMulticastEthernetTagRoute value | ethernetSegmentRoute value =>
      rw [writeValue, value.write_length]
    | ipPrefixRoute value => cases value <;> exact congrArg (2 + ·) (L2EvpnPrefixRoute.write_length _)
    | unknown => rfl
  rw [write, length_cons, length_cons, ← hvalue]
  omega

theorem L2EvpnAddress.write_length (address : L2EvpnAddress) :
    address.write.length = address.len := by
  rw [write, len, length_append, pathIdWrite_length, L2EvpnRoute.write_length]

theorem RouteTargetMembershipAddress.write_length (address : RouteTargetMembershipAddress) :
    address.write.length = address.len := by
  rw [write, len, length_append, pathIdWrite_length]
  cases address.membership with
  | none => simp only [Option.elim, length_singleton]; omega
  | some membership =>
    simp only [Option.elim, length_cons, RouteTargetMembership.write,
      RouteTargetMembership.len, length_append, octets_length]
    omega

/-! ## Reading back -/

theorem decodes_parseIpBits {ε : Type} [NomError ε] (invalid : BitVec 8 → ε) (addr : IpAddr) :
    Decodes (parseIpBits invalid) (ipBitsWrite addr) addr := by
  cases addr with
  | v4 addr => exact (decodes_beU8 32).bind ((decodes_beU32 addr).map IpAddr.v4)
  | v6 addr => exact (decodes_beU8 128).bind ((decodes_beU128 addr).map IpAddr.v6)

theorem decodes_parseOptionalIpBits {ε : Type} [NomError ε] (invalid : BitVec 8 → ε)
    (addr : Option IpAddr) :
    Decodes (parseOptionalIpBits invalid) (addr.elim [0] ipBitsWrite) addr := by
  cases addr with
  | none => exact (decodes_beU8 0).last (Decodes.pure none)
  | some addr =>
    cases addr with
    | v4 addr => exact (decodes_beU8 32).bind ((decodes_beU32 addr).map (some ∘ IpAddr.v4))
    | v6 addr => exact (decodes_beU8 128).bind ((decodes_beU128 addr).map (some ∘ IpAddr.v6))

theorem MacAddress.decodes (mac : MacAddress) : Decodes fromWire mac.val mac :=
  decodes_takeArray mac

theorem EthernetSegmentIdentifier.decodes (segmentId : EthernetSegmentIdentifier) :
    Decodes fromWire segmentId.val segmentId :=
  decodes_takeArray segmentId

theorem EthernetTag.decodes (tag : EthernetTag) : Decodes fromWire (octets tag) tag :=
  decodes_beU32 tag

theorem EthernetAutoDiscovery.decodes (route : EthernetAutoDiscovery) :
    Decodes fromWire route.write route := by
  simp only [write, append_assoc]
  exact (route.rd.decodes.mapErr _).bind <| ((EthernetSegmentIdentifier.decodes _).mapErr _).bind <|
    ((EthernetTag.decodes _).mapErr _).bind <| (route.mplsLabel.decodes.mapErr _).map _

/-- The second label is read exactly where the body has room for it. -/
theorem MacIpAdvertisement.reads (route : MacIpAdvertisement) :
    fromWire route.write = .ok ([], route) := by
  obtain ⟨rd, segmentId, tag, mac, ip, mplsLabel1, mplsLabel2⟩ := route
  simp only [write, append_assoc, cons_append]
  rw [fromWire, (rd.decodes.mapErr _).run_bind,
    ((EthernetSegmentIdentifier.decodes segmentId).mapErr _).run_bind,
    ((EthernetTag.decodes tag).mapErr _).run_bind, beU8_bind, if_neg (by decide),
    ((MacAddress.decodes mac).mapErr _).run_bind, (decodes_parseOptionalIpBits _ ip).run_bind,
    (mplsLabel1.decodes.mapErr _).run_bind, input_bind]
  cases mplsLabel2 with
  | none => rfl
  | some label =>
    rw [Option.elim_some, if_pos (by rw [label.write_length]; decide)]
    exact ((label.decodes.mapErr _).map _).run_nil

theorem InclusiveMulticastEthernetTagRoute.decodes : Decodes fromWire route.write route := by
  simp only [write, append_assoc]
  exact (route.rd.decodes.mapErr _).bind <| ((EthernetTag.decodes _).mapErr _).bind <|
    (decodes_parseIpBits _ _).map _

theorem EthernetSegmentRoute.decodes (route : EthernetSegmentRoute) :
    Decodes fromWire route.write route := by
  simp only [write, append_assoc]
  exact (route.rd.decodes.mapErr _).bind <| ((EthernetSegmentIdentifier.decodes _).mapErr _).bind <|
    (decodes_parseIpBits _ _).map _

/-- The route with the host bits of its prefix cleared. -/
def L2EvpnPrefixRoute.masked {w : Nat} (route : L2EvpnPrefixRoute w) : L2EvpnPrefixRoute w :=
  { route with net := route.net.trunc }

theorem L2EvpnPrefixRoute.decodes {w : Nat} (hw : w % 8 = 0) (hle : w ≤ 128)
    (route : L2EvpnPrefixRoute w) : Decodes fromWire route.write route.masked := by
  have hlen := route.net.le
  have hbits : (BitVec.ofNat 8 route.net.prefixLen).toNat = route.net.prefixLen := by
    rw [BitVec.toNat_ofNat, Nat.mod_eq_of_lt (by omega)]
  have hnew : IpNet.new route.net.network (BitVec.ofNat 8 route.net.prefixLen).toNat =
      some route.net.trunc := by
    rw [hbits]
    exact IpNet.new_eq_some.mpr ⟨rfl, rfl⟩
  simp only [write, append_assoc, cons_append]
  refine (route.rd.decodes.mapErr _).bind <| ((EthernetSegmentIdentifier.decodes _).mapErr _).bind <|
    ((EthernetTag.decodes _).mapErr _).bind <| (decodes_beU8 _).bind <| (decodes_beUint hw _).bind ?_
  rw [hnew]
  exact (decodes_beUint hw _).bind ((route.label.decodes.mapErr _).map _)

def L2EvpnIpPrefixRoute.masked : L2EvpnIpPrefixRoute → L2EvpnIpPrefixRoute
  | v4 route => .v4 route.masked
  | v6 route => .v6 route.masked

theorem L2EvpnIpPrefixRoute.reads (route : L2EvpnIpPrefixRoute) :
    fromWire route.write = .ok ([], route.masked) := by
  cases route with
  | v4 route =>
    have hlen : route.write.length = 34 := route.write_length
    rw [fromWire, input_bind, write, if_pos hlen]
    exact ((route.decodes rfl (by decide)).mapErr _ |>.map _).run_nil
  | v6 route =>
    have hlen : route.write.length = 58 := route.write_length
    rw [fromWire, input_bind, write, if_neg (by omega), if_pos hlen]
    exact ((route.decodes rfl (by decide)).mapErr _ |>.map _).run_nil

namespace L2EvpnRoute

/-- The types whose body is taken apart. -/
def parsedTypes : List L2EvpnRouteTypeCode :=
  [.ethernetAutoDiscovery, .macIpAdvertisement, .inclusiveMulticastEthernetTagRoute,
    .ethernetSegmentRoute, .ipPrefix]

/-- An unknown route does not carry the code of a type that is taken apart. -/
def OwnCode : L2EvpnRoute → Prop
  | unknown code _ => ∀ typ ∈ parsedTypes, code ≠ typ.code
  | _ => True

def masked : L2EvpnRoute → L2EvpnRoute
  | ipPrefixRoute route => .ipPrefixRoute route.masked
  | route => route

theorem writeValue_length (route : L2EvpnRoute) : route.writeValue.length = route.len - 2 := by
  have hlen := route.write_length
  rw [write, length_cons, length_cons] at hlen
  omega

theorem decodes {route : L2EvpnRoute} (hfit : route.writeValue.length ≤ 255)
    (hown : route.OwnCode) : Decodes fromWire route.write route.masked := by
  have hlen : route.writeValue.length = (BitVec.ofNat 8 (route.len - 2)).toNat := by
    rw [BitVec.toNat_ofNat, ← writeValue_length, Nat.mod_eq_of_lt (by omega)]
  refine (decodes_beU8 _).bind <| (decodes_beU8 _).bind <| (decodes_take hlen).last ?_
  cases route with
  | ethernetAutoDiscovery value =>
    exact (Decodes.within (mapErr_eq_ok.mpr value.decodes.run_nil)).map _
  | macIpAdvertisement value =>
    exact (Decodes.within (mapErr_eq_ok.mpr value.reads)).map _
  | inclusiveMulticastEthernetTagRoute value | ethernetSegmentRoute value =>
    exact (Decodes.within (mapErr_eq_ok.mpr value.decodes.run_nil)).map _
  | ipPrefixRoute value =>
    exact (Decodes.within (mapErr_eq_ok.mpr value.reads)).map _
  | unknown code value =>
    have hraw : rawCode L2EvpnRouteTypeCode.code (unknown code value).routeType = code := rfl
    rw [hraw]
    rcases htyp : L2EvpnRouteTypeCode.tryFrom code with _ | typ
    · exact Decodes.pure _
    · have hcode : typ.code = code := code_of_fromRepr htyp
      cases typ with
      | selectiveMulticastEthernetTagRoute | multicastMembershipReportSynchRoute
        | multicastLeaveSynchRoute => exact Decodes.pure _
      | _ => exact absurd hcode.symm (hown _ (by decide))

theorem yields_ownCode : Yields fromWire OwnCode := by
  refine Yields.andThen fun typCode => Yields.andThen fun len => Yields.andThen fun routeBuf => ?_
  rcases htyp : L2EvpnRouteTypeCode.tryFrom typCode with _ | typ
  · refine Yields.pure fun typ _ hcode => ?_
    rw [hcode, L2EvpnRouteTypeCode.tryFrom_code] at htyp
    cases htyp
  · have hcode : typ.code = typCode := code_of_fromRepr htyp
    cases typ with
    | selectiveMulticastEthernetTagRoute | multicastMembershipReportSynchRoute
      | multicastLeaveSynchRoute =>
      refine Yields.pure ?_
      rw [OwnCode, ← hcode]
      decide
    | _ => exact Yields.andThen fun value => Yields.pure trivial

/-- A route is read back as it was exactly if its prefix has no host bits and
its code is not that of another type. -/
theorem reads_back_iff {route : L2EvpnRoute} (hfit : route.writeValue.length ≤ 255) :
    fromWire route.write = .ok ([], route) ↔ route.OwnCode ∧ route.masked = route := by
  constructor
  · intro h
    have hown := yields_ownCode _ _ _ h
    rw [(decodes hfit hown).run_nil] at h
    simp only [Except.ok.injEq, Prod.mk.injEq, true_and] at h
    exact ⟨hown, h⟩
  · rintro ⟨hown, hmasked⟩
    have hread := (decodes hfit hown).run_nil
    rwa [hmasked] at hread

/-- The octets a type and a length announce. -/
def Announced (frame : Octets) : Prop :=
  ∃ typCode len body, frame = typCode :: len :: body ∧ body.length = len.toNat

theorem write_announced {route : L2EvpnRoute} (hfit : route.writeValue.length ≤ 255) :
    Announced route.write := by
  refine ⟨_, _, route.writeValue, rfl, ?_⟩
  rw [BitVec.toNat_ofNat, ← writeValue_length, Nat.mod_eq_of_lt (by omega)]

/-- Whatever is read was announced, and octets that follow make no difference. -/
theorem frames : Frames fromWire fun frame route => Announced frame ∧ Decodes fromWire frame route := by
  intro buf rest route h
  obtain ⟨mid, typCode, htyp, hbehindTyp⟩ := bind_eq_ok h
  obtain ⟨mid', len, hlen, hbehindLen⟩ := bind_eq_ok hbehindTyp
  obtain ⟨left, routeBuf, htake, hvalue⟩ := bind_eq_ok hbehindLen
  clear h hbehindTyp hbehindLen
  obtain rfl := beU8_eq_ok.mp htyp
  obtain rfl := beU8_eq_ok.mp hlen
  obtain ⟨hsize, rfl⟩ := takeOr_eq_ok.mp htake
  -- every type reads only the octets cut out for it
  have hstill : rest = left ∧ ∀ rest',
      fromWire (typCode :: len :: (routeBuf ++ rest')) = .ok (rest', route) := by
    simp only [fromWire, beU8_bind, (decodes_take hsize).run_bind]
    generalize L2EvpnRouteTypeCode.tryFrom typCode = typ at hvalue ⊢
    rcases typ with _ | typ
    · cases hvalue
      exact ⟨rfl, fun _ => rfl⟩
    · cases typ with
      | selectiveMulticastEthernetTagRoute | multicastMembershipReportSynchRoute
        | multicastLeaveSynchRoute =>
        cases hvalue
        exact ⟨rfl, fun _ => rfl⟩
      | _ => exact Decodes.of_within hvalue
  obtain ⟨rfl, hdecodes⟩ := hstill
  exact ⟨typCode :: len :: routeBuf, rfl, ⟨typCode, len, routeBuf, rfl, hsize⟩, hdecodes⟩

end L2EvpnRoute

/-! ## Routes behind path identifiers -/

/-- Octets behind a path identifier that satisfy `F`. -/
def BehindPathId (addPath : Bool) (F : Octets → Prop) (frame : Octets) : Prop :=
  ∃ front body, frame = front ++ body ∧ front.length = pathIdSize addPath ∧ F body

theorem behindPathId_write {F : Octets → Prop} {body : Octets} (pathId : Option (BitVec 32))
    (h : F body) : BehindPathId pathId.isSome F (pathIdWrite pathId ++ body) := by
  refine ⟨pathIdWrite pathId, body, rfl, ?_, h⟩
  cases pathId with
  | none => rfl
  | some pathId => exact octets_length pathId

theorem L2EvpnAddress.reads_back_iff {address : L2EvpnAddress}
    (hfit : address.route.writeValue.length ≤ 255) :
    fromWire address.pathId.isSome address.write = .ok ([], address) ↔
      address.route.OwnCode ∧ address.route.masked = address.route := by
  obtain ⟨pathId, own⟩ := address
  rw [← L2EvpnRoute.reads_back_iff hfit, fromWire, write, (decodes_parsePathId _).run_bind]
  constructor
  · intro h
    obtain ⟨mid, route, hroute, hbuilt⟩ := bind_eq_ok h
    cases hbuilt
    exact mapErr_eq_ok.mp hroute
  · intro h
    exact run_map (mapErr_eq_ok.mpr h) _

theorem L2EvpnAddress.frames (addPath : Bool) :
    Frames (fromWire addPath) fun frame address =>
      BehindPathId addPath L2EvpnRoute.Announced frame ∧ Decodes (fromWire addPath) frame address := by
  intro buf rest address h
  obtain ⟨mid, pathId, hpath, hbehind⟩ := bind_eq_ok h
  obtain ⟨left, route, hroute, hbuilt⟩ := bind_eq_ok hbehind
  cases hbuilt
  obtain ⟨front, rfl, hfront, hid⟩ := parsePathId_eq_ok hpath
  obtain ⟨body, rfl, hannounced, hbody⟩ := L2EvpnRoute.frames _ _ _ (mapErr_eq_ok.mp hroute)
  exact ⟨front ++ body, by rw [append_assoc], ⟨front, body, rfl, hfront, hannounced⟩,
    hid.bind ((hbody.mapErr _).map _)⟩

namespace RouteTargetMembershipAddress

/-- The octets a length in bits announces, if they are whole octets. -/
def Announced (frame : Octets) : Prop :=
  ∃ prefixLen body, frame = prefixLen :: body ∧
    (prefixLen.toNat % 8 = 0 → body.length = prefixLen.toNat / 8)

variable (address : RouteTargetMembershipAddress)

/-- At most eight octets of a route target are announced. -/
def Fits : Prop :=
  ∀ membership, address.membership = some membership → membership.routeTarget.length ≤ 8

theorem decodes_membership (membership : RouteTargetMembership) {prefixLen : BitVec 8}
    (h : (prefixLen.toNat - 32) / 8 = membership.routeTarget.length) :
    Decodes (RouteTargetMembership.fromWire prefixLen) membership.write membership :=
  (decodes_beU32 _).bind ((decodes_countU8 h.symm).map _)

theorem decodes {address : RouteTargetMembershipAddress} (hfits : address.Fits) :
    Decodes (fromWire address.pathId.isSome) address.write address := by
  obtain ⟨pathId, _ | membership⟩ := address
  · exact (decodes_parsePathId pathId).bind ((decodes_beU8 0).last (Decodes.pure _))
  · have hle : membership.routeTarget.length ≤ 8 := hfits membership rfl
    have hbits : (BitVec.ofNat 8 (membership.len * 8)).toNat =
        32 + 8 * membership.routeTarget.length := by
      rw [BitVec.toNat_ofNat, RouteTargetMembership.len]
      omega
    refine (decodes_parsePathId pathId).bind ((decodes_beU8 _).bind ?_)
    have hzero : BitVec.ofNat 8 (membership.len * 8) ≠ 0 := by
      intro hzero
      rw [hzero] at hbits
      simp at hbits
      omega
    have hrange : 32 ≤ BitVec.ofNat 8 (membership.len * 8) ∧
        BitVec.ofNat 8 (membership.len * 8) ≤ 96 := by
      rw [BitVec.le_def, BitVec.le_def, hbits]
      exact ⟨by simp, by simp; omega⟩
    rw [if_neg hzero, if_neg (not_not.mpr hrange)]
    exact ((decodes_membership membership (by omega)).mapErr _).map _

theorem yields_fits (addPath : Bool) : Yields (fromWire addPath) Fits := by
  refine Yields.andThen fun pathId => Yields.andThen fun prefixLen => ?_
  split
  · exact Yields.pure fun _ h => (nomatch h)
  · split
    · exact Yields.fail
    · rename_i hrange
      obtain ⟨-, hle⟩ := not_not.mp hrange
      have hle : prefixLen.toNat ≤ 96 := hle
      intro buf rest address h
      obtain ⟨mid, membership, hmembership, hbuilt⟩ := bind_eq_ok h
      obtain ⟨mid', originAs, -, hbehind⟩ := bind_eq_ok (mapErr_eq_ok.mp hmembership)
      obtain ⟨left, routeTarget, htarget, hmade⟩ := bind_eq_ok hbehind
      obtain ⟨hlen, -⟩ := countU8_eq_ok htarget
      cases hmade
      cases hbuilt
      intro membership hsome
      cases hsome
      change routeTarget.length ≤ 8
      omega

theorem reads_back_iff :
    fromWire address.pathId.isSome address.write = .ok ([], address) ↔ address.Fits :=
  ⟨fun h => yields_fits _ _ _ _ h, fun h => (decodes h).run_nil⟩

/-- The bits beyond the last whole octet are left to the next route. -/
theorem frames (addPath : Bool) :
    Frames (fromWire addPath) fun frame address =>
      BehindPathId addPath Announced frame ∧ Decodes (fromWire addPath) frame address := by
  intro buf rest address h
  obtain ⟨mid, pathId, hpath, hbehindPath⟩ := bind_eq_ok h
  obtain ⟨mid', prefixLen, hlen, hvalue⟩ := bind_eq_ok hbehindPath
  clear h hbehindPath
  obtain ⟨front, rfl, hfront, hid⟩ := parsePathId_eq_ok hpath
  obtain rfl := beU8_eq_ok.mp hlen
  by_cases hzero : prefixLen = 0
  · subst hzero
    cases hvalue
    refine ⟨front ++ [0], by simp, ⟨front, [0], rfl, hfront, 0, [], rfl, fun _ => rfl⟩, ?_⟩
    exact hid.bind ((decodes_beU8 0).last (Decodes.pure _))
  · rw [if_neg hzero] at hvalue
    by_cases hrange : 32 ≤ prefixLen ∧ prefixLen ≤ 96
    · rw [if_neg (not_not.mpr hrange)] at hvalue
      obtain ⟨left, membership, hmembership, hbuilt⟩ := bind_eq_ok hvalue
      obtain ⟨mid', originAs, horigin, hbehind⟩ :=
        bind_eq_ok (mapErr_eq_ok.mp hmembership)
      obtain ⟨left', routeTarget, htarget, hmade⟩ := bind_eq_ok hbehind
      obtain rfl := (beUint_eq_ok rfl).mp horigin
      obtain ⟨hsize, rfl⟩ := countU8_eq_ok htarget
      cases hmade
      cases hbuilt
      have hleast : 32 ≤ prefixLen.toNat := hrange.1
      have hdecodes := decodes_membership ⟨originAs, routeTarget⟩ hsize.symm
      refine ⟨front ++ prefixLen :: (octets originAs ++ routeTarget), by simp,
        ⟨front, _, rfl, hfront, prefixLen, _, rfl, fun hwhole => ?_⟩, ?_⟩
      · rw [length_append, octets_length, hsize]
        omega
      · refine hid.bind ((decodes_beU8 prefixLen).bind ?_)
        rw [if_neg hzero, if_neg (not_not.mpr hrange)]
        exact (hdecodes.mapErr _).map _
    · rw [if_pos hrange] at hvalue
      cases hvalue

end RouteTargetMembershipAddress

/-! ## Both directions -/

/-- A row of routes of a kind, each in the octets it announces. -/
def Aligned {ε α : Type} [NomError ε] (fromWire : Parser ε α) (announced : Octets → Prop) : Prop :=
  ∀ buf rest routes, parseTillEmpty fromWire buf = .ok (rest, routes) →
    rest = [] ∧ ∃ frames, buf = frames.flatten ∧
      List.Forall₂ (fun frame route => announced frame ∧ fromWire frame = .ok ([], route))
        frames routes

theorem aligned_of_frames {ε α : Type} [NomError ε] {fromWire : Parser ε α}
    {announced : Octets → Prop}
    (h : Frames fromWire fun frame route => announced frame ∧ Decodes fromWire frame route) :
    Aligned fromWire announced := by
  intro buf rest routes hread
  obtain ⟨hrest, frames, hbuf, hframes⟩ := h.parseTillEmpty hread
  exact ⟨hrest, frames, hbuf, hframes.imp fun _ _ hframe => ⟨hframe.1, hframe.2.run_nil⟩⟩

/-- Which routes are written in `len` octets, with the length of these, and read
back from them; and every route that is read was announced, alone and in a row. -/
theorem evpn_and_membership_exact :
    (∀ address : L2EvpnAddress, address.write.length = address.len ∧
      (address.route.writeValue.length ≤ 255 →
        BehindPathId address.pathId.isSome L2EvpnRoute.Announced address.write ∧
        (L2EvpnAddress.fromWire address.pathId.isSome address.write = .ok ([], address) ↔
          address.route.OwnCode ∧ address.route.masked = address.route))) ∧
    (∀ address : RouteTargetMembershipAddress, address.write.length = address.len ∧
      (RouteTargetMembershipAddress.fromWire address.pathId.isSome address.write =
        .ok ([], address) ↔ address.Fits)) ∧
    ∀ addPath,
      (∀ buf rest address, L2EvpnAddress.fromWire addPath buf = .ok (rest, address) →
        ∃ frame, buf = frame ++ rest ∧ BehindPathId addPath L2EvpnRoute.Announced frame) ∧
      (∀ buf rest address, RouteTargetMembershipAddress.fromWire addPath buf = .ok (rest, address) →
        ∃ frame, buf = frame ++ rest ∧
          BehindPathId addPath RouteTargetMembershipAddress.Announced frame) ∧
      Aligned (L2EvpnAddress.fromWire addPath) (BehindPathId addPath L2EvpnRoute.Announced) ∧
      Aligned (RouteTargetMembershipAddress.fromWire addPath)
        (BehindPathId addPath RouteTargetMembershipAddress.Announced) := by
  refine ⟨fun address => ⟨address.write_length, fun hfit => ⟨?_, ?_⟩⟩,
    fun address => ⟨address.write_length, address.reads_back_iff⟩, fun addPath => ⟨?_, ?_, ?_, ?_⟩⟩
  · exact behindPathId_write _ (L2EvpnRoute.write_announced hfit)
  · exact L2EvpnAddress.reads_back_iff hfit
  · intro buf rest address h
    obtain ⟨frame, hbuf, hannounced, -⟩ := L2EvpnAddress.frames addPath _ _ _ h
    exact ⟨frame, hbuf, hannounced⟩
  · intro buf rest address h
    obtain ⟨frame, hbuf, hannounced, -⟩ := RouteTargetMembershipAddress.frames addPath _ _ _ h
    exact ⟨frame, hbuf, hannounced⟩
  · exact aligned_of_frames (L2EvpnAddress.frames addPath)
  · exact aligned_of_frames (RouteTargetMembershipAddress.frames addPath)

/-- A route to a prefix of eight bits, written as `addr`. -/
def prefixRoute (addr : Ipv4Addr) : L2EvpnAddress :=
  ⟨none, .ipPrefixRoute (.v4 ⟨.as2Administrator 1 1, ⟨List.replicate 10 0, rfl⟩, 0,
    ⟨addr, 8, IpNet.eight_le⟩, 0, ⟨.three 0 0 1⟩⟩)⟩

theorem prefixRoute_read_back :
    L2EvpnAddress.fromWire false (prefixRoute 0x0a000000).write =
      .ok ([], prefixRoute 0x0a000000) :=
  ((evpn_and_membership_exact.1 (prefixRoute 0x0a000000)).2 (by decide)).2.mpr
    ⟨trivial, by decide⟩

/-- The host bits of a prefix are not written. -/
theorem prefixRoute_host_bits_lost :
    L2EvpnAddress.fromWire false (prefixRoute 0x0a000001).write ≠
      .ok ([], prefixRoute 0x0a000001) := by
  intro h
  have hclear := ((prefixRoute 0x0a000001).reads_back_iff (by decide)).mp h
  exact absurd hclear.2 (by decide)

end NetCalyx.Bgp
