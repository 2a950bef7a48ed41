import NetCalyx.Bgp.ParsingError

/-!
# Encoding of capabilities

Writers, lengths and parsers of the capabilities of an OPEN message. A
capability is read back exactly when it is `Canonical` and its value fits the
one-octet length field: `decodes_capability` is one direction, and
`yields_capability` says that the parser returns nothing else.
-/

namespace NetCalyx.Bgp
open Wire NetCalyx.Iana BgpCapability List

/-! ## Address types -/

/-- Errors about the two numbers of an address type. -/
class AddressTypeError (ε : Type) where
  undefinedAfi : BitVec 16 → ε
  undefinedSafi : BitVec 8 → ε
  invalidAddressType : AddressFamily → SubsequentAddressFamily → ε

instance : AddressTypeError MultiProtocolExtensionsCapabilityParsingError :=
  ⟨.addressFamilyError, .subsequentAddressFamilyError, .addressTypeError⟩

instance : AddressTypeError AddressTypesParsingError :=
  ⟨.addressFamilyError, .subsequentAddressFamilyError, .addressTypeError⟩

instance : AddressTypeError AddPathCapabilityParsingError :=
  ⟨.addressFamilyError, .subsequentAddressFamilyError, .addressTypeError⟩

instance : AddressTypeError MultipleLabelParsingError :=
  ⟨.addressFamilyError, .subsequentAddressFamilyError, .addressTypeError⟩

section AddressTypes

variable {ε : Type} [NomError ε] [AddressTypeError ε]

def parseAfi : Parser ε AddressFamily :=
  mapRes beU16 fun afi =>
    (AddressFamily.tryFrom afi).elim (.error (AddressTypeError.undefinedAfi afi)) .ok

def parseSafi : Parser ε SubsequentAddressFamily :=
  mapRes beU8 fun safi =>
    (SubsequentAddressFamily.tryFrom safi).elim (.error (AddressTypeError.undefinedSafi safi)) .ok

def addressTypeOf (afi : AddressFamily) (safi : SubsequentAddressFamily) : Parser ε AddressType :=
  .lift ((AddressType.fromAfiSafi afi safi).elim
    (.error (AddressTypeError.invalidAddressType afi safi)) .ok)

theorem decodes_parseAfi (afi : AddressFamily) :
    Decodes (parseAfi : Parser ε _) (octets afi.code) afi :=
  (decodes_beU16 _).mapRes (by simp)

theorem decodes_parseSafi (safi : SubsequentAddressFamily) :
    Decodes (parseSafi : Parser ε _) [safi.code] safi :=
  (decodes_beU8 _).mapRes (by simp)

omit [NomError ε] in
theorem decodes_addressTypeOf (addressType : AddressType) :
    Decodes (addressTypeOf addressType.addressFamily addressType.subsequentAddressFamily :
      Parser ε _) [] addressType := by
  intro rest
  simp [addressTypeOf, AddressType.fromAfiSafi_components, Parser.lift]

end AddressTypes

/-! ## Writers -/

def multiProtocolExtensionsCapabilityWrite (addressType : AddressType) : Octets :=
  octets addressType.addressFamily.code ++ [0, addressType.subsequentAddressFamily.code]

def GracefulRestartAddressFamily.write (family : GracefulRestartAddressFamily) : Octets :=
  octets family.addressType.addressFamily.code ++
    [family.addressType.subsequentAddressFamily.code, if family.forwardingState then 0x80 else 0]

/-- The two flags share the field with the time. -/
def GracefulRestartCapability.write (cap : GracefulRestartCapability) : Octets :=
  octets ((if cap.restart then 0x8000 else 0) ||| (if cap.gracefulNotification then 0x4000 else 0)
      ||| cap.time) ++
    cap.addressFamilies.flatMap GracefulRestartAddressFamily.write

def AddPathAddressFamily.write (family : AddPathAddressFamily) : Octets :=
  octets family.addressType.addressFamily.code ++
    [family.addressType.subsequentAddressFamily.code,
      (if family.send then 2 else 0) ||| (if family.receive then 1 else 0)]

def ExtendedNextHopEncoding.write (encoding : ExtendedNextHopEncoding) : Octets :=
  octets encoding.addressType.addressFamily.code ++
    octets (encoding.addressType.subsequentAddressFamily.code.setWidth 16) ++
    octets encoding.nextHopAfi.code

variable (encodings : List ExtendedNextHopEncoding)

def extendedNextHopEncodingCapabilityLen : Nat :=
  1 + 6 * encodings.length

/-- This capability writes its own length octet. -/
def extendedNextHopEncodingCapabilityWrite : Octets :=
  (BitVec.ofNat 8 (extendedNextHopEncodingCapabilityLen encodings) - 1) ::
    encodings.flatMap ExtendedNextHopEncoding.write

def MultipleLabel.write (label : MultipleLabel) : Octets :=
  octets label.addressType.addressFamily.code ++
    [label.addressType.subsequentAddressFamily.code, label.count]

namespace BgpCapability

def len (cap : BgpCapability) : Nat :=
  2 + match cap with
    | multiProtocolExtensions _ => 4
    | routeRefresh | enhancedRouteRefresh | ciscoRouteRefresh | extendedMessage => 0
    | fourOctetAs _ => 4
    | gracefulRestartCapability cap => 4 + 4 * cap.addressFamilies.length - 2
    | addPath families => 4 * families.length
    | extendedNextHopEncoding encodings => extendedNextHopEncodingCapabilityLen encodings - 1
    | multipleLabels cap => 4 * cap.labels.length
    | bgpRole _ => 1
    | experimental cap => cap.value.length
    | unrecognized cap => cap.value.length

def write (cap : BgpCapability) : Octets :=
  let len := BitVec.ofNat 8 (cap.len - 2)
  match cap with
  | multiProtocolExtensions addressType =>
    [BgpCapabilityCode.multiProtocolExtensions.code, 4] ++
      multiProtocolExtensionsCapabilityWrite addressType
  | routeRefresh => [BgpCapabilityCode.routeRefreshCapability.code, len]
  | enhancedRouteRefresh => [BgpCapabilityCode.enhancedRouteRefresh.code, len]
  | ciscoRouteRefresh => [BgpCapabilityCode.ciscoRouteRefresh.code, len]
  | extendedMessage => [BgpCapabilityCode.bgpExtendedMessage.code, len]
  | multipleLabels cap =>
    [BgpCapabilityCode.multipleLabelsCapability.code, len] ++ cap.labels.flatMap MultipleLabel.write
  | bgpRole role => [BgpCapabilityCode.bgpRole.code, len, role.code]
  | gracefulRestartCapability cap =>
    [BgpCapabilityCode.gracefulRestartCapability.code, len] ++ cap.write
  | addPath families =>
    [BgpCapabilityCode.addPathCapability.code, len] ++ families.flatMap AddPathAddressFamily.write
  | fourOctetAs asn4 => [BgpCapabilityCode.fourOctetAs.code, 4] ++ octets asn4
  | extendedNextHopEncoding encodings =>
    BgpCapabilityCode.extendedNextHopEncoding.code ::
      extendedNextHopEncodingCapabilityWrite encodings
  | experimental cap => [cap.code.toCapabilityCode.code, len] ++ cap.value
  | unrecognized cap => [cap.code, len] ++ cap.value

end BgpCapability

/-! ## Parsers -/

/-- A length octet with only one admissible value. -/
def checkCapabilityLength {ε : Type} [NomError ε] (expected : BitVec 8) (err : BitVec 8 → ε) :
    Parser ε (BitVec 8) :=
  mapRes beU8 fun length => if length ≠ expected then .error (err length) else .ok length

def multiProtocolExtensionsCapabilityFromWire :
    Parser MultiProtocolExtensionsCapabilityParsingError AddressType := do
  let _ ← checkCapabilityLength 4 .invalidLength
  let afi ← parseAfi
  let _ ← beU8
  let safi ← parseSafi
  addressTypeOf afi safi

def fourOctetAsCapabilityFromWire : Parser FourOctetAsCapabilityParsingError (BitVec 32) := do
  let _ ← checkCapabilityLength 4 .invalidLength
  beU32

def GracefulRestartAddressFamily.fromWire :
    Parser GracefulRestartCapabilityParsingError GracefulRestartAddressFamily := do
  let data ← take 4
  .within data do
    let afi ← parseAfi
    let safi ← parseSafi
    let addressType ← addressTypeOf afi safi
    let flags ← beU8
    return ⟨flags &&& 0x80 == 0x80, addressType⟩

def GracefulRestartCapability.fromWire :
    Parser GracefulRestartCapabilityParsingError GracefulRestartCapability := do
  let params ← lengthData beU8
  .within params do
    let header ← beU16
    let families ← parseTillEmpty GracefulRestartAddressFamily.fromWire
    return ⟨header &&& 0x8000 == 0x8000, header &&& 0x4000 == 0x4000, header &&& 0x0fff, families⟩

def AddPathAddressFamily.fromWire : Parser AddPathCapabilityParsingError AddPathAddressFamily := do
  let afi ← parseAfi
  let safi ← parseSafi
  let addressType ← addressTypeOf afi safi
  let (receive, send) ← mapRes beU8 fun sendReceive =>
    if sendReceive > 0x03 then .error (.invalidAddPathSendReceiveValue sendReceive)
    else .ok (sendReceive &&& 0x01 == 0x01, sendReceive &&& 0x02 == 0x02)
  return ⟨addressType, send, receive⟩

def addPathCapabilityFromWire :
    Parser AddPathCapabilityParsingError (List AddPathAddressFamily) := do
  let params ← lengthData beU8
  .within params (parseTillEmpty AddPathAddressFamily.fromWire)

def ExtendedNextHopEncoding.fromWire :
    Parser ExtendedNextHopEncodingCapabilityParsingError ExtendedNextHopEncoding := do
  let data ← take 6
  .within data do
    let afi ← parseAfi
    -- two octets on the wire, of which only the low one counts
    let safi ← mapRes beU16 fun safi =>
      (SubsequentAddressFamily.tryFrom (safi.setWidth 8)).elim
        (.error (.subsequentAddressFamilyError (safi.setWidth 8))) .ok
    let addressType ← addressTypeOf afi safi
    let nextHopAfi ← parseAfi
    return ⟨addressType, nextHopAfi⟩

def extendedNextHopEncodingCapabilityFromWire :
    Parser ExtendedNextHopEncodingCapabilityParsingError (List ExtendedNextHopEncoding) := do
  let data ← lengthData beU8
  .within data (parseTillEmpty ExtendedNextHopEncoding.fromWire)

def MultipleLabel.fromWire : Parser MultipleLabelParsingError MultipleLabel := do
  let afi ← parseAfi
  let safi ← parseSafi
  let addressType ← addressTypeOf afi safi
  let count ← beU8
  return ⟨addressType, count⟩

def bgpRoleCapabilityFromWire : Parser BgpRoleCapabilityParsingError BgpRoleValue := do
  let _ ← checkCapabilityLength 1 .invalidLength
  mapRes beU8 fun role => (BgpRoleValue.tryFrom role).elim (.error (.undefinedBgpRoleValue role)) .ok

/-- A length octet, then that many octets one by one. -/
def lengthCount {ε : Type} [NomError ε] : Parser ε Octets := do
  let n ← beU8
  count beU8 n.toNat

def parseUnrecognizedCapability (code : BitVec 8) :
    Parser BgpCapabilityParsingError BgpCapability := do
  let value ← lengthCount
  return .unrecognized ⟨code, value⟩

def parseExperimentalCapability (code : ExperimentalCapabilityCode) :
    Parser BgpCapabilityParsingError BgpCapability := do
  let value ← lengthCount
  return .experimental ⟨code, value⟩

/-- The rest of a capability whose code is registered. -/
def parseRegisteredCapability : BgpCapabilityCode → Parser BgpCapabilityParsingError BgpCapability
  | .multiProtocolExtensions => do
    let addressType ← multiProtocolExtensionsCapabilityFromWire.mapErr
      .multiProtocolExtensionsCapabilityError
    return .multiProtocolExtensions addressType
  | .routeRefreshCapability => do
    let _ ← checkCapabilityLength 0 .invalidRouteRefreshLength
    return .routeRefresh
  | .extendedNextHopEncoding => do
    let encodings ← extendedNextHopEncodingCapabilityFromWire.mapErr
      .extendedNextHopEncodingCapabilityError
    return .extendedNextHopEncoding encodings
  | .ciscoRouteRefresh => do
    let _ ← checkCapabilityLength 0 .invalidRouteRefreshLength
    return .ciscoRouteRefresh
  | .bgpExtendedMessage => do
    let _ ← checkCapabilityLength 0 .invalidExtendedMessageLength
    return .extendedMessage
  | .multipleLabelsCapability => do
    let data ← lengthData beU8
    let labels ← .within data ((parseTillEmpty MultipleLabel.fromWire).mapErr .multipleLabelError)
    match MultipleLabelsCapability.new labels with
    | some cap => return .multipleLabels cap
    | none => .fail (.multipleLabelError (.tooManyMultipleLabelsError labels.length))
  | .bgpRole => do
    let role ← bgpRoleCapabilityFromWire.mapErr .bgpRoleCapabilityError
    return .bgpRole role
  | .gracefulRestartCapability => do
    let cap ← GracefulRestartCapability.fromWire.mapErr .gracefulRestartCapabilityError
    return .gracefulRestartCapability cap
  | .fourOctetAs => do
    let asn4 ← fourOctetAsCapabilityFromWire.mapErr .fourOctetAsCapabilityError
    return .fourOctetAs asn4
  | .addPathCapability => do
    let families ← addPathCapabilityFromWire.mapErr .addPathCapabilityError
    return .addPath families
  | .enhancedRouteRefresh => do
    let _ ← checkCapabilityLength 0 .invalidEnhancedRouteRefreshLength
    return .enhancedRouteRefresh
  | .experimental239 => parseExperimentalCapability .experimental239
  | .experimental240 => parseExperimentalCapability .experimental240
  | .experimental241 => parseExperimentalCapability .experimental241
  | .experimental242 => parseExperimentalCapability .experimental242
  | .experimental243 => parseExperimentalCapability .experimental243
  | .experimental244 => parseExperimentalCapability .experimental244
  | .experimental245 => parseExperimentalCapability .experimental245
  | .experimental246 => parseExperimentalCapability .experimental246
  | .experimental247 => parseExperimentalCapability .experimental247
  | .experimental248 => parseExperimentalCapability .experimental248
  | .experimental249 => parseExperimentalCapability .experimental249
  | .experimental250 => parseExperimentalCapability .experimental250
  | .experimental251 => parseExperimentalCapability .experimental251
  | .experimental252 => parseExperimentalCapability .experimental252
  | .experimental253 => parseExperimentalCapability .experimental253
  | .experimental254 => parseExperimentalCapability .experimental254
  -- registered, but kept as unrecognized
  | code@.outboundRouteFilteringCapability | code@.bgpSecCapability
  | code@.supportForDynamicCapability | code@.multiSessionBgpCapability
  | code@.longLivedGracefulRestartLLGRCapability | code@.routingPolicyDistribution
  | code@.fqdn => parseUnrecognizedCapability code.code

def BgpCapability.fromWire : Parser BgpCapabilityParsingError BgpCapability := do
  let code ← beU8
  match BgpCapabilityCode.tryFrom code with
  | some code => parseRegisteredCapability code
  | none => parseUnrecognizedCapability code

/-! ## Sizes -/

variable (family : GracefulRestartAddressFamily)

theorem GracefulRestartAddressFamily.write_length : family.write.length = 4 := by
  simp [write]

theorem AddPathAddressFamily.write_length (family : AddPathAddressFamily) :
    family.write.length = 4 := by
  simp [write]

theorem ExtendedNextHopEncoding.write_length (encoding : ExtendedNextHopEncoding) :
    encoding.write.length = 6 := by
  simp [write]

theorem MultipleLabel.write_length (label : MultipleLabel) : label.write.length = 4 := by
  simp [write]

theorem GracefulRestartCapability.write_length (cap : GracefulRestartCapability) :
    cap.write.length = 2 + 4 * cap.addressFamilies.length := by
  simp [write, length_flatMap_const GracefulRestartAddressFamily.write_length]

/-- Every capability writes as many octets as it announces. -/
theorem BgpCapability.write_length (cap : BgpCapability) : cap.write.length = cap.len := by
  cases cap with
  | multiProtocolExtensions | fourOctetAs =>
    simp [write, len, multiProtocolExtensionsCapabilityWrite]
  | routeRefresh | enhancedRouteRefresh | ciscoRouteRefresh | extendedMessage | bgpRole => rfl
  | gracefulRestartCapability cap =>
    simp only [write, len, length_append, GracefulRestartCapability.write_length,
      length_cons, length_nil]
    omega
  | addPath families =>
    simp only [write, len, length_append, length_cons, length_nil,
      length_flatMap_const AddPathAddressFamily.write_length]
  | multipleLabels cap =>
    simp only [write, len, length_append, length_cons, length_nil,
      length_flatMap_const MultipleLabel.write_length]
  | extendedNextHopEncoding encodings =>
    simp only [write, len, extendedNextHopEncodingCapabilityWrite,
      extendedNextHopEncodingCapabilityLen, length_cons,
      length_flatMap_const ExtendedNextHopEncoding.write_length]
    omega
  | experimental | unrecognized =>
    simp only [write, len, length_append, length_cons, length_nil]

/-! ## Reading back -/

theorem decodes_checkCapabilityLength {ε : Type} [NomError ε] (expected : BitVec 8)
    (err : BitVec 8 → ε) : Decodes (checkCapabilityLength expected err) [expected] expected :=
  (decodes_beU8 _).mapRes (by simp)

theorem forwardingFlag : ∀ set : Bool,
    ((if set then (0x80 : BitVec 8) else 0) &&& 0x80 == 0x80) = set := by
  decide

theorem sendReceiveFlags : ∀ send receive : Bool,
    let flags : BitVec 8 := (if send then 2 else 0) ||| (if receive then 1 else 0)
    ¬ flags > 0x03 ∧ (flags &&& 0x01 == 0x01) = receive ∧ (flags &&& 0x02 == 0x02) = send := by
  decide

theorem GracefulRestartAddressFamily.decodes : Decodes fromWire family.write family := by
  refine Decodes.delimited (decodes_take family.write_length) (Decodes.run_nil ?_)
  refine (decodes_parseAfi _).bind <| (decodes_parseSafi _).bind <|
    (decodes_addressTypeOf family.addressType).bind <| (decodes_beU8 _).last ?_
  rw [forwardingFlag]
  exact Decodes.pure family

theorem AddPathAddressFamily.decodes (family : AddPathAddressFamily) :
    Decodes fromWire family.write family := by
  obtain ⟨hle, hreceive, hsend⟩ := sendReceiveFlags family.send family.receive
  refine (decodes_parseAfi _).bind <| (decodes_parseSafi _).bind <|
    (decodes_addressTypeOf family.addressType).bind <|
    ((decodes_beU8 _).mapRes (b := (family.receive, family.send)) ?_).map _
  rw [if_neg hle, hreceive, hsend]

theorem ExtendedNextHopEncoding.decodes (encoding : ExtendedNextHopEncoding) :
    Decodes fromWire encoding.write encoding := by
  refine Decodes.delimited (decodes_take encoding.write_length) (Decodes.run_nil ?_)
  rw [write, append_assoc]
  exact (decodes_parseAfi _).bind <| ((decodes_beU16 _).mapRes (by simp)).bind <|
    (decodes_addressTypeOf encoding.addressType).bind <| (decodes_parseAfi _).map _

theorem MultipleLabel.decodes (label : MultipleLabel) : Decodes fromWire label.write label :=
  (decodes_parseAfi _).bind <| (decodes_parseSafi _).bind <|
    (decodes_addressTypeOf label.addressType).bind <| (decodes_beU8 _).map _

/-- Records of one positive size in a row are read back one by one. -/
theorem parseTillEmpty_records {ε α : Type} [NomError ε] {p : Parser ε α} {enc : α → Octets}
    {k : Nat} (hdec : ∀ a, Decodes p (enc a) a) (hlen : ∀ a, (enc a).length = k + 1)
    (as : List α) : parseTillEmpty p (as.flatMap enc) = .ok ([], as) :=
  parseTillEmpty_ok fun a _ => ⟨hdec a, ne_nil_of_length_eq_add_one (hlen a)⟩

/-- The time survives beside the two flags when it leaves their bits alone. -/
theorem gracefulRestart_header {time : BitVec 16} (htime : time &&& 0x0fff = time) :
    ∀ restart notification : Bool,
      let header := (if restart then 0x8000 else 0) ||| (if notification then 0x4000 else 0) ||| time
      (header &&& 0x8000 == 0x8000) = restart ∧ (header &&& 0x4000 == 0x4000) = notification ∧
        header &&& 0x0fff = time := by
  have hmask : ∀ mask : BitVec 16, 0x0fff &&& mask = 0#16 → time &&& mask = 0#16 := by
    intro mask hdisjoint
    rw [← htime, BitVec.and_assoc, hdisjoint, BitVec.and_zero]
  have h8000 : time &&& 0x8000#16 = 0#16 := hmask _ (by decide)
  have h4000 : time &&& 0x4000#16 = 0#16 := hmask _ (by decide)
  have h0fff : time &&& 0x0fff#16 = time := htime
  intro restart notification
  refine ⟨?_, ?_, ?_⟩ <;> cases restart <;> cases notification <;>
    simp [BitVec.and_or_distrib_right, h8000, h4000, h0fff]

theorem GracefulRestartCapability.decodes {cap : GracefulRestartCapability}
    (htime : cap.time &&& 0x0fff = cap.time) (hfit : cap.write.length < 256) :
    Decodes fromWire (BitVec.ofNat 8 cap.write.length :: cap.write) cap := by
  refine Decodes.delimited (decodes_lengthData_u8 hfit) (?_ : _ = Except.ok ([], cap))
  obtain ⟨hrestart, hnotification, htime⟩ :=
    gracefulRestart_header htime cap.restart cap.gracefulNotification
  have hfamilies := parseTillEmpty_records GracefulRestartAddressFamily.decodes
    GracefulRestartAddressFamily.write_length cap.addressFamilies
  rw [Parser.bind_apply, write, decodes_beU16]
  simp only [Parser.bind_apply, hfamilies, hrestart, hnotification, htime]
  rfl

theorem decodes_lengthCount {ε : Type} [NomError ε] {value : Octets} (hfit : value.length < 256) :
    Decodes (lengthCount : Parser ε Octets) (BitVec.ofNat 8 value.length :: value) value := by
  refine (decodes_beU8 _).bind ?_
  rw [BitVec.toNat_ofNat, Nat.mod_eq_of_lt hfit]
  exact decodes_countU8 rfl

theorem ExperimentalCapabilityCode.parse (code : ExperimentalCapabilityCode) :
    parseRegisteredCapability code.toCapabilityCode = parseExperimentalCapability code := by
  cases code <;> rfl

/-- Codes whose capabilities are kept as unrecognized. -/
def unrecognizedCode (code : BitVec 8) : Bool :=
  match BgpCapabilityCode.tryFrom code with
  | none | some .outboundRouteFilteringCapability | some .bgpSecCapability
  | some .supportForDynamicCapability | some .multiSessionBgpCapability
  | some .longLivedGracefulRestartLLGRCapability | some .routingPolicyDistribution
  | some .fqdn => true
  | _ => false

/-- Capabilities as the parser builds them: a restart time has twelve bits, and
a capability is unrecognized only under a code nothing else is parsed from. -/
def BgpCapability.Canonical : BgpCapability → Prop
  | gracefulRestartCapability cap => cap.time &&& 0x0fff = cap.time
  | unrecognized cap => unrecognizedCode cap.code
  | _ => True

/-- A capability is read back once its registered code has been read. -/
theorem decodes_registered {code : BgpCapabilityCode} {bs : Octets} {cap : BgpCapability}
    (h : Decodes (parseRegisteredCapability code) bs cap) :
    Decodes BgpCapability.fromWire (code.code :: bs) cap := by
  refine (decodes_beU8 code.code).bind ?_
  rw [BgpCapabilityCode.tryFrom_code]
  exact h

theorem decodes_unrecognized {cap : UnrecognizedCapability} (hcode : unrecognizedCode cap.code)
    (hfit : cap.value.length < 256) :
    Decodes BgpCapability.fromWire ([cap.code, BitVec.ofNat 8 cap.value.length] ++ cap.value)
      (.unrecognized cap) := by
  have hvalue : Decodes (parseUnrecognizedCapability cap.code)
      (BitVec.ofNat 8 cap.value.length :: cap.value) (.unrecognized cap) :=
    (decodes_lengthCount hfit).map _
  refine (decodes_beU8 cap.code).bind ?_
  cases hregistered : BgpCapabilityCode.tryFrom cap.code with
  | none => exact hvalue
  | some code =>
    rw [← code_of_fromRepr hregistered] at hvalue
    rw [unrecognizedCode, hregistered] at hcode
    cases code <;> first | exact hvalue | cases hcode

theorem decodes_capability {cap : BgpCapability} (hcanonical : cap.Canonical)
    (hfit : cap.len < 2 + 256) : Decodes BgpCapability.fromWire cap.write cap := by
  cases cap with
  | multiProtocolExtensions addressType =>
    exact decodes_registered <| Decodes.map (Decodes.mapErr
      ((decodes_checkCapabilityLength _ _).bind <| (decodes_parseAfi _).bind <|
        (decodes_beU8 0).bind <| (decodes_parseSafi _).last (decodes_addressTypeOf addressType)) _) _
  | routeRefresh | enhancedRouteRefresh | ciscoRouteRefresh | extendedMessage =>
    exact decodes_registered <| (decodes_checkCapabilityLength _ _).map _
  | gracefulRestartCapability cap =>
    have hvalue : (gracefulRestartCapability cap).len - 2 = cap.write.length := by
      rw [cap.write_length, BgpCapability.len]
      omega
    simp only [BgpCapability.write, hvalue]
    exact decodes_registered <| Decodes.map
      ((GracefulRestartCapability.decodes hcanonical (by omega)).mapErr _) _
  | addPath families =>
    have hvalue : (addPath families).len - 2
        = (families.flatMap AddPathAddressFamily.write).length := by
      rw [length_flatMap_const AddPathAddressFamily.write_length, BgpCapability.len]
      omega
    simp only [BgpCapability.write, hvalue]
    exact decodes_registered <| Decodes.map (Decodes.mapErr (Decodes.delimited
      (decodes_lengthData_u8 (by omega))
      (parseTillEmpty_records AddPathAddressFamily.decodes AddPathAddressFamily.write_length
        families)) _) _
  | multipleLabels cap =>
    have hvalue : (multipleLabels cap).len - 2
        = (cap.labels.flatMap MultipleLabel.write).length := by
      rw [length_flatMap_const MultipleLabel.write_length, BgpCapability.len]
      omega
    have hnew : MultipleLabelsCapability.new cap.labels = some cap := dif_pos cap.le
    simp only [BgpCapability.write, hvalue]
    refine decodes_registered <| (decodes_lengthData_u8 (by omega)).last <|
      (Decodes.within (Parser.mapErr_eq_ok.mpr (parseTillEmpty_records MultipleLabel.decodes
        MultipleLabel.write_length cap.labels))).last ?_
    rw [hnew]
    exact Decodes.pure _
  | bgpRole role =>
    exact decodes_registered <| Decodes.map (Decodes.mapErr
      ((decodes_checkCapabilityLength _ _).bind <| (decodes_beU8 _).mapRes (by simp)) _) _
  | fourOctetAs asn4 =>
    exact decodes_registered <| Decodes.map (Decodes.mapErr
      ((decodes_checkCapabilityLength _ _).bind (decodes_beU32 asn4)) _) _
  | extendedNextHopEncoding encodings =>
    have hvalue : BitVec.ofNat 8 (extendedNextHopEncodingCapabilityLen encodings) - 1
        = BitVec.ofNat 8 (encodings.flatMap ExtendedNextHopEncoding.write).length := by
      rw [length_flatMap_const ExtendedNextHopEncoding.write_length,
        extendedNextHopEncodingCapabilityLen, Nat.add_comm, BitVec.ofNat_add]
      exact BitVec.add_sub_cancel _ _
    have hdata : (encodings.flatMap ExtendedNextHopEncoding.write).length < 256 := by
      rw [length_flatMap_const ExtendedNextHopEncoding.write_length]
      rw [BgpCapability.len, extendedNextHopEncodingCapabilityLen] at hfit
      omega
    simp only [BgpCapability.write, extendedNextHopEncodingCapabilityWrite, hvalue]
    exact decodes_registered <| Decodes.map (Decodes.mapErr (Decodes.delimited
      (decodes_lengthData_u8 hdata)
      (parseTillEmpty_records ExtendedNextHopEncoding.decodes ExtendedNextHopEncoding.write_length
        encodings)) _) _
  | experimental cap =>
    have hvalue : (experimental cap).len - 2 = cap.value.length := by
      rw [BgpCapability.len, Nat.add_sub_cancel_left]
    simp only [BgpCapability.write, hvalue]
    refine decodes_registered ?_
    rw [ExperimentalCapabilityCode.parse]
    exact (decodes_lengthCount (by omega)).map _
  | unrecognized cap =>
    have hvalue : (unrecognized cap).len - 2 = cap.value.length := by
      rw [BgpCapability.len, Nat.add_sub_cancel_left]
    simp only [BgpCapability.write, hvalue]
    exact decodes_unrecognized hcanonical (by omega)

/-! ## What is read -/

theorem GracefulRestartCapability.yields :
    Yields fromWire fun cap : GracefulRestartCapability => cap.time &&& 0x0fff = cap.time := by
  refine Yields.andThen fun params => Yields.within <| Yields.andThen fun header =>
    Yields.andThen fun families => Yields.pure ?_
  rw [BitVec.and_assoc, BitVec.and_self]

theorem yields_unrecognized {code : BitVec 8} (hcode : unrecognizedCode code) :
    Yields (parseUnrecognizedCapability code) Canonical :=
  Yields.andThen fun _ => Yields.pure hcode

/-- Nothing but canonical capabilities is ever read. -/
theorem yields_capability : Yields BgpCapability.fromWire Canonical := by
  refine Yields.andThen fun octet => ?_
  cases hregistered : BgpCapabilityCode.tryFrom octet with
  | none =>
    refine yields_unrecognized ?_
    rw [unrecognizedCode, hregistered]
  | some code =>
    cases code with
    | gracefulRestartCapability =>
      exact Yields.bind (Yields.mapErr GracefulRestartCapability.yields) fun _ h => Yields.pure h
    | outboundRouteFilteringCapability | bgpSecCapability | supportForDynamicCapability
    | multiSessionBgpCapability | longLivedGracefulRestartLLGRCapability
    | routingPolicyDistribution | fqdn => exact yields_unrecognized (by decide)
    | multipleLabelsCapability =>
      refine Yields.andThen fun _ => Yields.andThen fun labels => ?_
      cases MultipleLabelsCapability.new labels with
      | none => exact Yields.fail
      | some cap => exact Yields.pure trivial
    | _ => exact Yields.andThen fun _ => Yields.pure trivial

end NetCalyx.Bgp
