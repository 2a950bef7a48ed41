import NetCalyx.Bgp.Codec.Stream
import NetCalyx.Wire.Settled
import Mathlib.Data.List.Flatten

/-!
# Lenient parsing of OPEN messages

A lenient parser passes over a capability that it cannot read. Where the parameters and
the capabilities are framed by their lengths, it finds the next capability again: no
parser of a capability reads behind the length of its capability (`settles_registered`),
and what is passed over is exactly what the length says.
-/

namespace NetCalyx.Bgp
open Wire BgpParsingIgnoredErrors List

/-! ## A capability stays within its length -/

section Settles

variable {ε : Type} [NomError ε]

theorem settles_parseAfi [AddressTypeError ε] {bs : Octets} (hlen : bs.length = 2) :
    Settles (parseAfi : Parser ε _) bs :=
  (Settles.beUint rfl hlen).mapRes _

theorem settles_parseSafi [AddressTypeError ε] (octet : Octet) :
    Settles (parseSafi : Parser ε _) [octet] :=
  (decodes_beU8 octet).settles.mapRes _

theorem whole_parseAfi [AddressTypeError ε] : Whole (parseAfi : Parser ε _) :=
  (Whole.beUint 16).mapRes _

theorem whole_parseSafi [AddressTypeError ε] : Whole (parseSafi : Parser ε _) :=
  (Whole.beUint 8).mapRes _

omit [NomError ε] in
theorem whole_addressTypeOf [AddressTypeError ε] (afi : Iana.AddressFamily)
    (safi : Iana.SubsequentAddressFamily) : Whole (addressTypeOf afi safi : Parser ε _) :=
  Whole.lift _

/-- A capability with only one length: it is refused by its length, or it has as many
octets as its parser reads. -/
theorem settles_checked {α : Type} {n : Nat} (hn : n < 256) {err : BitVec 8 → ε} {p : Parser ε α}
    {value : Octets} (hfit : value.length < 256) (hp : value.length = n → Settles p value) :
    Settles (checkCapabilityLength (BitVec.ofNat 8 n) err >>= fun _ => p)
      (BitVec.ofNat 8 value.length :: value) := by
  by_cases hlen : value.length = n
  · have hcheck : Settles (checkCapabilityLength (BitVec.ofNat 8 n) err)
        [BitVec.ofNat 8 value.length] := by
      rw [hlen]
      exact (decodes_checkCapabilityLength _ err).settles
    exact hcheck.bind fun _ => hp hlen
  · have hne : BitVec.ofNat 8 value.length ≠ BitVec.ofNat 8 n := by
      intro heq
      have := congrArg BitVec.toNat heq
      simp only [BitVec.toNat_ofNat] at this
      omega
    refine ⟨.error (err (BitVec.ofNat 8 value.length)), fun rest => ?_⟩
    have hcheck : checkCapabilityLength (BitVec.ofNat 8 n) err
        (BitVec.ofNat 8 value.length :: value ++ rest) =
        .error (.error (err (BitVec.ofNat 8 value.length))) := by
      refine ((decodes_beU8 _).run_bind _ (value ++ rest)).trans ?_
      simp only [ne_eq, hne, not_false_eq_true, if_true]
      rfl
    rw [Parser.bind_apply, hcheck]
    rfl

theorem settles_lengthCount {value : Octets} (hfit : value.length < 256) :
    Settles (lengthCount : Parser ε Octets) (BitVec.ofNat 8 value.length :: value) :=
  (decodes_lengthCount hfit).settles

end Settles

theorem whole_gracefulRestartAddressFamily : Whole GracefulRestartAddressFamily.fromWire := by
  refine (Whole.take 4).bind fun data => Whole.within ?_ data
  refine whole_parseAfi.bind fun afi => whole_parseSafi.bind fun safi => ?_
  exact (whole_addressTypeOf afi safi).bind fun _ => (Whole.beUint 8).bind fun _ => Whole.pure _

theorem whole_addPathAddressFamily : Whole AddPathAddressFamily.fromWire := by
  refine whole_parseAfi.bind fun afi => whole_parseSafi.bind fun safi => ?_
  refine (whole_addressTypeOf afi safi).bind fun _ => ?_
  exact ((Whole.beUint 8).mapRes _).bind fun _ => Whole.pure _

theorem whole_extendedNextHopEncoding : Whole ExtendedNextHopEncoding.fromWire := by
  refine (Whole.take 6).bind fun data => Whole.within ?_ data
  refine whole_parseAfi.bind fun afi => ((Whole.beUint 16).mapRes _).bind fun safi => ?_
  exact (whole_addressTypeOf afi safi).bind fun _ => whole_parseAfi.bind fun _ => Whole.pure _

theorem whole_multipleLabel : Whole MultipleLabel.fromWire := by
  refine whole_parseAfi.bind fun afi => whole_parseSafi.bind fun safi => ?_
  exact (whole_addressTypeOf afi safi).bind fun _ => (Whole.beUint 8).bind fun _ => Whole.pure _

theorem settles_multiProtocolExtensions {value : Octets} (hfit : value.length < 256) :
    Settles multiProtocolExtensionsCapabilityFromWire (BitVec.ofNat 8 value.length :: value) := by
  refine settles_checked (n := 4) (by decide) hfit fun hlen => ?_
  obtain ⟨a, b, c, d, rfl⟩ : ∃ a b c d, value = [a, b, c, d] := by
    match value, hlen with
    | [a, b, c, d], _ => exact ⟨a, b, c, d, rfl⟩
  have hafi : Settles (parseAfi : Parser MultiProtocolExtensionsCapabilityParsingError _) [a, b] :=
    settles_parseAfi rfl
  refine hafi.bind fun afi => ?_
  refine (decodes_beU8 c).settles.bind fun _ => ?_
  exact (settles_parseSafi d).last fun safi => Settles.lift _

/-- The octets of a capability behind its code decide how it is read. -/
theorem settles_registered (code : BgpCapabilityCode) {value : Octets}
    (hfit : value.length < 256) :
    Settles (parseRegisteredCapability code) (BitVec.ofNat 8 value.length :: value) := by
  have hempty {err : BitVec 8 → BgpCapabilityParsingError} (cap : BgpCapability) :
      Settles (checkCapabilityLength 0 err >>= fun _ => pure cap)
        (BitVec.ofNat 8 value.length :: value) := by
    refine settles_checked (n := 0) (by decide) hfit fun hlen => ?_
    rw [length_eq_zero_iff.mp hlen]
    exact (Decodes.pure cap).settles
  cases code with
  | multiProtocolExtensions => exact ((settles_multiProtocolExtensions hfit).mapErr _).map _
  | routeRefreshCapability | ciscoRouteRefresh | bgpExtendedMessage | enhancedRouteRefresh =>
    exact hempty _
  | extendedNextHopEncoding =>
    exact ((Settles.delimited whole_extendedNextHopEncoding.parseTillEmpty hfit).mapErr _).map _
  | multipleLabelsCapability =>
    refine (decodes_lengthData_u8 hfit).settles.last fun data => ?_
    refine (Settles.within (whole_multipleLabel.parseTillEmpty.mapErr _) data).last fun labels => ?_
    cases MultipleLabelsCapability.new labels with
    | some cap => exact (Decodes.pure _).settles
    | none => exact ⟨.error _, fun _ => rfl⟩
  | bgpRole =>
    refine ((settles_checked (n := 1) (by decide) hfit fun hlen => ?_).mapErr _).map _
    obtain ⟨role, rfl⟩ := length_eq_one_iff.mp hlen
    exact (decodes_beU8 role).settles.mapRes _
  | gracefulRestartCapability =>
    have hwhole : Whole (do
        let header ← beU16
        let families ← parseTillEmpty GracefulRestartAddressFamily.fromWire
        return (⟨header &&& 0x8000 == 0x8000, header &&& 0x4000 == 0x4000, header &&& 0x0fff,
          families⟩ : GracefulRestartCapability)) :=
      (Whole.beUint 16).bind fun _ =>
        whole_gracefulRestartAddressFamily.parseTillEmpty.bind fun _ => Whole.pure _
    exact ((Settles.delimited hwhole hfit).mapErr _).map _
  | fourOctetAs =>
    refine ((settles_checked (n := 4) (by decide) hfit fun hlen => ?_).mapErr _).map _
    exact Settles.beUint rfl hlen
  | addPathCapability =>
    exact ((Settles.delimited whole_addPathAddressFamily.parseTillEmpty hfit).mapErr _).map _
  | _ => exact (settles_lengthCount hfit).map _

/-! ## Framed messages -/

/-- A capability behind its length. -/
structure CapabilityTlv where
  code : Octet
  value : Octets
  fits : value.length < 256

namespace CapabilityTlv

variable (tlv : CapabilityTlv)

def encoded : Octets :=
  tlv.code :: BitVec.ofNat 8 tlv.value.length :: tlv.value

/-- The capability, when the octets are read alone. -/
def capability : Option BgpCapability :=
  match BgpCapability.fromWire tlv.encoded with
  | .ok (_, cap) => some cap
  | .error _ => none

/-- Why it is refused, when the octets are read alone. -/
def refusal : Option BgpCapabilityParsingError :=
  match BgpCapability.fromWire tlv.encoded with
  | .error (.error err) => some err
  | .error (.incomplete _) | .ok _ => none

theorem settles_encoded : Settles BgpCapability.fromWire tlv.encoded := by
  refine (decodes_beU8 tlv.code).settles.bind fun code => ?_
  cases BgpCapabilityCode.tryFrom code with
  | none => exact (settles_lengthCount tlv.fits).map _
  | some code => exact settles_registered code tlv.fits

/-- A capability is read or refused as if it were alone, whatever follows. -/
theorem fromWire_cases :
    (∃ cap, tlv.capability = some cap ∧ tlv.refusal = none ∧
      ∀ rest, BgpCapability.fromWire (tlv.encoded ++ rest) = .ok (rest, cap)) ∨
    ∃ err, tlv.capability = none ∧ tlv.refusal = some err ∧
      ∀ rest, BgpCapability.fromWire (tlv.encoded ++ rest) = .error (.error err) := by
  obtain ⟨r, hr⟩ := tlv.settles_encoded
  have halone := hr []
  rw [append_nil] at halone
  unfold capability refusal
  rw [halone]
  cases r with
  | ok cap => exact .inl ⟨cap, rfl, rfl, hr⟩
  | error err => exact .inr ⟨err, rfl, rfl, hr⟩

/-- Whether the capability can be read. -/
def valid : Bool := tlv.capability.isSome

end CapabilityTlv

/-- A parameter behind its length, with its capabilities. -/
structure ParameterTlv where
  paramType : Octet
  tlvs : List CapabilityTlv
  fits : (tlvs.flatMap CapabilityTlv.encoded).length < 256

namespace ParameterTlv

def encoded (param : ParameterTlv) : Octets :=
  param.paramType :: BitVec.ofNat 8 (param.tlvs.flatMap CapabilityTlv.encoded).length ::
    param.tlvs.flatMap CapabilityTlv.encoded

/-- The capabilities that can be read. -/
def parameter (param : ParameterTlv) : BgpOpenMessageParameter :=
  .capabilities (param.tlvs.filterMap CapabilityTlv.capability)

/-- The parameter without the capabilities that cannot be read. -/
def withoutInvalid (param : ParameterTlv) : ParameterTlv :=
  ⟨param.paramType, param.tlvs.filter CapabilityTlv.valid,
    ((filter_sublist.flatMap CapabilityTlv.encoded).length_le).trans_lt param.fits⟩

theorem withoutInvalid_length_le (param : ParameterTlv) :
    param.withoutInvalid.encoded.length ≤ param.encoded.length :=
  Nat.add_le_add_right (filter_sublist.flatMap CapabilityTlv.encoded).length_le 2

end ParameterTlv

/-- The body of an OPEN message whose parameters and capabilities are framed. -/
structure FramedOpen where
  version : Octet
  myAs : BitVec 16
  holdTime : BitVec 16
  bgpId : Ipv4Addr
  params : List ParameterTlv
  fits : (params.flatMap ParameterTlv.encoded).length < 256

namespace FramedOpen

def encoded (msg : FramedOpen) : Octets :=
  [msg.version] ++ octets msg.myAs ++ octets msg.holdTime ++ octets msg.bgpId ++
    BitVec.ofNat 8 (msg.params.flatMap ParameterTlv.encoded).length ::
      msg.params.flatMap ParameterTlv.encoded

/-- The message with the capabilities that can be read. -/
def message (msg : FramedOpen) : BgpOpenMessage :=
  ⟨msg.myAs, msg.holdTime, msg.bgpId, msg.params.map ParameterTlv.parameter⟩

/-- The errors of the capabilities that cannot be read. -/
def refusals (msg : FramedOpen) : List BgpCapabilityParsingError :=
  msg.params.flatMap fun param => param.tlvs.filterMap CapabilityTlv.refusal

/-- The message without the capabilities that cannot be read. -/
def withoutInvalid (msg : FramedOpen) : FramedOpen where
  version := msg.version
  myAs := msg.myAs
  holdTime := msg.holdTime
  bgpId := msg.bgpId
  params := msg.params.map ParameterTlv.withoutInvalid
  fits := by
    refine lt_of_le_of_lt ?_ msg.fits
    simp only [length_flatMap, map_map]
    exact sum_le_sum fun param _ => param.withoutInvalid_length_le

/-- What a parser asks of an OPEN besides its frames, lenient or not. -/
structure Admissible (msg : FramedOpen) : Prop where
  version : msg.version = 4
  holdTime : msg.holdTime ≠ 1 ∧ msg.holdTime ≠ 2
  bgpId : invalidBgpId msg.bgpId = false
  params : ∀ param ∈ msg.params, param.paramType = BgpOpenMessageParameterType.capability.code

end FramedOpen

/-! ## What a lenient parser reads -/

/-- Several errors noted one after the other. -/
def BgpParsingIgnoredErrors.noteCapabilities (errors : BgpParsingIgnoredErrors)
    (refusals : List BgpCapabilityParsingError) : BgpParsingIgnoredErrors :=
  { errors with capabilityErrors := errors.capabilityErrors ++ refusals }

theorem foldl_noteCapabilities {α : Type} (f : α → List BgpCapabilityParsingError) (as : List α)
    (errors : BgpParsingIgnoredErrors) :
    as.foldl (fun errs a => errs.noteCapabilities (f a)) errors =
      errors.noteCapabilities (as.flatMap f) := by
  induction as generalizing errors with
  | nil => simp [noteCapabilities]
  | cons a as ih =>
    rw [foldl_cons, ih, flatMap_cons]
    simp [noteCapabilities]

section Lenient

variable {ctx : BgpParsingContext} (hlenient : ctx.failOnCapabilityError = false)
include hlenient

/-- A capability gives what it gives alone, and its error is noted if it has one. -/
theorem reads_readCapability (tlv : CapabilityTlv) (errors : BgpParsingIgnoredErrors) :
    Reads (readCapability ctx) errors tlv.encoded tlv.capability
      (errors.noteCapabilities tlv.refusal.toList) := by
  rcases tlv.fromWire_cases with ⟨cap, hcap, hrefusal, hread⟩ | ⟨err, hcap, hrefusal, hread⟩
  · have hdec : Decodes (parseCapability ctx) tlv.encoded (.ok cap) := by
      intro rest
      rw [parseCapability, hread]
    rw [hcap, hrefusal]
    refine (Reads.liftP hdec errors).last ?_
    simpa [noteCapabilities] using Reads.pure errors (some cap)
  · -- the parser has stopped somewhere in the capability, and starts again at its code
    have hskip : Decodes (do
        let _code ← beU8
        let _value ← lengthCount
        return .error err :
          Parser BgpParameterParsingError (Except BgpCapabilityParsingError BgpCapability))
        tlv.encoded (.error err) :=
      (decodes_beU8 tlv.code).bind ((decodes_lengthCount tlv.fits).map _)
    have hdec : Decodes (parseCapability ctx) tlv.encoded (.error err) := by
      intro rest
      rw [parseCapability, hread]
      simp only [hlenient]
      exact hskip rest
    rw [hcap, hrefusal]
    exact (Reads.liftP hdec errors).last ((Reads.modify _ errors).last (Reads.pure _ none))

theorem reads_parameter {param : ParameterTlv}
    (htype : param.paramType = BgpOpenMessageParameterType.capability.code)
    (errors : BgpParsingIgnoredErrors) :
    Reads (BgpOpenMessageParameter.read ctx) errors param.encoded param.parameter
      (errors.noteCapabilities (param.tlvs.filterMap CapabilityTlv.refusal)) := by
  have htype' : Decodes (mapRes beU8 fun type => (BgpOpenMessageParameterType.tryFrom type).elim
      (.error (.undefinedParameterType type)) .ok : Parser BgpParameterParsingError _)
      [param.paramType] .capability := by
    rw [htype]
    exact (decodes_beU8 _).mapRes rfl
  have hloop := repeatWhile_items _ (fun tlv _ => reads_readCapability hlenient tlv)
    (fun (tlv : CapabilityTlv) (_ : tlv ∈ param.tlvs) => cons_ne_nil _ _) (s := errors)
  rw [foldl_noteCapabilities] at hloop
  refine (Reads.liftP htype' errors).bind ?_
  refine (Reads.liftP (decodes_lengthData_u8 param.fits) errors).last ?_
  have hvalues : (param.tlvs.map CapabilityTlv.capability).filterMap id =
      param.tlvs.filterMap CapabilityTlv.capability := by
    rw [filterMap_map]
    rfl
  have herrors : param.tlvs.flatMap (fun tlv => tlv.refusal.toList) =
      param.tlvs.filterMap CapabilityTlv.refusal := by
    rw [filterMap_eq_flatMap_toList]
  rw [ParameterTlv.parameter, ← hvalues, ← herrors]
  exact (Reads.within hloop).map _

theorem reads_open {msg : FramedOpen} (h : msg.Admissible) (errors : BgpParsingIgnoredErrors) :
    Reads (BgpOpenMessage.read ctx) errors msg.encoded msg.message
      (errors.noteCapabilities msg.refusals) := by
  have hloop := repeatWhile_items _
    (fun param hparam => fun errs =>
      (reads_parameter hlenient (h.params param hparam) errs).mapErr
        BgpOpenMessageParsingError.parameterError)
    (fun (param : ParameterTlv) (_ : param ∈ msg.params) => cons_ne_nil _ _) (s := errors)
  rw [foldl_noteCapabilities] at hloop
  have hversion : Decodes (mapRes beU8 fun version =>
      if version = 4 then .ok version else .error (.unsupportedVersionNumber version) :
        Parser BgpOpenMessageParsingError _) [msg.version] msg.version :=
    (decodes_beU8 _).mapRes (if_pos h.version)
  have hhold : ¬ (msg.holdTime = 1 ∨ msg.holdTime = 2) := by
    rw [not_or]
    exact h.holdTime
  rw [FramedOpen.encoded]
  simp only [append_assoc]
  refine (Reads.liftP hversion errors).bind ?_
  refine (Reads.liftP (decodes_beU16 msg.myAs) errors).bind ?_
  refine (Reads.liftP (decodes_beU16 msg.holdTime) errors).bind ?_
  rw [if_neg hhold]
  refine (Reads.liftP (decodes_beU32 msg.bgpId) errors).bind ?_
  rw [h.bgpId]
  refine (Reads.liftP (decodes_lengthData_u8 msg.fits) errors).last ?_
  exact (Reads.within hloop).map _

end Lenient

/-! ## The message without what cannot be read -/

namespace CapabilityTlv

/-- A capability is read or refused, never both. -/
theorem refusal_of_valid {tlv : CapabilityTlv} (h : tlv.valid) : tlv.refusal = none := by
  rcases tlv.fromWire_cases with ⟨cap, -, hrefusal, -⟩ | ⟨err, hcap, -, -⟩
  · exact hrefusal
  · rw [valid, hcap] at h
    cases h

end CapabilityTlv

theorem ParameterTlv.withoutInvalid_parameter (param : ParameterTlv) :
    param.withoutInvalid.parameter = param.parameter := by
  unfold parameter withoutInvalid
  rw [filterMap_filter]
  congr 1
  apply filterMap_congr
  intro tlv _
  rw [CapabilityTlv.valid]
  cases tlv.capability <;> rfl

theorem ParameterTlv.withoutInvalid_refusals (param : ParameterTlv) :
    param.withoutInvalid.tlvs.filterMap CapabilityTlv.refusal = [] := by
  rw [filterMap_eq_nil_iff]
  intro tlv htlv
  exact CapabilityTlv.refusal_of_valid (mem_filter.mp htlv).2

namespace FramedOpen

theorem withoutInvalid_message (msg : FramedOpen) : msg.withoutInvalid.message = msg.message := by
  simp only [message, withoutInvalid, map_map]
  congr 1
  exact map_congr_left fun param _ => param.withoutInvalid_parameter

theorem withoutInvalid_refusals (msg : FramedOpen) : msg.withoutInvalid.refusals = [] := by
  rw [refusals, flatMap_eq_nil_iff]
  intro param hparam
  obtain ⟨param', -, rfl⟩ := mem_map.mp hparam
  exact param'.withoutInvalid_refusals

theorem Admissible.withoutInvalid {msg : FramedOpen} (h : msg.Admissible) :
    msg.withoutInvalid.Admissible where
  __ := h
  params := by
    intro param hparam
    obtain ⟨param', hparam', rfl⟩ := mem_map.mp hparam
    exact h.params param' hparam'

/-- In lenient mode an admissible OPEN with framed parameters and capabilities is read.
One error is noted for each capability that cannot be read, and the message is the one
that is read when those capabilities are not there. No capability is read beyond its
length: it is read or refused in the same way whatever follows. -/
theorem lenient_resynchronises {ctx : BgpParsingContext}
    (hlenient : ctx.failOnCapabilityError = false) {msg : FramedOpen} (h : msg.Admissible)
    (errors : BgpParsingIgnoredErrors) (rest : Octets) :
    BgpOpenMessage.read ctx errors (msg.encoded ++ rest) =
      (errors.noteCapabilities msg.refusals, .ok (rest, msg.message)) ∧
    BgpOpenMessage.read ctx errors (msg.withoutInvalid.encoded ++ rest) =
      (errors, .ok (rest, msg.message)) ∧
    ∀ tlv : CapabilityTlv,
      (∃ cap, tlv.capability = some cap ∧ tlv.refusal = none ∧
        ∀ behind, BgpCapability.fromWire (tlv.encoded ++ behind) = .ok (behind, cap)) ∨
      ∃ err, tlv.capability = none ∧ tlv.refusal = some err ∧
        ∀ behind, BgpCapability.fromWire (tlv.encoded ++ behind) = .error (.error err) := by
  refine ⟨reads_open hlenient h errors rest, ?_, CapabilityTlv.fromWire_cases⟩
  have hread := reads_open hlenient h.withoutInvalid errors rest
  rw [withoutInvalid_message, withoutInvalid_refusals] at hread
  simpa [noteCapabilities] using hread

/-- An OPEN with a route refresh capability of two octets before an extended message
capability. -/
def badRouteRefresh : FramedOpen :=
  ⟨4, 65000, 180, 0x0a000001, [⟨2, [⟨2, [0, 0], by decide⟩, ⟨6, [], by decide⟩], by decide⟩],
    by decide⟩

theorem badRouteRefresh_resynchronises :
    BgpOpenMessage.read (BgpCodec.new true).ctx .default (badRouteRefresh.encoded ++ []) =
      (⟨[], [], [.invalidRouteRefreshLength 2], []⟩,
        .ok ([], ⟨65000, 180, 0x0a000001, [.capabilities [.extendedMessage]]⟩)) := by
  have hadmissible : badRouteRefresh.Admissible := ⟨rfl, by decide, by decide, by decide⟩
  exact (lenient_resynchronises rfl hadmissible .default []).1

/-- An OPEN without parameters, and with a hold time that no parser accepts. -/
def shortHoldTime : FramedOpen := ⟨4, 65000, 1, 0x0a000001, [], by decide⟩

theorem shortHoldTime_refused :
    BgpOpenMessage.read (BgpCodec.new true).ctx .default shortHoldTime.encoded =
      (.default, .error (.error (.unacceptableHoldTime 1))) :=
  rfl

end FramedOpen

end NetCalyx.Bgp
