import NetCalyx.Bgp.Codec.Capability
import NetCalyx.Bgp.Codec.Context
import NetCalyx.Wire.Loops

/-!
# Encoding of OPEN messages

Writer and parser of an OPEN message: a fixed part, then the parameters under a
one-octet length, each of them a list of capabilities under its own one-octet
length. The writer narrows both lengths without a check.

`open_round_trip_iff` says for exactly which messages a strict parser returns
the message it was written from.
-/

namespace NetCalyx.Bgp
open Wire StateParser BgpOpenMessage List

/-! ## Writer -/

namespace BgpOpenMessageParameter

def len : BgpOpenMessageParameter → Nat
  | capabilities caps => 2 + (caps.map BgpCapability.len).sum

def write (param : BgpOpenMessageParameter) : Octets :=
  let length := param.len - 2
  match param with
  | capabilities caps =>
    [BgpOpenMessageParameterType.capability.code, BitVec.ofNat 8 length] ++
      caps.flatMap BgpCapability.write

end BgpOpenMessageParameter

namespace BgpOpenMessage

def paramsLength (msg : BgpOpenMessage) : Nat := (msg.params.map BgpOpenMessageParameter.len).sum

def len (msg : BgpOpenMessage) : Nat := 10 + msg.paramsLength

def write (msg : BgpOpenMessage) : Octets :=
  [bgpVersion] ++ octets msg.myAs ++ octets msg.holdTime ++ octets msg.bgpId ++
    [BitVec.ofNat 8 msg.paramsLength] ++ msg.params.flatMap BgpOpenMessageParameter.write

end BgpOpenMessage

/-! ## Parser -/

variable (ctx : BgpParsingContext)

/-- One capability of a parameter. A lenient parser steps over a capability it
cannot read, using the capability's own length, and reports the error. -/
def parseCapability :
    Parser BgpParameterParsingError (Except BgpCapabilityParsingError BgpCapability) := fun buf =>
  match BgpCapability.fromWire buf with
  | .ok (rest, capability) => .ok (rest, .ok capability)
  | .error (.incomplete needed) => .error (.incomplete needed)
  | .error (.error err) =>
    if ctx.failOnCapabilityError then .error (.error (.capabilityError err))
    else (do
      let _code ← beU8
      let _value ← lengthCount
      return .error err : Parser _ _) buf

def BgpParsingIgnoredErrors.noteCapability (errs : BgpParsingIgnoredErrors)
    (err : BgpCapabilityParsingError) : BgpParsingIgnoredErrors :=
  { errs with capabilityErrors := errs.capabilityErrors ++ [err] }

/-- One capability; `none` is a capability that was passed over. -/
def readCapability :
    StateParser BgpParsingIgnoredErrors BgpParameterParsingError (Option BgpCapability) := do
  match ← liftP (parseCapability ctx) with
  | .ok capability => return some capability
  | .error err =>
    StateParser.modify (·.noteCapability err)
    return none

def BgpOpenMessageParameter.read :
    StateParser BgpParsingIgnoredErrors BgpParameterParsingError BgpOpenMessageParameter := do
  let paramType ← .liftP (mapRes beU8 fun type =>
    (BgpOpenMessageParameterType.tryFrom type).elim (.error (.undefinedParameterType type)) .ok)
  match paramType with
  | .capability =>
    let capabilitiesBuf ← .liftP (lengthData beU8)
    let capabilities ← .within capabilitiesBuf
      (repeatWhile (fun buf => !buf.isEmpty) (readCapability ctx))
    return .capabilities (capabilities.filterMap id)
  | .extendedLength =>
    .liftP (.fail (.undefinedParameterType BgpOpenMessageParameterType.extendedLength.code))

/-- Identifiers that are not the address of a host. -/
def invalidBgpId (id : Ipv4Addr) : Bool :=
  isBroadcast4 id || isMulticast4 id || isUnspecified4 id

def BgpOpenMessage.read (ctx : BgpParsingContext) :
    StateParser BgpParsingIgnoredErrors BgpOpenMessageParsingError BgpOpenMessage := do
  let _ ← .liftP (mapRes beU8 fun version =>
    if version = 4 then .ok version else .error (.unsupportedVersionNumber version))
  let myAs ← .liftP beU16
  let holdTime ← .liftP beU16
  if holdTime = 1 ∨ holdTime = 2 then .liftP (.fail (.unacceptableHoldTime holdTime))
  else
    let bgpId ← .liftP beU32
    if invalidBgpId bgpId then .liftP (.fail (.invalidBgpId bgpId))
    else
      let paramsBuf ← .liftP (lengthData beU8)
      let params ← .within paramsBuf (repeatWhile (fun buf => !buf.isEmpty)
        ((BgpOpenMessageParameter.read ctx).mapErr .parameterError))
      return ⟨myAs, holdTime, bgpId, params⟩

/-- Returns the message and the errors of the capabilities stepped over. -/
def BgpOpenMessage.fromWire :
    Parser BgpOpenMessageParsingError (BgpOpenMessage × List BgpCapabilityParsingError) := fun buf =>
  match BgpOpenMessage.read ctx .default buf with
  | (errors, .ok (rest, msg)) => .ok (rest, msg, errors.capabilityErrors)
  | (_, .error err) => .error err

variable {msg : BgpOpenMessage} {errors' errors : BgpParsingIgnoredErrors}
  {param : BgpOpenMessageParameter} {ctx : BgpParsingContext} {buf rest : Octets}

theorem BgpOpenMessage.fromWire_eq_ok {errs : List BgpCapabilityParsingError}
    (h : fromWire ctx buf = .ok (rest, msg, errs)) :
    ∃ errors, read ctx .default buf = (errors, .ok (rest, msg)) := by
  unfold fromWire at h
  split at h
  · rename_i errors _ _ hread
    cases h
    exact ⟨errors, hread⟩
  · cases h

/-! ## Sizes -/

theorem BgpOpenMessageParameter.write_length (param : BgpOpenMessageParameter) :
    param.write.length = param.len := by
  obtain ⟨caps⟩ := param
  have hcaps := length_flatMap_of fun cap (_ : cap ∈ caps) => cap.write_length
  rw [write, length_append, hcaps]
  rfl

theorem BgpOpenMessage.params_length (msg : BgpOpenMessage) :
    (msg.params.flatMap BgpOpenMessageParameter.write).length = msg.paramsLength :=
  length_flatMap_of fun param _ => param.write_length

theorem BgpOpenMessageParameter.capability_len_le {cap : BgpCapability} (hcap : cap ∈ param.caps) :
    cap.len + 2 ≤ param.len := by
  obtain ⟨caps⟩ := param
  have hle := le_sum_of_mem (mem_map_of_mem hcap : cap.len ∈ caps.map BgpCapability.len)
  rw [len]
  omega

theorem BgpOpenMessage.param_len_le (hparam : param ∈ msg.params) : param.len ≤ msg.paramsLength :=
  le_sum_of_mem (mem_map_of_mem hparam)

/-! ## Reading back -/

/-- What the parser of OPEN messages guarantees of a message. -/
structure BgpOpenMessage.Acceptable (msg : BgpOpenMessage) : Prop where
  holdTime : msg.holdTime ≠ 1 ∧ msg.holdTime ≠ 2
  bgpId : invalidBgpId msg.bgpId = false
  canonical : ∀ cap ∈ msg.capabilities, cap.Canonical

variable (ctx)

theorem decodes_parseCapability {cap : BgpCapability} (hcanonical : cap.Canonical)
    (hfit : cap.len < 2 + 256) : Decodes (parseCapability ctx) cap.write (.ok cap) := by
  intro rest
  rw [parseCapability, decodes_capability hcanonical hfit]

/-- A parameter whose value fits the length octet is read back, in any mode. -/
theorem BgpOpenMessageParameter.reads (hcanonical : ∀ cap ∈ param.caps, cap.Canonical)
    (hfit : param.len < 2 + 256) (errors : BgpParsingIgnoredErrors) :
    Reads (read ctx) errors param.write param errors := by
  obtain ⟨caps⟩ := param
  have hcaps : (caps.flatMap BgpCapability.write).length = (caps.map BgpCapability.len).sum :=
    length_flatMap_of fun cap _ => cap.write_length
  have hvalue : (capabilities caps).len - 2 = (caps.flatMap BgpCapability.write).length := by
    rw [hcaps, len, Nat.add_sub_cancel_left]
  have heach : ∀ cap ∈ caps, ∀ errors, Reads (readCapability ctx) errors cap.write (some cap) errors := by
    intro cap hcap errors
    have hle := @capability_len_le (.capabilities caps) cap hcap
    exact (Reads.liftP (decodes_parseCapability ctx (hcanonical cap hcap) (by omega)) errors).last
      (.pure errors _)
  have hparsed := repeatWhile_items (s := errors) (fun errors _ => errors) heach
    fun cap _ => ne_nil_of_length_eq_add_one (cap.write_length.trans (Nat.add_comm 2 _))
  rw [foldl_fixed] at hparsed
  have hdata : (caps.flatMap BgpCapability.write).length < 256 := by omega
  simp only [write, hvalue]
  refine (Reads.liftP ((decodes_beU8 _).mapRes (b := BgpOpenMessageParameterType.capability) rfl)
    errors).bind <| (Reads.liftP (decodes_lengthData_u8 hdata) errors).last <|
    (Reads.within hparsed).last ?_
  simp only [filterMap_map, Function.comp_def, id, filterMap_some]
  exact .pure errors _

theorem decodes_version : Decodes (mapRes beU8 fun version : BitVec 8 =>
    if version = 4 then .ok version
    else .error (BgpOpenMessageParsingError.unsupportedVersionNumber version))
    [bgpVersion] bgpVersion :=
  (decodes_beU8 _).mapRes (by rfl)

/-- A strict or lenient parser reads back an acceptable message whose
parameters fit the length octet. -/
theorem BgpOpenMessage.reads (hok : msg.Acceptable) (hfit : msg.paramsLength < 256)
    (errors : BgpParsingIgnoredErrors) : Reads (read ctx) errors msg.write msg errors := by
  have hparams := msg.params_length
  have heach : ∀ param ∈ msg.params, ∀ errors, Reads ((BgpOpenMessageParameter.read ctx).mapErr
      BgpOpenMessageParsingError.parameterError) errors param.write param errors := by
    intro param hparam errors
    have hle := param_len_le hparam
    exact (BgpOpenMessageParameter.reads ctx (fun cap hcap => hok.canonical cap
      (mem_flatMap.mpr ⟨param, hparam, hcap⟩)) (by omega) errors).mapErr _
  have hparsed := repeatWhile_items (s := errors) (fun errors _ => errors) heach
    fun param _ => ne_nil_of_length_eq_add_one (param.write_length.trans (Nat.add_comm 2 _))
  rw [foldl_fixed, map_id'] at hparsed
  have hhold : ¬ (msg.holdTime = 1 ∨ msg.holdTime = 2) := not_or.mpr hok.holdTime
  rw [write, ← msg.params_length]
  simp only [append_assoc]
  refine (Reads.liftP decodes_version errors).bind <| (Reads.liftP (decodes_beU16 _) errors).bind <|
    (Reads.liftP (decodes_beU16 _) errors).bind ?_
  rw [if_neg hhold]
  refine (Reads.liftP (decodes_beU32 _) errors).bind ?_
  rw [if_neg (by simp [hok.bgpId])]
  exact (Reads.liftP (decodes_lengthData_u8 (by omega)) errors).last ((Reads.within hparsed).map _)

/-! ## What is read -/

theorem yields_parseCapability :
    Yields (parseCapability ctx) fun parsed => ∀ cap, parsed = .ok cap → cap.Canonical := by
  intro buf rest parsed hparsed cap hcap
  subst hcap
  rw [parseCapability] at hparsed
  split at hparsed
  · rename_i hread
    cases hparsed
    exact yields_capability _ _ _ hread
  · cases hparsed
  · split at hparsed
    · cases hparsed
    · obtain ⟨_, _, -, hskip⟩ := Parser.bind_eq_ok hparsed
      obtain ⟨_, _, -, hskip⟩ := Parser.bind_eq_ok hskip
      cases hskip

variable {ctx}

theorem readCapability_canonical {parsed : Option BgpCapability}
    (h : readCapability ctx errors buf = (errors', .ok (rest, parsed))) :
    ∀ cap ∈ parsed, cap.Canonical := by
  obtain ⟨_, parsed, hparsed, hbehind⟩ := liftP_bind_eq_ok h
  cases parsed with
  | error err =>
    cases hbehind
    exact nofun
  | ok cap =>
    cases hbehind
    rintro _ ⟨⟩
    exact yields_parseCapability ctx _ _ _ hparsed cap rfl

theorem BgpOpenMessageParameter.read_canonical
    (h : read ctx errors buf = (errors', .ok (rest, param))) :
    ∀ cap ∈ param.caps, cap.Canonical := by
  obtain ⟨_, paramType, -, hbehind⟩ := liftP_bind_eq_ok h
  cases paramType with
  | extendedLength => cases hbehind
  | capability =>
    obtain ⟨_, data, -, hbehind⟩ := liftP_bind_eq_ok hbehind
    obtain ⟨_, _, parsed, hparsed, hpure⟩ := bind_eq_ok hbehind
    obtain ⟨-, left, hloop⟩ := within_eq_ok.mp hparsed
    cases hpure
    intro cap hcap
    obtain ⟨_, hmem, rfl⟩ := mem_filterMap.mp hcap
    exact forall_of_repeatWhile (fun _ _ _ _ _ => readCapability_canonical) hloop _ hmem cap rfl

theorem BgpOpenMessage.read_acceptable (h : read ctx errors buf = (errors', .ok (rest, msg))) :
    msg.Acceptable := by
  obtain ⟨_, _, -, h⟩ := liftP_bind_eq_ok h
  obtain ⟨_, myAs, -, h⟩ := liftP_bind_eq_ok h
  obtain ⟨_, holdTime, -, h⟩ := liftP_bind_eq_ok h
  split at h
  · cases h
  rename_i hhold
  obtain ⟨_, bgpId, -, h⟩ := liftP_bind_eq_ok h
  split at h
  · cases h
  rename_i hid
  obtain ⟨_, data, -, h⟩ := liftP_bind_eq_ok h
  obtain ⟨_, _, params, hparams, hpure⟩ := bind_eq_ok h
  obtain ⟨-, left, hloop⟩ := within_eq_ok.mp hparams
  cases hpure
  refine ⟨not_or.mp hhold, by simpa using hid, fun cap hcap => ?_⟩
  obtain ⟨param, hparam, hcap⟩ := mem_flatMap.mp hcap
  exact forall_of_repeatWhile (fun _ _ _ _ _ hread =>
    BgpOpenMessageParameter.read_canonical (mapErr_eq_ok hread)) hloop param hparam cap hcap

/-- Parameters that do not fit the length octet leave octets over. -/
theorem BgpOpenMessage.params_fit {msg' : BgpOpenMessage}
    (h : read ctx errors msg.write = (errors', .ok ([], msg'))) : msg.paramsLength < 256 := by
  rw [write, ← msg.params_length] at h
  simp only [append_assoc] at h
  rw [read, (Reads.liftP decodes_version errors).run_bind,
    (Reads.liftP (decodes_beU16 _) errors).run_bind,
    (Reads.liftP (decodes_beU16 _) errors).run_bind] at h
  split at h
  · cases h
  rw [(Reads.liftP (decodes_beU32 _) errors).run_bind] at h
  split at h
  · cases h
  obtain ⟨mid, data, hdata, hinner⟩ := liftP_bind_eq_ok h
  obtain ⟨_, mid', params, hparams, hresult⟩ := bind_eq_ok hinner
  obtain ⟨rfl, -⟩ := within_eq_ok.mp hparams
  cases hresult
  have hleft := lengthData_leftover (decodes_beU8 _) hdata
  have hmod := Nat.mod_lt (msg.params.flatMap BgpOpenMessageParameter.write).length
    (show 0 < 2 ^ 8 by decide)
  rw [← msg.params_length]
  simp only [length_nil] at hleft
  omega

/-! ## The round trip -/

/-- No parameter and no capability is written with a truncated length. -/
def BgpOpenMessage.LengthsExact (msg : BgpOpenMessage) : Prop :=
  ∀ param ∈ msg.params, param.len - 2 ≤ 255 ∧ ∀ cap ∈ param.caps, cap.len - 2 ≤ 255

/-- The parser, strict or lenient, returns the message from the octets it was
written to, and uses them up, exactly when the message is acceptable and all
parameters together fit one length octet. -/
theorem BgpOpenMessage.reads_back_iff (ctx : BgpParsingContext) (msg : BgpOpenMessage) :
    fromWire ctx msg.write = .ok ([], msg, []) ↔ msg.Acceptable ∧ msg.paramsLength ≤ 255 := by
  constructor
  · intro hread
    obtain ⟨_, hread⟩ := fromWire_eq_ok hread
    have hfit := params_fit hread
    exact ⟨read_acceptable hread, by omega⟩
  · rintro ⟨hok, hfit⟩
    rw [fromWire, (BgpOpenMessage.reads ctx hok (by omega) _).run_nil]
    rfl

theorem BgpOpenMessage.lengthsExact (hfit : msg.paramsLength ≤ 255) : msg.LengthsExact := by
  intro param hparam
  have hparamLen := param_len_le hparam
  refine ⟨by omega, ?_⟩
  intro cap hcap
  have hcapLen := BgpOpenMessageParameter.capability_len_le hcap
  omega

/-- Every graceful restart capability has a time of twelve bits. -/
def BgpOpenMessage.RestartTimesFit (msg : BgpOpenMessage) : Prop :=
  ∀ cap, .gracefulRestartCapability cap ∈ msg.capabilities → cap.time &&& 0x0fff = cap.time

/-- What the parser refuses or reads differently: the hold times one and two,
identifiers that are no host address, and known capabilities under the guise of
unrecognized ones. -/
structure BgpOpenMessage.Admitted (msg : BgpOpenMessage) : Prop where
  holdTime : msg.holdTime ≠ 1 ∧ msg.holdTime ≠ 2
  bgpId : invalidBgpId msg.bgpId = false
  codes : ∀ cap, .unrecognized cap ∈ msg.capabilities → unrecognizedCode cap.code

theorem BgpOpenMessage.acceptable_iff : msg.Acceptable ↔ msg.Admitted ∧ msg.RestartTimesFit := by
  constructor
  · intro hok
    exact ⟨⟨hok.holdTime, hok.bgpId, fun cap hcap => hok.canonical _ hcap⟩,
      fun cap hcap => hok.canonical _ hcap⟩
  · rintro ⟨⟨hhold, hid, hcodes⟩, htimes⟩
    refine ⟨hhold, hid, ?_⟩
    intro cap hcap
    cases cap with
    | gracefulRestartCapability cap => exact htimes cap hcap
    | unrecognized cap => exact hcodes cap hcap
    | _ => trivial

/-- With parameters that fit the length octet and restart times that fit their
field, a message survives the round trip, in strict and in lenient mode, exactly
when the parser admits it, and then every length is written as it is. -/
theorem open_round_trip_iff (ctx : BgpParsingContext)
    (msg : BgpOpenMessage) (hfit : msg.paramsLength ≤ 255) (htimes : msg.RestartTimesFit) :
    (BgpOpenMessage.fromWire ctx msg.write = .ok ([], msg, []) ∧ msg.LengthsExact) ↔
      msg.Admitted := by
  rw [reads_back_iff, acceptable_iff]
  constructor
  · rintro ⟨⟨⟨hadmitted, -⟩, -⟩, -⟩
    exact hadmitted
  · intro hadmitted
    exact ⟨⟨⟨hadmitted, htimes⟩, hfit⟩, lengthsExact hfit⟩

def openAsn4 (holdTime : BitVec 16) : BgpOpenMessage :=
  ⟨100, holdTime, 0x0a000001, [.capabilities [.fourOctetAs 70000]]⟩

/-- A message with hold time 180 and a four-octet AS number survives. -/
theorem openAsn4_round_trip : (openAsn4 180).Admitted ∧
    BgpOpenMessage.fromWire BgpParsingContext.asn2Default (openAsn4 180).write
      = .ok ([], openAsn4 180, []) ∧ (openAsn4 180).LengthsExact := by
  have hadmitted : (openAsn4 180).Admitted := by
    refine ⟨by decide, by decide, ?_⟩
    intro cap hcap
    simp [openAsn4, capabilities, BgpOpenMessageParameter.caps] at hcap
  refine ⟨hadmitted, (open_round_trip_iff BgpParsingContext.asn2Default _
    (by decide) ?_).mpr hadmitted⟩
  intro cap hcap
  simp [openAsn4, capabilities, BgpOpenMessageParameter.caps] at hcap

/-- The same message with hold time 1 is written but refused. -/
theorem openAsn4_refused :
    ¬ (BgpOpenMessage.fromWire BgpParsingContext.asn2Default (openAsn4 1).write
      = .ok ([], openAsn4 1, []) ∧ (openAsn4 1).LengthsExact) := by
  rintro ⟨hread, -⟩
  obtain ⟨_, hread⟩ := BgpOpenMessage.fromWire_eq_ok hread
  exact (read_acceptable hread).holdTime.1 rfl

end NetCalyx.Bgp
