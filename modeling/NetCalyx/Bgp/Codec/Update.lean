import NetCalyx.Bgp.Codec.PathAttribute
import NetCalyx.Wire.Stateful

/-!
# Encoding of updates

Withdrawn routes and path attributes behind lengths of two octets, then routes to
the end of the message. The parser carries the errors it passes over as a state:
routes that are not unicast, and path attributes it cannot read, which it skips.
How far it skips depends on the error: some kinds of attribute are skipped by
their declared length, others by the length that their type has to have.
-/

namespace NetCalyx.Bgp
open Wire NetCalyx.Iana

/-! ## Writer -/

inductive BgpUpdateMessageWritingError where
  | pathAttributeError (err : PathAttributeWritingError)

namespace BgpUpdateMessage

variable (update : BgpUpdateMessage)

def withdrawnLen : Nat :=
  (update.withdrawnRoutes.map NetworkAddress.len).sum

def pathAttributesLen : Nat :=
  (update.pathAttributes.map PathAttribute.len).sum

def nlriLen : Nat := (update.nlri.map NetworkAddress.len).sum

def len : Nat :=
  4 + update.withdrawnLen + update.pathAttributesLen + update.nlriLen

/-- The two lengths are narrowed without a check. -/
def write (update : BgpUpdateMessage) : Except BgpUpdateMessageWritingError Octets := do
  let attrs ← (writeAll PathAttribute.write update.pathAttributes).mapError .pathAttributeError
  return octets (BitVec.ofNat 16 update.withdrawnLen) ++
    update.withdrawnRoutes.flatMap NetworkAddress.write ++
    octets (BitVec.ofNat 16 update.pathAttributesLen) ++ attrs ++
    update.nlri.flatMap NetworkAddress.write

end BgpUpdateMessage

/-! ## Ignored errors -/

namespace BgpParsingIgnoredErrors

variable (errs : BgpParsingIgnoredErrors)

def noteWithdraw (net : Ipv4Net) : BgpParsingIgnoredErrors :=
  { errs with nonUnicastWithdrawNlri := errs.nonUnicastWithdrawNlri ++ [net] }

def noteUpdate (net : Ipv4Net) : BgpParsingIgnoredErrors :=
  { errs with nonUnicastUpdateNlri := errs.nonUnicastUpdateNlri ++ [net] }

def notePathAttr (err : PathAttributeParsingError) : BgpParsingIgnoredErrors :=
  { errs with pathAttrErrors := errs.pathAttrErrors ++ [err] }

end BgpParsingIgnoredErrors

/-! ## Routes -/

variable (ctx : BgpParsingContext)

/-- What a route that is not unicast does to the parse. A refused announcement is
noted as well. -/
def nonUnicastRoute (isUpdate : Bool) (net : Ipv4Net) :
    StateParser BgpParsingIgnoredErrors BgpUpdateMessageParsingError
      (Option Ipv4UnicastAddress) := do
  if isUpdate && ctx.failOnNonUnicastUpdateNlri then StateParser.modify (·.noteUpdate net)
  if !isUpdate && !ctx.failOnNonUnicastWithdrawNlri then
    StateParser.modify (·.noteWithdraw net)
    return none
  else if isUpdate && !ctx.failOnNonUnicastUpdateNlri then
    StateParser.modify (·.noteUpdate net)
    return none
  else .liftP (.fail (.invalidIpv4UnicastNetwork net))

/-- One route; `none` is a route that was passed over. -/
def parseRoute (addPath isUpdate : Bool) :
    StateParser BgpParsingIgnoredErrors BgpUpdateMessageParsingError
      (Option Ipv4UnicastAddress) := do
  let pathId ← .liftP (parsePathId addPath)
  let net ← .liftP (ipNetFromWireWithLen.mapErr .ipv4PrefixError)
  match Network.fromNet net with
  | .ok unicast => return some ⟨pathId, unicast⟩
  | .error net => nonUnicastRoute ctx isUpdate net

def parseNlri (addPath isUpdate : Bool) :
    StateParser BgpParsingIgnoredErrors BgpUpdateMessageParsingError
      (List Ipv4UnicastAddress) := do
  let routes ← StateParser.repeatWhile (fun buf => !buf.isEmpty) (parseRoute ctx addPath isUpdate)
  return routes.filterMap id

/-! ## Path attributes -/

/-- Skip an attribute by its declared length. -/
def advanceAttrBuffer : Parser BgpUpdateMessageParsingError Octets := do
  let attributes ← beU8
  let _code ← beU8
  let length ← pathAttributeLength (hasFlag attributes 0x10)
  take length.toNat

/-- Skip an attribute by the length of its value, whatever it declares. -/
def advanceAttrBufferFixed (length : Nat) : Parser BgpUpdateMessageParsingError Octets := do
  let attributes ← beU8
  if hasFlag attributes 0x10 then take (length + 3) else take (length + 2)

/-- How an attribute is skipped after an error. -/
def handlePathError (err : PathAttributeParsingError) :
    Parser BgpUpdateMessageParsingError Octets :=
  match err with
  | .nomError _ => .fail (.pathAttributeError err)
  | .originError _ => advanceAttrBufferFixed 1
  | .asPathError _ => advanceAttrBuffer
  | .nextHopError _ => advanceAttrBufferFixed 4
  | .multiExitDiscriminatorError _ => advanceAttrBufferFixed 4
  | .localPreferenceError _ => advanceAttrBufferFixed 4
  | .atomicAggregateError _ => advanceAttrBufferFixed 0
  | .aggregatorError _ => advanceAttrBufferFixed (if ctx.asn4 then 8 else 6)
  | .communitiesError _ => advanceAttrBuffer
  | .extendedCommunitiesError _ => advanceAttrBuffer
  | .extendedCommunitiesErrorIpv6 _ => advanceAttrBuffer
  | .largeCommunitiesError _ => advanceAttrBuffer
  | .originatorError _ => advanceAttrBufferFixed 4
  | .clusterListError _ => advanceAttrBuffer
  | .mpReachErrorError _ => advanceAttrBuffer
  | .mpUnreachErrorError _ => advanceAttrBuffer
  | .onlyToCustomerError _ => advanceAttrBuffer
  | .aigpError _ => advanceAttrBuffer
  | .unknownAttributeError _ => advanceAttrBuffer
  | .invalidPathAttribute _ _ => advanceAttrBuffer
  | .bgpLsError _ => advanceAttrBuffer
  | .segmentIdentifierParsingError _ => advanceAttrBuffer

/-- One path attribute; `none` is an attribute that was passed over. -/
def parsePathAttribute (ctx : BgpParsingContext) (direction : MessageDirection) :
    StateParser BgpParsingIgnoredErrors BgpUpdateMessageParsingError (Option PathAttribute) :=
  fun errs buf =>
    match PathAttribute.fromWire ctx direction buf with
    | .ok (rest, attr) => (errs, .ok (rest, some attr))
    | .error (.incomplete needed) => (errs, .error (.incomplete needed))
    | .error (.error err) =>
      if ctx.failOnMalformedPathAttr then (errs, .error (.error (.pathAttributeError err)))
      else
        match handlePathError ctx err buf with
        | .ok (rest, _) => (errs.notePathAttr err, .ok (rest, none))
        | .error e => (errs, .error e)

def parsePathAttributes (ctx : BgpParsingContext) (direction : MessageDirection) :
    StateParser BgpParsingIgnoredErrors BgpUpdateMessageParsingError (List PathAttribute) := do
  let attrs ← StateParser.repeatWhile (fun buf => !buf.isEmpty) (parsePathAttribute ctx direction)
  return attrs.filterMap id

/-! ## Parser -/

def BgpUpdateMessage.fromWire (ctx : BgpParsingContext) (direction : MessageDirection) :
    StateParser BgpParsingIgnoredErrors BgpUpdateMessageParsingError BgpUpdateMessage := do
  let addPath := ctx.addPathEnabled .ipv4Unicast direction
  let withdrawnBuf ← .liftP (lengthData beU16)
  let withdrawnRoutes ← .within withdrawnBuf (parseNlri ctx addPath false)
  let pathAttributesBuf ← .liftP (lengthData beU16)
  let pathAttributes ← .within pathAttributesBuf (parsePathAttributes ctx direction)
  let nlri ← parseNlri ctx addPath true
  return ⟨withdrawnRoutes, pathAttributes, nlri⟩

end NetCalyx.Bgp
