import NetCalyx.Bgp.ParsingError

/-!
# Connection events

The events a connection handles, how a failed decode becomes an event, and the
treatment of an update whose attributes had parsing errors.
-/

namespace NetCalyx.Speaker
open Wire NetCalyx.Iana NetCalyx.Bgp

/-! ## Treatment of updates with errors -/

inductive UpdateTreatment where
  | normal
  | attributeDiscard
  | treatAsWithdraw
  | resetAddressFamily (afi : BitVec 16) (safi : BitVec 8)
  | sessionReset
  deriving DecidableEq

namespace UpdateTreatment

/-- The order of severity; two resets of an address family compare as equal. -/
def cmp : UpdateTreatment → UpdateTreatment → Ordering
  | normal, normal => .eq
  | normal, _ => .lt
  | attributeDiscard, normal => .gt
  | attributeDiscard, attributeDiscard => .eq
  | attributeDiscard, _ => .lt
  | treatAsWithdraw, normal => .gt
  | treatAsWithdraw, attributeDiscard => .gt
  | treatAsWithdraw, treatAsWithdraw => .eq
  | treatAsWithdraw, _ => .lt
  | resetAddressFamily .., normal => .gt
  | resetAddressFamily .., attributeDiscard => .gt
  | resetAddressFamily .., treatAsWithdraw => .gt
  | resetAddressFamily .., resetAddressFamily .. => .eq
  | resetAddressFamily .., sessionReset => .lt
  | sessionReset, sessionReset => .eq
  | sessionReset, _ => .gt

/-- Raise a treatment to another one if that is more severe. -/
def raise (treatment other : UpdateTreatment) : UpdateTreatment :=
  if treatment.cmp other = .lt then other else treatment

def reset (afi : AddressFamily) (safi : SubsequentAddressFamily) : UpdateTreatment :=
  resetAddressFamily afi.code safi.code

end UpdateTreatment

/-- The least treatment an error in `MP_REACH_NLRI` asks for. -/
def mpReachErrorTreatment : MpReachParsingError → UpdateTreatment
  | .nomError _ | .undefinedAddressFamily _ | .undefinedSubsequentAddressFamily _ => .sessionReset
  | .ipAddrError addressType _ | .labeledNextHopError addressType _ =>
    .reset addressType.addressFamily addressType.subsequentAddressFamily
  | .ipv4UnicastAddressError _ => .reset .ipv4 .unicast
  | .ipv4MulticastAddressError _ => .reset .ipv4 .multicast
  | .ipv4NlriMplsLabelsAddressError _ => .reset .ipv4 .nlriMplsLabels
  | .ipv4MplsVpnUnicastAddressError _ => .reset .ipv4 .mplsVpn
  | .ipv6UnicastAddressError _ => .reset .ipv6 .unicast
  | .ipv6NlriMplsLabelsAddressError _ => .reset .ipv6 .nlriMplsLabels
  | .ipv6MulticastAddressError _ => .reset .ipv6 .multicast
  | .ipv6MplsVpnUnicastAddressError _ => .reset .ipv6 .mplsVpn
  | .l2EvpnAddressError _ => .reset .l2vpn .bgpEvpn
  | .routeTargetMembershipAddressError _ => .reset .ipv4 .routeTargetConstrains
  -- the family of route target constraints here too, as the source has it
  | .bgpLsNlriParsingError _ => .reset .ipv4 .routeTargetConstrains

/-- The least treatment an error in `MP_UNREACH_NLRI` asks for. -/
def mpUnreachErrorTreatment : MpUnreachParsingError → UpdateTreatment
  | .nomError _ | .undefinedAddressFamily _ | .undefinedSubsequentAddressFamily _ => .sessionReset
  | .ipv4UnicastAddressError _ => .reset .ipv4 .unicast
  | .ipv4MulticastAddressError _ => .reset .ipv4 .multicast
  | .ipv4NlriMplsLabelsAddressError _ => .reset .ipv4 .nlriMplsLabels
  | .ipv4MplsVpnUnicastAddressError _ => .reset .ipv4 .mplsVpn
  | .ipv6UnicastAddressError _ => .reset .ipv6 .unicast
  | .ipv6NlriMplsLabelsAddressError _ => .reset .ipv6 .nlriMplsLabels
  | .ipv6MulticastAddressError _ => .reset .ipv6 .multicast
  | .ipv6MplsVpnUnicastAddressError _ => .reset .ipv6 .mplsVpn
  | .l2EvpnAddressError _ => .reset .l2vpn .bgpEvpn
  | .routeTargetMembershipAddressError _ => .reset .ipv4 .routeTargetConstrains
  | .bgpLsError _ => .reset .ipv4 .routeTargetConstrains

/-- The least treatment an attribute error asks for; `none` keeps the
treatment as it is. -/
def pathErrorTreatment : PathAttributeParsingError → Option UpdateTreatment
  | .nomError _ | .originError _ | .asPathError _ | .nextHopError _
  | .multiExitDiscriminatorError _ | .localPreferenceError _ | .communitiesError _
  | .extendedCommunitiesError _ | .extendedCommunitiesErrorIpv6 _ | .largeCommunitiesError _
  | .originatorError _ | .clusterListError _ => some .treatAsWithdraw
  | .atomicAggregateError _ | .aggregatorError _ | .onlyToCustomerError _ | .aigpError _
  | .bgpLsError _ | .segmentIdentifierParsingError _ => some .attributeDiscard
  | .mpReachErrorError err => some (mpReachErrorTreatment err)
  | .mpUnreachErrorError err => some (mpUnreachErrorTreatment err)
  | .unknownAttributeError _ => none
  | .invalidPathAttribute (.invalidOptionalFlagValue _) _
  | .invalidPathAttribute (.invalidTransitiveFlagValue _) _ => some .treatAsWithdraw
  | .invalidPathAttribute (.invalidPartialFlagValue _) _ => none

/-- The most severe treatment any of the ignored errors asks for. -/
def updateTreatment (errors : BgpParsingIgnoredErrors) : UpdateTreatment :=
  errors.pathAttrErrors.foldl
    (fun treatment err => ((pathErrorTreatment err).map treatment.raise).getD treatment) .normal

/-! ## Notifications for parsing errors -/

def openMessageErrorOfParameter : BgpParameterParsingError → OpenMessageError
  | .nomError _ => ⟨.unspecific, []⟩
  | .undefinedParameterType type => ⟨.unsupportedOptionalParameter, [type]⟩
  | .capabilityError _ => ⟨.unspecific, []⟩

def openMessageErrorOfParsing : BgpOpenMessageParsingError → OpenMessageError
  | .nomError _ => ⟨.unspecific, []⟩
  | .unsupportedVersionNumber _ => ⟨.unsupportedVersionNumber, octets (bgpVersion.setWidth 16)⟩
  | .unacceptableHoldTime holdTime => ⟨.unacceptableHoldTime, octets holdTime⟩
  | .invalidBgpId bgpId => ⟨.badBgpIdentifier, octets bgpId⟩
  | .parameterError err => openMessageErrorOfParameter err

def updateMessageErrorOfAttribute : PathAttributeParsingError → UpdateMessageError
  | .nomError _ => ⟨.malformedAttributeList, []⟩
  | .originError _ => ⟨.invalidOriginAttribute, []⟩
  | .asPathError _ => ⟨.malformedAsPath, []⟩
  | .nextHopError _ => ⟨.invalidNextHopAttribute, []⟩
  | .multiExitDiscriminatorError _ | .localPreferenceError _ | .atomicAggregateError _
  | .aggregatorError _ | .communitiesError _ | .extendedCommunitiesError _
  | .extendedCommunitiesErrorIpv6 _ | .largeCommunitiesError _ | .originatorError _
  | .clusterListError _ | .mpReachErrorError _ | .mpUnreachErrorError _
  | .onlyToCustomerError _ | .aigpError _ | .segmentIdentifierParsingError _ =>
    ⟨.optionalAttributeError, []⟩
  | .unknownAttributeError _ | .bgpLsError _ => ⟨.unspecific, []⟩
  | .invalidPathAttribute .. => ⟨.attributeFlagsError, []⟩

def updateMessageErrorOfParsing : BgpUpdateMessageParsingError → UpdateMessageError
  | .nomError .eof => ⟨.malformedAttributeList, []⟩
  | .nomError _ => ⟨.unspecific, []⟩
  | .pathAttributeError err => updateMessageErrorOfAttribute err
  | .ipv4PrefixError (.nomError .eof) => ⟨.malformedAttributeList, []⟩
  | .ipv4PrefixError _ => ⟨.invalidNetworkField, []⟩
  | .invalidIpv4UnicastNetwork _ => ⟨.unspecific, []⟩

def routeRefreshErrorOfParsing (_ : BgpRouteRefreshMessageParsingError) : RouteRefreshError :=
  ⟨.invalidMessageLength, []⟩

/-! ## Events -/

/-- The events of an established transport connection, whose peer has an
address in `A`. -/
inductive ConnectionEvent (A : Type) where
  | holdTimerExpires
  | keepAliveTimerExpires
  | delayOpenTimerExpires
  | tcpConnectionRequestAcked (addr : A)
  | tcpConnectionConfirmed (addr : A)
  | tcpConnectionFails
  | bgpOpen (msg : BgpOpenMessage)
  | bgpOpenWithDelayOpenTimer (msg : BgpOpenMessage)
  | bgpHeaderErr (err : MessageHeaderError)
  | bgpOpenMsgErr (err : OpenMessageError)
  | notifMsgVerErr
  | notifMsg (msg : BgpNotificationMessage)
  | notifMsgErr (err : BgpNotificationMessageParsingError)
  | keepAliveMsg
  | updateMsg (msg : BgpUpdateMessage) (treatment : UpdateTreatment)
  | updateMsgErr (err : UpdateMessageError)
  | routeRefresh (msg : BgpRouteRefreshMessage)
  | routeRefreshErr (err : RouteRefreshError)

/-- The event of a message that could not be decoded. -/
def ConnectionEvent.ofDecoderError {A : Type} : BgpCodecDecoderError → ConnectionEvent A
  | .ioError => tcpConnectionFails
  | .incomplete _ => bgpHeaderErr ⟨.badMessageLength, []⟩
  | .bgpMessageParsingError err =>
    match err with
    | .nomError _ => bgpHeaderErr ⟨.unspecific, []⟩
    | .connectionNotSynchronized header => bgpHeaderErr ⟨.connectionNotSynchronized, octets header⟩
    | .undefinedBgpMessageType type => bgpHeaderErr ⟨.badMessageType, [type]⟩
    | .badMessageLength length => bgpHeaderErr ⟨.badMessageLength, octets length⟩
    | .bgpOpenMessageParsingError err => bgpOpenMsgErr (openMessageErrorOfParsing err)
    | .bgpUpdateMessageParsingError err => updateMsgErr (updateMessageErrorOfParsing err)
    | .bgpNotificationMessageParsingError err => notifMsgErr err
    | .bgpRouteRefreshMessageParsingError err => routeRefreshErr (routeRefreshErrorOfParsing err)

end NetCalyx.Speaker
