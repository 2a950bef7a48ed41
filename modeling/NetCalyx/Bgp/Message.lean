import NetCalyx.Bgp.Open
import NetCalyx.Bgp.PathAttribute

/-!
# BGP messages

Updates, notifications, route refreshes and the sum of all message kinds, with
`endOfRib`, the classifier of updates that only mark the end of an initial
exchange of routes.
-/

namespace NetCalyx.Bgp
open Wire NetCalyx.Iana PathAttributeValue

/-! ## Notifications -/

/-- A notification of one error class: each variant of the source is a
sub-code with the octets that go with it. -/
structure NotificationError (κ : Type) where
  subCode : κ
  value : Octets

abbrev MessageHeaderError := NotificationError MessageHeaderErrorSubCode
abbrev OpenMessageError := NotificationError OpenMessageErrorSubCode
abbrev UpdateMessageError := NotificationError UpdateMessageErrorSubCode
abbrev HoldTimerExpiredError := NotificationError (BitVec 8)
abbrev FiniteStateMachineError := NotificationError FiniteStateMachineErrorSubCode
abbrev CeaseError := NotificationError CeaseErrorSubCode
abbrev RouteRefreshError := NotificationError RouteRefreshMessageErrorSubCode

inductive BgpNotificationMessage where
  | messageHeaderError (err : MessageHeaderError)
  | openMessageError (err : OpenMessageError)
  | updateMessageError (err : UpdateMessageError)
  | holdTimerExpiredError (err : HoldTimerExpiredError)
  | finiteStateMachineError (err : FiniteStateMachineError)
  | ceaseError (err : CeaseError)
  | routeRefreshError (err : RouteRefreshError)

/-! ## Route refresh -/

structure BgpRouteRefreshMessage where
  addressType : AddressType
  operationType : RouteRefreshSubcode

/-! ## Updates -/

structure BgpUpdateMessage where
  withdrawnRoutes : List Ipv4UnicastAddress
  pathAttributes : List PathAttribute
  nlri : List Ipv4UnicastAddress

namespace PathAttributeValue

def isOrigin : PathAttributeValue → Bool
  | origin _ => true
  | _ => false

/-- An AS path, in either of its two attributes. -/
def isAsPath : PathAttributeValue → Bool
  | asPath _ | as4Path _ => true
  | _ => false

def isNextHop : PathAttributeValue → Bool
  | nextHop _ => true
  | _ => false

def isMpReach : PathAttributeValue → Bool
  | mpReach _ => true
  | _ => false

def mpUnreach? : PathAttributeValue → Option MpUnreach
  | mpUnreach unreach => some unreach
  | _ => none

def isMpUnreach (value : PathAttributeValue) : Bool := value.mpUnreach?.isSome

theorem mp_cases (value : PathAttributeValue) :
    (∃ reach, value = mpReach reach) ∨ (∃ unreach, value = mpUnreach unreach) ∨
      (value.isMpReach = false ∧ value.mpUnreach? = none) := by
  cases value <;> simp [isMpReach, mpUnreach?]

end PathAttributeValue

/-- A withdrawal attribute of a known family that names no route. -/
def MpUnreach.isEmpty : MpUnreach → Bool
  | ipv4Unicast nlri => nlri.isEmpty
  | ipv4Multicast nlri => nlri.isEmpty
  | ipv4NlriMplsLabels nlri => nlri.isEmpty
  | ipv4MplsVpnUnicast nlri => nlri.isEmpty
  | ipv6Unicast nlri => nlri.isEmpty
  | ipv6Multicast nlri => nlri.isEmpty
  | ipv6NlriMplsLabels nlri => nlri.isEmpty
  | ipv6MplsVpnUnicast nlri => nlri.isEmpty
  | l2Evpn nlri => nlri.isEmpty
  | routeTargetMembership nlri => nlri.isEmpty
  | bgpLs nlri => nlri.isEmpty
  | bgpLsVpn nlri => nlri.isEmpty
  | unknown .. => false

namespace BgpUpdateMessage

variable (update : BgpUpdateMessage)

def hasOrigin : Bool := update.pathAttributes.any (·.value.isOrigin)
def hasAsPath : Bool := update.pathAttributes.any (·.value.isAsPath)
def hasNextHop : Bool := update.pathAttributes.any (·.value.isNextHop)

def mpReachCount : Nat :=
  update.pathAttributes.countP (·.value.isMpReach)

def mpUnreachCount : Nat :=
  update.pathAttributes.countP (·.value.isMpUnreach)

/-- The classifier's loop over the attributes, with the family found so far
and the number of `MP_UNREACH_NLRI` attributes seen. -/
def endOfRibLoop : List PathAttribute → Option AddressType → Nat → Option AddressType
  | [], current, _ => current
  | attr :: attrs, current, mpUnreachCount =>
    match attr.value with
    | .mpReach _ => none
    | .mpUnreach unreach =>
      if mpUnreachCount + 1 > 1 then none
      else
        match unreach.addressType with
        -- an unknown family is assumed not to mark the end
        | .error _ => endOfRibLoop attrs none (mpUnreachCount + 1)
        | .ok family =>
          endOfRibLoop attrs (if unreach.isEmpty then some family else current)
            (mpUnreachCount + 1)
    | _ => endOfRibLoop attrs current mpUnreachCount

/-- The family an update marks the end of, if it carries nothing else. -/
def endOfRib : Option AddressType :=
  if !update.nlri.isEmpty || !update.withdrawnRoutes.isEmpty then none
  else if update.pathAttributes.isEmpty then some .ipv4Unicast
  else endOfRibLoop update.pathAttributes none 0

/-- The family a withdrawal attribute marks the end of, if it is alone. -/
def markedFamily (unreach : MpUnreach) : Option AddressType :=
  match unreach.addressType with
  | .error _ => none
  | .ok family => if unreach.isEmpty then some family else none

/-- The loop of the classifier, in terms of the withdrawal attributes alone. -/
def markedBy : List MpUnreach → Option AddressType
  | [unreach] => markedFamily unreach
  | _ => none

variable {attrs : List PathAttribute}

@[simp] theorem endOfRibLoop_other {attr : PathAttribute} {current : Option AddressType}
    {count : Nat} (hreach : attr.value.isMpReach = false) (hunreach : attr.value.mpUnreach? = none) :
    endOfRibLoop (attr :: attrs) current count = endOfRibLoop attrs current count := by
  rw [endOfRibLoop]
  split <;> simp_all [isMpReach, mpUnreach?]

/-- After a first withdrawal attribute, any other multiprotocol attribute
rules the marker out. -/
theorem endOfRibLoop_counted {current : Option AddressType} {count : Nat} (hcount : 0 < count) :
    endOfRibLoop attrs current count =
      if attrs.any (·.value.isMpReach) = false ∧ attrs.filterMap (·.value.mpUnreach?) = []
      then current else none := by
  induction attrs with
  | nil => rfl
  | cons attr attrs ih =>
    obtain ⟨reach, h⟩ | ⟨unreach, h⟩ | ⟨hr, hu⟩ := attr.value.mp_cases
    · simp [endOfRibLoop, h, isMpReach]
    · have hgt : count + 1 > 1 := by omega
      simp [endOfRibLoop, h, hgt, mpUnreach?]
    · rw [endOfRibLoop_other hr hu, ih]
      simp [hr, hu]

/-- The classifier depends on the attributes only through the presence of an
announcement and the list of withdrawal attributes. -/
theorem endOfRibLoop_eq (attrs : List PathAttribute) :
    endOfRibLoop attrs none 0 =
      if attrs.any (·.value.isMpReach) then none
      else markedBy (attrs.filterMap (·.value.mpUnreach?)) := by
  induction attrs with
  | nil => rfl
  | cons attr attrs ih =>
    obtain ⟨reach, h⟩ | ⟨unreach, h⟩ | ⟨hr, hu⟩ := attr.value.mp_cases
    · simp [endOfRibLoop, h, isMpReach]
    · have hstep : endOfRibLoop (attr :: attrs) none 0 =
          endOfRibLoop attrs (markedFamily unreach) 1 := by
        simp only [endOfRibLoop, h, markedFamily]
        cases unreach.addressType <;> simp
      rw [hstep, endOfRibLoop_counted Nat.one_pos]
      cases hrest : attrs.filterMap (·.value.mpUnreach?) <;>
        cases hany : attrs.any (·.value.isMpReach) <;>
        simp_all [isMpReach, mpUnreach?, markedBy]
    · rw [endOfRibLoop_other hr hu, ih]
      simp [hr, hu]

theorem markedBy_of_length {us : List MpUnreach} (h : us.length ≠ 1) : markedBy us = none := by
  unfold markedBy
  split
  · exact absurd rfl h
  · rfl

theorem markedBy_perm {us vs : List MpUnreach} (h : us.Perm vs) : markedBy us = markedBy vs := by
  by_cases hlen : us.length = 1
  · obtain ⟨u, rfl⟩ := List.length_eq_one_iff.mp hlen
    rw [List.singleton_perm.mp h]
  · rw [markedBy_of_length hlen, markedBy_of_length (h.length_eq ▸ hlen)]

variable {update : BgpUpdateMessage}

/-- Whether an update marks the end of a family does not depend on the order
of its attributes. -/
theorem endOfRib_perm (h : attrs.Perm update.pathAttributes) :
    endOfRib { update with pathAttributes := attrs } = endOfRib update := by
  have hempty : attrs.isEmpty = update.pathAttributes.isEmpty := h.isEmpty_eq
  have hmarked := markedBy_perm (h.filterMap (·.value.mpUnreach?))
  simp only [endOfRib, endOfRibLoop_eq, hempty, h.any_eq, hmarked]

/-- A marker of an end carries at most one multiprotocol attribute, a withdrawal. -/
theorem counts_of_endOfRib (h : update.endOfRib.isSome) :
    update.mpReachCount = 0 ∧ update.mpUnreachCount ≤ 1 := by
  unfold endOfRib at h
  split at h
  · simp at h
  · split at h
    · rename_i hnil
      simp_all [mpReachCount, mpUnreachCount]
    · rw [endOfRibLoop_eq] at h
      split at h
      · simp at h
      · rename_i hreach
        refine ⟨by simpa [mpReachCount, List.countP_eq_zero] using hreach, ?_⟩
        have hlen : (update.pathAttributes.filterMap (·.value.mpUnreach?)).length = 1 := by
          by_contra hne
          simp [markedBy_of_length hne] at h
        rw [List.length_filterMap_eq_countP] at hlen
        exact hlen.le

variable {t : AddressType}

/-- What the classifier answers: attributes other than the multiprotocol ones do not count. -/
theorem endOfRib_eq_some_iff :
    update.endOfRib = some t ↔
      update.nlri = [] ∧ update.withdrawnRoutes = [] ∧
        (update.pathAttributes = [] ∧ t = .ipv4Unicast ∨
          (∀ attr ∈ update.pathAttributes, attr.value.isMpReach = false) ∧
            ∃ unreach, update.pathAttributes.filterMap (·.value.mpUnreach?) = [unreach] ∧
              unreach.addressType = .ok t ∧ unreach.isEmpty = true) := by
  have hfamily (unreach : MpUnreach) : markedFamily unreach = some t ↔
      unreach.addressType = .ok t ∧ unreach.isEmpty = true := by
    rw [markedFamily]
    cases unreach.addressType <;> simp [and_comm]
  have hmarked (us : List MpUnreach) : markedBy us = some t ↔
      ∃ unreach, us = [unreach] ∧ unreach.addressType = .ok t ∧ unreach.isEmpty = true := by
    constructor
    · intro h
      by_cases hlen : us.length = 1
      · obtain ⟨unreach, rfl⟩ := List.length_eq_one_iff.mp hlen
        exact ⟨unreach, rfl, (hfamily unreach).mp h⟩
      · rw [markedBy_of_length hlen] at h
        cases h
    · rintro ⟨unreach, rfl, h⟩
      exact (hfamily unreach).mpr h
  unfold endOfRib
  split
  · rename_i hroutes
    refine iff_of_false (fun h => nomatch h) ?_
    rintro ⟨hnlri, hwithdrawn, -⟩
    simp [hnlri, hwithdrawn] at hroutes
  · rename_i hroutes
    simp only [Bool.or_eq_true, Bool.not_eq_true', not_or, Bool.not_eq_false,
      List.isEmpty_iff] at hroutes
    split
    · rename_i hnil
      rw [List.isEmpty_iff] at hnil
      rw [hnil, Option.some.injEq]
      constructor
      · rintro rfl
        exact ⟨hroutes.1, hroutes.2, .inl ⟨rfl, rfl⟩⟩
      · rintro ⟨-, -, ⟨-, rfl⟩ | ⟨-, unreach, hunreach, -⟩⟩
        · rfl
        · cases hunreach
    · rename_i hnil
      rw [List.isEmpty_iff] at hnil
      rw [endOfRibLoop_eq]
      simp only [hroutes, hnil, true_and, false_and, false_or, ← hmarked]
      split
      · rename_i hreach
        obtain ⟨attr, hattr, hreach⟩ := List.any_eq_true.mp hreach
        simp only [reduceCtorEq, false_iff, not_and]
        intro hall
        rw [hall attr hattr] at hreach
        cases hreach
      · rename_i hreach
        have hall : ∀ attr ∈ update.pathAttributes, attr.value.isMpReach = false := by
          simpa using hreach
        exact ⟨fun h => ⟨hall, h⟩, fun h => h.2⟩

/-! ## Exactness of the classifier -/

/-- An update that marks the end of a family: the empty one, or one whose only attribute withdraws
nothing of that family. -/
def MarksEnd (update : BgpUpdateMessage) (t : AddressType) : Prop :=
  t = .ipv4Unicast ∧ update = ⟨[], [], []⟩ ∨
    update.withdrawnRoutes = [] ∧ update.nlri = [] ∧
      ∃ attr unreach, update.pathAttributes = [attr] ∧ attr.value = .mpUnreach unreach ∧
        unreach.addressType = .ok t ∧ unreach.isEmpty = true

/-- Where no route is announced or withdrawn and the only multiprotocol attribute withdraws nothing
of a known family, there is no other attribute. -/
def MarkerAlone (update : BgpUpdateMessage) : Prop :=
  update.withdrawnRoutes = [] → update.nlri = [] →
    (∀ attr ∈ update.pathAttributes, attr.value.isMpReach = false) →
    ∀ unreach t, update.pathAttributes.filterMap (·.value.mpUnreach?) = [unreach] →
      unreach.addressType = .ok t → unreach.isEmpty = true → update.pathAttributes.length = 1

theorem endOfRib_of_marksEnd (h : update.MarksEnd t) : update.endOfRib = some t := by
  rw [endOfRib_eq_some_iff]
  rcases h with ⟨rfl, rfl⟩ | ⟨hwithdrawn, hnlri, attr, unreach, hattrs, hvalue, hfamily⟩
  · exact ⟨rfl, rfl, .inl ⟨rfl, rfl⟩⟩
  · refine ⟨hnlri, hwithdrawn, .inr ⟨?_, unreach, ?_, hfamily⟩⟩
    · rw [hattrs]
      simp [hvalue, isMpReach]
    · rw [hattrs]
      simp [hvalue, mpUnreach?]

theorem marksEnd_of_endOfRib (halone : update.MarkerAlone) (h : update.endOfRib = some t) :
    update.MarksEnd t := by
  obtain ⟨hnlri, hwithdrawn, ⟨hattrs, rfl⟩ | ⟨hreach, unreach, hunreach, hfamily, hempty⟩⟩ :=
    endOfRib_eq_some_iff.mp h
  · obtain ⟨withdrawn, attrs, nlri⟩ := update
    cases hnlri
    cases hwithdrawn
    cases hattrs
    exact .inl ⟨rfl, rfl⟩
  · have hlength := halone hwithdrawn hnlri hreach unreach t hunreach hfamily hempty
    obtain ⟨attr, hattrs⟩ := List.length_eq_one_iff.mp hlength
    refine .inr ⟨hwithdrawn, hnlri, attr, unreach, hattrs, ?_, hfamily, hempty⟩
    rw [hattrs] at hunreach
    obtain ⟨reach, hvalue⟩ | ⟨unreach', hvalue⟩ | ⟨-, hnone⟩ := attr.value.mp_cases
    · simp [hvalue, mpUnreach?] at hunreach
    · simp only [hvalue, mpUnreach?, List.filterMap_cons,
        List.filterMap_nil] at hunreach
      cases hunreach
      exact hvalue
    · simp [hnone] at hunreach

/-- The classifier finds exactly the updates that mark an end, whatever the order of the
attributes, if and only if a marker that stands with other attributes does not occur. -/
theorem endOfRib_exact_iff (update : BgpUpdateMessage) :
    ((∀ t, update.endOfRib = some t ↔ update.MarksEnd t) ∧
        ∀ attrs, attrs.Perm update.pathAttributes →
          endOfRib { update with pathAttributes := attrs } = update.endOfRib) ↔
      update.MarkerAlone := by
  constructor
  · rintro ⟨hexact, -⟩ hwithdrawn hnlri hreach unreach t hunreach hfamily hempty
    have hmarked := endOfRib_eq_some_iff.mpr
      ⟨hnlri, hwithdrawn, .inr ⟨hreach, unreach, hunreach, hfamily, hempty⟩⟩
    rcases (hexact t).mp hmarked with ⟨-, rfl⟩ | ⟨-, -, attr, -, hattrs, -⟩
    · cases hunreach
    · rw [hattrs]
      rfl
  · intro halone
    exact ⟨fun t => ⟨marksEnd_of_endOfRib halone, endOfRib_of_marksEnd⟩,
      fun attrs hperm => endOfRib_perm hperm⟩

/-- An update with an origin and an empty withdrawal of IPv6 routes. -/
def accompaniedMarker : BgpUpdateMessage :=
  ⟨[], [.originIgp,
    ⟨true, false, false, false, .mpUnreach (.ipv6Unicast []), rfl, rfl, rfl⟩], []⟩

theorem accompaniedMarker_classified :
    accompaniedMarker.endOfRib = some .ipv6Unicast ∧ ¬ accompaniedMarker.MarksEnd .ipv6Unicast := by
  refine ⟨rfl, ?_⟩
  rintro (⟨h, -⟩ | ⟨-, -, attr, unreach, hattrs, -⟩)
  · cases h
  · cases hattrs

end BgpUpdateMessage

/-! ## All messages -/

inductive BgpMessage where
  | openMessage (msg : BgpOpenMessage)
  | update (msg : BgpUpdateMessage)
  | notification (msg : BgpNotificationMessage)
  | keepAlive
  | routeRefresh (msg : BgpRouteRefreshMessage)

def BgpMessage.getType : BgpMessage → BgpMessageType
  | openMessage _ => .openMessage
  | update _ => .update
  | notification _ => .notification
  | keepAlive => .keepAlive
  | routeRefresh _ => .routeRefresh

end NetCalyx.Bgp
