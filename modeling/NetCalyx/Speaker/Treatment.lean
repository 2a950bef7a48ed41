import NetCalyx.Bgp.Codec.MultiProtocol
import NetCalyx.Speaker.Events

/-!
# How severely an update with errors is treated

Each error that was passed over asks for a treatment, and the update gets the
most severe one. Two resets of address families count as equally severe, so the
first of them wins and the other family is not reset. An error in link-state
routes asks to reset a family that it does not belong to.

`treatment_iff` says for which errors the result is nevertheless right: it does
not depend on the order, it is what every single error asks for or more, and
every family with an error is reset, if not the session.
-/

namespace NetCalyx.Speaker
open Wire NetCalyx.Iana NetCalyx.Bgp UpdateTreatment List

namespace UpdateTreatment

/-- The place of a treatment in the order of severity. -/
def rank : UpdateTreatment → Nat
  | normal => 0
  | attributeDiscard => 1
  | treatAsWithdraw => 2
  | resetAddressFamily .. => 3
  | sessionReset => 4

theorem cmp_eq_lt (a b : UpdateTreatment) : a.cmp b = .lt ↔ a.rank < b.rank := by
  cases a <;> cases b <;> simp [cmp, rank]

theorem raise_eq (a b : UpdateTreatment) : a.raise b = if a.rank < b.rank then b else a := by
  unfold raise
  simp only [cmp_eq_lt]

/-- Only resets of address families share their rank. -/
theorem eq_of_rank {a b : UpdateTreatment} (h : a.rank = b.rank) :
    a = b ∨ ∃ afi safi afi' safi', a = resetAddressFamily afi safi ∧
      b = resetAddressFamily afi' safi' := by
  cases a <;> cases b <;> simp [rank] at h ⊢

theorem eq_sessionReset {a : UpdateTreatment} (h : 4 ≤ a.rank) : a = sessionReset := by
  cases a <;> simp [rank] at h ⊢

/-- The treatment does what the other one does, or more. Resets of different
families do not do each other's work. -/
def Covers (treatment needed : UpdateTreatment) : Prop :=
  needed.rank < treatment.rank ∨ needed = treatment

/-- The most severe one of a list is in it, and none is more severe. -/
theorem foldl_raise (start : UpdateTreatment) (others : List UpdateTreatment) :
    others.foldl raise start ∈ start :: others ∧
      ∀ other ∈ start :: others, other.rank ≤ (others.foldl raise start).rank := by
  induction others generalizing start with
  | nil => simp
  | cons other others ih =>
    obtain ⟨hmem, hmax⟩ := ih (start.raise other)
    rw [foldl_cons]
    rw [forall_mem_cons] at hmax
    have hraise := start.raise_eq other
    split at hraise
    case isTrue hlt =>
      rw [hraise] at hmem hmax ⊢
      refine ⟨mem_cons_of_mem _ hmem, ?_⟩
      rw [forall_mem_cons, forall_mem_cons]
      exact ⟨hlt.le.trans hmax.1, hmax⟩
    case isFalse hge =>
      rw [hraise] at hmem hmax ⊢
      rw [forall_mem_cons, forall_mem_cons]
      refine ⟨?_, hmax.1, (Nat.le_of_not_lt hge).trans hmax.1, hmax.2⟩
      rcases mem_cons.mp hmem with heq | hmem
      · exact mem_cons.mpr (.inl heq)
      · exact mem_cons_of_mem _ (mem_cons_of_mem _ hmem)

end UpdateTreatment

/-! ## Families of errors -/

/-- The families in whose reachable routes an error can occur. Errors that come
before the family is known, and those of the combinators, name none. -/
def MpReachOfFamily : MpReachParsingError → AddressType → Prop
  | .nomError _, _ | .undefinedAddressFamily _, _ | .undefinedSubsequentAddressFamily _, _ => False
  | .ipAddrError named _, type | .labeledNextHopError named _, type => type = named
  | .ipv4UnicastAddressError _, type => type = .ipv4Unicast
  | .ipv4MulticastAddressError _, type => type = .ipv4Multicast
  | .ipv4NlriMplsLabelsAddressError _, type => type = .ipv4NlriMplsLabels
  | .ipv4MplsVpnUnicastAddressError _, type => type = .ipv4MplsLabeledVpn
  | .ipv6UnicastAddressError _, type => type = .ipv6Unicast
  | .ipv6NlriMplsLabelsAddressError _, type => type = .ipv6NlriMplsLabels
  | .ipv6MulticastAddressError _, type => type = .ipv6Multicast
  | .ipv6MplsVpnUnicastAddressError _, type => type = .ipv6MplsLabeledVpn
  | .l2EvpnAddressError _, type => type = .l2VpnBgpEvpn
  | .routeTargetMembershipAddressError _, type => type = .routeTargetConstrains
  | .bgpLsNlriParsingError _, type => type = .bgpLs ∨ type = .bgpLsVpn

/-- The families in whose withdrawn routes an error can occur. -/
def MpUnreachOfFamily : MpUnreachParsingError → AddressType → Prop
  | .nomError _, _ | .undefinedAddressFamily _, _ | .undefinedSubsequentAddressFamily _, _ => False
  | .ipv4UnicastAddressError _, type => type = .ipv4Unicast
  | .ipv4MulticastAddressError _, type => type = .ipv4Multicast
  | .ipv4NlriMplsLabelsAddressError _, type => type = .ipv4NlriMplsLabels
  | .ipv4MplsVpnUnicastAddressError _, type => type = .ipv4MplsLabeledVpn
  | .ipv6UnicastAddressError _, type => type = .ipv6Unicast
  | .ipv6NlriMplsLabelsAddressError _, type => type = .ipv6NlriMplsLabels
  | .ipv6MulticastAddressError _, type => type = .ipv6Multicast
  | .ipv6MplsVpnUnicastAddressError _, type => type = .ipv6MplsLabeledVpn
  | .l2EvpnAddressError _, type => type = .l2VpnBgpEvpn
  | .routeTargetMembershipAddressError _, type => type = .routeTargetConstrains
  | .bgpLsError _, type => type = .bgpLs ∨ type = .bgpLsVpn

def OfFamily : PathAttributeParsingError → AddressType → Prop
  | .mpReachErrorError err, type => MpReachOfFamily err type
  | .mpUnreachErrorError err, type => MpUnreachOfFamily err type
  | _, _ => False

/-- An error in link-state routes. -/
def InLinkStateRoutes : PathAttributeParsingError → Prop
  | .mpReachErrorError (.bgpLsNlriParsingError _) | .mpUnreachErrorError (.bgpLsError _) => True
  | _ => False

/-! ## The treatment of an update -/

variable (errors : BgpParsingIgnoredErrors)

/-- What the errors ask for. -/
def requested : List UpdateTreatment :=
  errors.pathAttrErrors.filterMap pathErrorTreatment

theorem updateTreatment_eq :
    updateTreatment errors = (requested errors).foldl UpdateTreatment.raise .normal := by
  unfold updateTreatment requested
  generalize UpdateTreatment.normal = start
  induction errors.pathAttrErrors generalizing start with
  | nil => rfl
  | cons err errs ih =>
    rw [foldl_cons, ih, filterMap_cons]
    cases pathErrorTreatment err <;> rfl

theorem updateTreatment_mem :
    updateTreatment errors = .normal ∨ updateTreatment errors ∈ requested errors := by
  rw [updateTreatment_eq]
  exact mem_cons.mp (foldl_raise .normal (requested errors)).1

theorem rank_le_updateTreatment {errors : BgpParsingIgnoredErrors} {needed : UpdateTreatment}
    (h : needed = .normal ∨ needed ∈ requested errors) :
    needed.rank ≤ (updateTreatment errors).rank := by
  rw [updateTreatment_eq]
  exact (foldl_raise .normal (requested errors)).2 needed (mem_cons.mpr h)

/-- The errors of the update are treated as they should be. -/
structure TreatsRight (errors : BgpParsingIgnoredErrors) : Prop where
  order : ∀ errors' : BgpParsingIgnoredErrors,
    errors'.pathAttrErrors.Perm errors.pathAttrErrors →
    updateTreatment errors' = updateTreatment errors
  severe : ∀ err ∈ errors.pathAttrErrors,
    (updateTreatment errors).Covers (updateTreatment { errors with pathAttrErrors := [err] })
  family : ∀ err ∈ errors.pathAttrErrors, ∀ type, OfFamily err type →
    updateTreatment errors = .sessionReset ∨
      updateTreatment errors = .reset type.addressFamily type.subsequentAddressFamily

/-- The resets that are asked for are all of one family. -/
def OneFamily (errors : BgpParsingIgnoredErrors) : Prop :=
  ∀ afi safi afi' safi', .resetAddressFamily afi safi ∈ requested errors →
    .resetAddressFamily afi' safi' ∈ requested errors → afi = afi' ∧ safi = safi'

/-- An error of a family asks to reset that family, except in link-state routes. -/
theorem pathErrorTreatment_of_family {err : PathAttributeParsingError} {type : AddressType}
    (h : OfFamily err type) (hlinkState : ¬ InLinkStateRoutes err) :
    pathErrorTreatment err =
      some (.reset type.addressFamily type.subsequentAddressFamily) := by
  cases err <;> try exact h.elim
  case mpReachErrorError err =>
    cases err <;> first | exact h.elim | exact (hlinkState trivial).elim | (cases h; rfl)
  case mpUnreachErrorError err =>
    cases err <;> first | exact h.elim | exact (hlinkState trivial).elim | (cases h; rfl)

theorem pathErrorTreatment_linkState {err : PathAttributeParsingError}
    (h : InLinkStateRoutes err) :
    OfFamily err .bgpLs ∧ pathErrorTreatment err = some (.reset .ipv4 .routeTargetConstrains) := by
  cases err <;> try exact h.elim
  case mpReachErrorError err => cases err <;> first | exact h.elim | exact ⟨.inl rfl, rfl⟩
  case mpUnreachErrorError err => cases err <;> first | exact h.elim | exact ⟨.inl rfl, rfl⟩

theorem updateTreatment_single (errors : BgpParsingIgnoredErrors)
    (err : PathAttributeParsingError) :
    updateTreatment { errors with pathAttrErrors := [err] } =
      (pathErrorTreatment err).getD .normal := by
  rw [updateTreatment_eq]
  cases h : pathErrorTreatment err with
  | none => simp [requested, h]
  | some needed => cases needed <;> simp [requested, h] <;> rfl

section

variable {errors : BgpParsingIgnoredErrors} {err : PathAttributeParsingError}

theorem requested_of_mem {needed : UpdateTreatment} (herr : err ∈ errors.pathAttrErrors)
    (hneeded : pathErrorTreatment err = some needed) : needed ∈ requested errors :=
  mem_filterMap.mpr ⟨err, herr, hneeded⟩

theorem requested_single (herr : err ∈ errors.pathAttrErrors) :
    updateTreatment { errors with pathAttrErrors := [err] } = .normal ∨
      updateTreatment { errors with pathAttrErrors := [err] } ∈ requested errors := by
  rw [updateTreatment_single]
  cases hneeded : pathErrorTreatment err with
  | none => exact .inl rfl
  | some needed => exact .inr (requested_of_mem herr hneeded)

/-- Two treatments that the errors ask for, equally severe, are the same if
all resets are of one family. -/
theorem OneFamily.eq_of_rank (h : OneFamily errors) {a b : UpdateTreatment}
    (ha : a = .normal ∨ a ∈ requested errors) (hb : b = .normal ∨ b ∈ requested errors)
    (hrank : a.rank = b.rank) : a = b := by
  rcases UpdateTreatment.eq_of_rank hrank with heq | ⟨afi, safi, afi', safi', rfl, rfl⟩
  · exact heq
  · obtain ⟨rfl, rfl⟩ := h afi safi afi' safi' (ha.resolve_left (by simp)) (hb.resolve_left (by simp))
    rfl

/-- The result then does what is asked for, or more. -/
theorem OneFamily.covers (h : OneFamily errors) {needed : UpdateTreatment}
    (hneeded : needed = .normal ∨ needed ∈ requested errors) :
    (updateTreatment errors).Covers needed :=
  (rank_le_updateTreatment hneeded).lt_or_eq.imp_right
    (h.eq_of_rank hneeded (updateTreatment_mem errors))

theorem treatsRight_of_oneFamily (hone : OneFamily errors)
    (hlinkState : ∀ err ∈ errors.pathAttrErrors, ¬ InLinkStateRoutes err) : TreatsRight errors where
  order errors' hperm := by
    have hsame (needed : UpdateTreatment) : needed ∈ requested errors' ↔ needed ∈ requested errors :=
      (hperm.filterMap pathErrorTreatment).mem_iff
    have hmem := (updateTreatment_mem errors').imp_right (hsame _).mp
    have hmem' := (updateTreatment_mem errors).imp_right (hsame _).mpr
    exact hone.eq_of_rank hmem (updateTreatment_mem errors)
      (Nat.le_antisymm (rank_le_updateTreatment hmem) (rank_le_updateTreatment hmem'))
  severe err herr := hone.covers (requested_single herr)
  family err herr type hfamily := by
    have hneeded := pathErrorTreatment_of_family hfamily (hlinkState err herr)
    exact (hone.covers (.inr (requested_of_mem herr hneeded))).imp eq_sessionReset Eq.symm

theorem updateTreatment_sessionReset (h : .sessionReset ∈ requested errors) :
    updateTreatment errors = .sessionReset :=
  eq_sessionReset (rank_le_updateTreatment (.inr h))

theorem treatsRight_of_sessionReset (h : .sessionReset ∈ requested errors) :
    TreatsRight errors where
  order errors' hperm := by
    rw [updateTreatment_sessionReset h]
    exact updateTreatment_sessionReset ((hperm.filterMap pathErrorTreatment).mem_iff.mpr h)
  severe err _ := by
    rw [updateTreatment_sessionReset h, Covers]
    cases updateTreatment { errors with pathAttrErrors := [err] } <;> simp [rank]
  family _ _ _ _ := .inl (updateTreatment_sessionReset h)

/-- Without a reset of the session, a reset that is asked for is the result. -/
theorem TreatsRight.reset_eq (h : TreatsRight errors) (hsession : .sessionReset ∉ requested errors)
    {afi : BitVec 16} {safi : BitVec 8} (herr : err ∈ errors.pathAttrErrors)
    (hneeded : pathErrorTreatment err = some (.resetAddressFamily afi safi)) :
    updateTreatment errors = .resetAddressFamily afi safi := by
  have hcovers := h.severe err herr
  rw [updateTreatment_single, hneeded] at hcovers
  rcases hcovers with hlt | heq
  · have hmem := updateTreatment_mem errors
    rw [eq_sessionReset hlt] at hmem
    exact absurd (hmem.resolve_left (by simp)) hsession
  · exact heq.symm

end

/-- The treatment is right exactly if an error asks to reset the session, or if
all resets are of one family and none is asked for by link-state routes. -/
theorem treatment_iff (errors : BgpParsingIgnoredErrors) :
    TreatsRight errors ↔ .sessionReset ∈ requested errors ∨
      (OneFamily errors ∧ ∀ err ∈ errors.pathAttrErrors, ¬ InLinkStateRoutes err) := by
  constructor
  · intro hright
    refine or_iff_not_imp_left.mpr fun hsession => ⟨fun afi safi afi' safi' hfirst hsecond => ?_,
      fun err herr hlinkState => ?_⟩
    · obtain ⟨err, herr, hneeded⟩ := mem_filterMap.mp hfirst
      obtain ⟨err', herr', hneeded'⟩ := mem_filterMap.mp hsecond
      have heq := (hright.reset_eq hsession herr hneeded).symm.trans
        (hright.reset_eq hsession herr' hneeded')
      simpa using heq
    · obtain ⟨hfamily, hneeded⟩ := pathErrorTreatment_linkState hlinkState
      have hother := hright.family err herr _ hfamily
      rw [hright.reset_eq hsession herr hneeded] at hother
      exact absurd hother (by decide)
  · rintro (hsession | ⟨hone, hlinkState⟩)
    · exact treatsRight_of_sessionReset hsession
    · exact treatsRight_of_oneFamily hone hlinkState

/-- Errors in the routes of two families. -/
def twoFamilies : BgpParsingIgnoredErrors :=
  { BgpParsingIgnoredErrors.default with
    pathAttrErrors := [.mpReachErrorError (.l2EvpnAddressError (.nomError .eof)),
      .mpUnreachErrorError (.ipv4UnicastAddressError (.nomError .eof))] }

/-- Only one of the families is reset, and which one depends on the order. -/
theorem twoFamilies_treatment :
    updateTreatment twoFamilies = .reset .l2vpn .bgpEvpn ∧
      updateTreatment { twoFamilies with
        pathAttrErrors := twoFamilies.pathAttrErrors.reverse } = .reset .ipv4 .unicast ∧
      ¬ TreatsRight twoFamilies := by
  refine ⟨rfl, rfl, fun hright => ?_⟩
  have horder := hright.order { twoFamilies with
    pathAttrErrors := twoFamilies.pathAttrErrors.reverse } (reverse_perm _)
  exact absurd horder (by decide)

end NetCalyx.Speaker
