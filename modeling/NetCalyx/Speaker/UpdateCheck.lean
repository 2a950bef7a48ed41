import NetCalyx.Speaker.Events

/-!
# Checking received updates

`handleUpdateMessage` scans the attributes of an update with running flags and
counters and then decides between an update event and an error event. The scan
stops as soon as it has seen an origin and an AS path, so attributes behind
those two are never counted; `classified_iff` says for which updates the
decision is nevertheless independent of the order of the attributes.
-/

namespace NetCalyx.Speaker
open Wire NetCalyx.Iana NetCalyx.Bgp BgpUpdateMessage PathAttributeValue ConnectionEvent List

/-! ## The check -/

/-- The flags and counters of the scan over the attributes. -/
structure UpdateScan where
  hasOrigin : Bool := false
  hasAsnPath : Bool := false
  hasNextHop : Bool := false
  bgpMpReachCount : Nat := 0
  bgpMpUnreachCount : Nat := 0

variable (scan : UpdateScan)

def UpdateScan.note (attr : PathAttribute) : UpdateScan :=
  match attr.value with
  | .origin _ => { scan with hasOrigin := true }
  | .asPath _ => { scan with hasAsnPath := true }
  | .as4Path _ => { scan with hasAsnPath := true }
  | .nextHop _ => { scan with hasNextHop := true }
  | .mpReach _ => { scan with bgpMpReachCount := scan.bgpMpReachCount + 1 }
  | .mpUnreach _ => { scan with bgpMpUnreachCount := scan.bgpMpUnreachCount + 1 }
  | _ => scan

/-- The loop over the attributes, which leaves off once an origin and an AS
path have been seen. -/
def scanAttributes : List PathAttribute → UpdateScan → UpdateScan
  | [], scan => scan
  | attr :: attrs, scan =>
    if scan.hasOrigin && scan.hasAsnPath then scan else scanAttributes attrs (scan.note attr)

/-- The checks after the scan: the error to report, if any. -/
def checkScan (endOfRib : Option AddressType) (nlriIsEmpty : Bool) (scan : UpdateScan) :
    Option UpdateMessageError :=
  if endOfRib.isNone && !scan.hasOrigin then
    some ⟨.missingWellKnownAttribute, [PathAttributeType.origin.code]⟩
  else if endOfRib.isNone && !scan.hasAsnPath then
    some ⟨.missingWellKnownAttribute, [PathAttributeType.asPath.code]⟩
  else if endOfRib.isNone && scan.bgpMpReachCount == 0 && scan.bgpMpUnreachCount == 0 &&
      !scan.hasNextHop && !nlriIsEmpty then
    some ⟨.missingWellKnownAttribute, [PathAttributeType.nextHop.code]⟩
  else if scan.bgpMpReachCount > 1 || scan.bgpMpUnreachCount > 1 then
    some ⟨.malformedAttributeList, []⟩
  else none

def handleUpdateMessage {A : Type} (update : BgpUpdateMessage)
    (parsingErrors : BgpParsingIgnoredErrors) : Option (ConnectionEvent A) :=
  match checkScan update.endOfRib update.nlri.isEmpty
      (scanAttributes update.pathAttributes {}) with
  | some err => some (.updateMsgErr err)
  | none => some (.updateMsg update (updateTreatment parsingErrors))

/-! ## What the scan sees -/

variable (attrs : List PathAttribute)

/-- The flags and counters after noting every attribute of a list. -/
def UpdateScan.noteAll : UpdateScan :=
  attrs.foldl note scan

theorem UpdateScan.note_eq (attr : PathAttribute) :
    scan.note attr =
      { hasOrigin := scan.hasOrigin || attr.value.isOrigin
        hasAsnPath := scan.hasAsnPath || attr.value.isAsPath
        hasNextHop := scan.hasNextHop || attr.value.isNextHop
        bgpMpReachCount := scan.bgpMpReachCount + attr.value.isMpReach.toNat
        bgpMpUnreachCount := scan.bgpMpUnreachCount + attr.value.isMpUnreach.toNat } := by
  unfold note
  cases attr.value <;> simp [isOrigin, isAsPath,
    isNextHop, isMpReach, isMpUnreach,
    mpUnreach?]

theorem UpdateScan.noteAll_eq :
    scan.noteAll attrs =
      { hasOrigin := scan.hasOrigin || attrs.any (·.value.isOrigin)
        hasAsnPath := scan.hasAsnPath || attrs.any (·.value.isAsPath)
        hasNextHop := scan.hasNextHop || attrs.any (·.value.isNextHop)
        bgpMpReachCount := scan.bgpMpReachCount + attrs.countP (·.value.isMpReach)
        bgpMpUnreachCount := scan.bgpMpUnreachCount + attrs.countP (·.value.isMpUnreach) } := by
  induction attrs generalizing scan with
  | nil => simp [noteAll]
  | cons attr attrs ih =>
    have hstep : scan.noteAll (attr :: attrs) = (scan.note attr).noteAll attrs := rfl
    rw [hstep, ih, note_eq]
    cases hr : attr.value.isMpReach <;> cases hu : attr.value.isMpUnreach <;>
      simp [hr, hu, Bool.or_assoc, Nat.add_assoc, Nat.add_comm]

/-- The scan notes all attributes of some initial part of the list, and what
follows that part is skipped only when both flags are set. -/
theorem scanAttributes_split (scan : UpdateScan) :
    ∃ seen rest, attrs = seen ++ rest ∧ scanAttributes attrs scan = scan.noteAll seen ∧
      (rest = [] ∨ ((scan.noteAll seen).hasOrigin ∧ (scan.noteAll seen).hasAsnPath)) := by
  induction attrs generalizing scan with
  | nil => exact ⟨[], [], rfl, rfl, .inl rfl⟩
  | cons attr attrs ih =>
    by_cases hboth : (scan.hasOrigin && scan.hasAsnPath) = true
    · refine ⟨[], attr :: attrs, rfl, by simp [scanAttributes, hboth, UpdateScan.noteAll], .inr ?_⟩
      simpa [UpdateScan.noteAll] using hboth
    · obtain ⟨seen, rest, rfl, hscan, hrest⟩ := ih (scan.note attr)
      refine ⟨attr :: seen, rest, rfl, ?_, hrest⟩
      rw [scanAttributes, if_neg hboth, hscan]
      rfl

/-- The scan from the initial flags, field by field: a flag is set exactly when
its attribute occurs as long as the other of the two leading ones is missing,
and no counter exceeds the number of attributes it counts. -/
structure ScanOf (update : BgpUpdateMessage) (scan : UpdateScan) : Prop where
  origin : update.hasOrigin = false → scan.hasOrigin = false
  asnPath : update.hasAsPath = false → scan.hasAsnPath = false
  both : update.hasOrigin = true → update.hasAsPath = true →
    scan.hasOrigin = true ∧ scan.hasAsnPath = true
  nextHop : scan.hasNextHop = true → update.hasNextHop = true
  mpReach : scan.bgpMpReachCount ≤ update.mpReachCount
  mpUnreach : scan.bgpMpUnreachCount ≤ update.mpUnreachCount

variable (update : BgpUpdateMessage)

theorem scanOf : ScanOf update (scanAttributes update.pathAttributes {}) := by
  obtain ⟨seen, rest, hattrs, hscan, hrest⟩ := scanAttributes_split update.pathAttributes {}
  rw [UpdateScan.noteAll_eq] at hscan hrest
  rw [hscan]
  constructor
  case both =>
    intro ho hp
    obtain rfl | hboth := hrest
    · simp_all [hasOrigin, hasAsPath]
    · exact hboth
  all_goals
    simp only [hasOrigin, hasAsPath, hasNextHop,
      mpReachCount, mpUnreachCount, hattrs, any_append,
      countP_append]
    grind

/-! ## Order of the attributes -/

inductive UpdateEventKind where
  | updateMsg | updateMsgErr | other
  deriving DecidableEq

def ConnectionEvent.updateKind {A : Type} : ConnectionEvent A → UpdateEventKind
  | updateMsg .. => .updateMsg
  | updateMsgErr _ => .updateMsgErr
  | _ => .other

/-- The update is answered with an error event. -/
def rejects : Bool :=
  (checkScan update.endOfRib update.nlri.isEmpty (scanAttributes update.pathAttributes {})).isSome

theorem handleUpdateMessage_kind {A : Type} (errors : BgpParsingIgnoredErrors) :
    (handleUpdateMessage update errors : Option (ConnectionEvent A)).map
        updateKind =
      some (if rejects update then .updateMsgErr else .updateMsg) := by
  unfold handleUpdateMessage rejects
  split <;> simp_all [updateKind]

theorem checkScan_isSome (endOfRib : Option AddressType) (nlriIsEmpty : Bool)
    (scan : UpdateScan) :
    (checkScan endOfRib nlriIsEmpty scan).isSome =
      ((endOfRib.isNone && (!scan.hasOrigin || !scan.hasAsnPath ||
        (scan.bgpMpReachCount == 0 && scan.bgpMpUnreachCount == 0 && !scan.hasNextHop &&
          !nlriIsEmpty))) ||
        (decide (scan.bgpMpReachCount > 1) || decide (scan.bgpMpUnreachCount > 1))) := by
  unfold checkScan
  split_ifs <;> simp_all

variable {update : BgpUpdateMessage} {attrs : List PathAttribute}

theorem rejects_of_endOfRib (h : update.endOfRib.isSome) : rejects update = false := by
  have hscan := scanOf update
  obtain ⟨hreach, hunreach⟩ := counts_of_endOfRib h
  have h1 := hscan.mpReach
  have h2 := hscan.mpUnreach
  rw [rejects, checkScan_isSome]
  simp only [Option.isNone_eq_false_iff.mpr h, Bool.false_and, Bool.false_or, Bool.or_eq_false_iff,
    decide_eq_false_iff_not]
  omega

theorem rejects_of_missing (h : update.endOfRib = none)
    (hmissing : update.hasOrigin = false ∨ update.hasAsPath = false) : rejects update = true := by
  have hscan := scanOf update
  rw [rejects, checkScan_isSome]
  rcases hmissing with ho | hp
  · simp [h, hscan.origin ho]
  · simp [h, hscan.asnPath hp]

/-- Routes are announced without any next hop. -/
theorem rejects_of_no_nextHop (h : update.endOfRib = none) (hnlri : update.nlri ≠ [])
    (hhop : update.hasNextHop = false) (hreach : update.mpReachCount = 0)
    (hunreach : update.mpUnreachCount = 0) : rejects update = true := by
  have hscan := scanOf update
  have h1 : (scanAttributes update.pathAttributes {}).bgpMpReachCount = 0 := by
    have := hscan.mpReach; omega
  have h2 : (scanAttributes update.pathAttributes {}).bgpMpUnreachCount = 0 := by
    have := hscan.mpUnreach; omega
  have h3 : (scanAttributes update.pathAttributes {}).hasNextHop = false := by
    by_contra hne
    exact absurd (hscan.nextHop (by simpa using hne)) (by simp [hhop])
  rw [rejects, checkScan_isSome]
  simp [h, h1, h2, h3, hnlri]

/-- Both leading attributes are there, nothing is announced in the NLRI field,
and no multiprotocol attribute is repeated. -/
theorem accepts_of_empty_nlri (ho : update.hasOrigin = true) (hp : update.hasAsPath = true)
    (hnlri : update.nlri = []) (hreach : update.mpReachCount ≤ 1)
    (hunreach : update.mpUnreachCount ≤ 1) : rejects update = false := by
  have hscan := scanOf update
  obtain ⟨ho', hp'⟩ := hscan.both ho hp
  have h1 := hscan.mpReach
  have h2 := hscan.mpUnreach
  rw [rejects, checkScan_isSome]
  simp only [ho', hp', hnlri, isEmpty_nil, Bool.not_true, Bool.and_false, Bool.or_false,
    Bool.false_or, Bool.or_eq_false_iff, decide_eq_false_iff_not]
  omega

theorem scanAttributes_stop {scan : UpdateScan} (ho : scan.hasOrigin = true)
    (hp : scan.hasAsnPath = true) (attrs : List PathAttribute) :
    scanAttributes attrs scan = scan := by
  cases attrs <;> simp [scanAttributes, ho, hp]

/-- Once both leading attributes have been met, the rest is not scanned. -/
theorem scanAttributes_leading {scan : UpdateScan} {origin asPath : PathAttribute}
    (ho : origin.value.isOrigin = true) (hp : asPath.value.isAsPath = true)
    (horigin : scan.hasOrigin = false) (hpath : scan.hasAsnPath = false)
    (rest : List PathAttribute) :
    scanAttributes (origin :: asPath :: rest) scan =
      { scan with hasOrigin := true, hasAsnPath := true } := by
  have hfirst : scan.note origin = { scan with hasOrigin := true } := by
    unfold isOrigin at ho
    split at ho
    · rename_i h
      simp [UpdateScan.note, h]
    · simp at ho
  have hsecond : ({ scan with hasOrigin := true } : UpdateScan).note asPath =
      { scan with hasOrigin := true, hasAsnPath := true } := by
    unfold isAsPath at hp
    split at hp
    · rename_i h
      simp [UpdateScan.note, h]
    · rename_i h
      simp [UpdateScan.note, h]
    · simp at hp
  rw [scanAttributes, hfirst, scanAttributes, hsecond, scanAttributes_stop rfl rfl]
  simp [horigin, hpath]

/-- Any update with both leading attributes can be reordered so that they come first. -/
theorem exists_perm_leading (ho : attrs.any (·.value.isOrigin) = true)
    (hp : attrs.any (·.value.isAsPath) = true) :
    ∃ origin asPath rest, origin.value.isOrigin = true ∧ asPath.value.isAsPath = true ∧
      (origin :: asPath :: rest).Perm attrs := by
  obtain ⟨origin, hmem, horigin⟩ := any_eq_true.mp ho
  obtain ⟨asPath, hmem', hasPath⟩ := any_eq_true.mp hp
  have hne : asPath ≠ origin := by
    rintro rfl
    cases h : asPath.value <;>
      simp [h, isOrigin, isAsPath] at horigin hasPath
  have hin : asPath ∈ attrs.erase origin := (mem_erase_of_ne hne).mpr hmem'
  refine ⟨origin, asPath, (attrs.erase origin).erase asPath, horigin, hasPath, ?_⟩
  exact ((perm_cons_erase hin).symm.cons origin).trans (perm_cons_erase hmem).symm

/-- The attributes that answer for announced routes: a next hop, or one of the
multiprotocol ones. -/
def carriesHop (value : PathAttributeValue) : Bool :=
  value.isNextHop || value.isMpReach || value.isMpUnreach

theorem leading_of_carriesHop {value : PathAttributeValue} (h : carriesHop value = true) :
    value.isOrigin = false ∧ value.isAsPath = false := by
  cases value <;> simp_all [carriesHop, isNextHop,
    isMpReach, isMpUnreach, mpUnreach?,
    isOrigin, isAsPath]

/-- A member that fails a test is not the one that passes it. -/
private theorem any_erase_of_not {p : PathAttribute → Bool} {attr : PathAttribute}
    (hany : attrs.any p = true) (hattr : p attr = false) : (attrs.erase attr).any p = true := by
  obtain ⟨other, hmem, hother⟩ := any_eq_true.mp hany
  refine any_eq_true.mpr ⟨other, (mem_erase_of_ne ?_).mpr hmem, hother⟩
  rintro rfl
  simp [hattr] at hother

theorem exists_perm_hop (ho : attrs.any (·.value.isOrigin) = true)
    (hp : attrs.any (·.value.isAsPath) = true) (hh : attrs.any (carriesHop ·.value) = true) :
    ∃ hop origin asPath rest, carriesHop hop.value = true ∧ origin.value.isOrigin = true ∧
      asPath.value.isAsPath = true ∧ (hop :: origin :: asPath :: rest).Perm attrs := by
  obtain ⟨hop, hmem, hhop⟩ := any_eq_true.mp hh
  obtain ⟨hnoto, hnotp⟩ := leading_of_carriesHop hhop
  obtain ⟨origin, asPath, rest, horigin, hasPath, hperm⟩ :=
    exists_perm_leading (any_erase_of_not ho hnoto) (any_erase_of_not hp hnotp)
  exact ⟨hop, origin, asPath, rest, hhop, horigin, hasPath,
    (hperm.cons hop).trans (perm_cons_erase hmem).symm⟩

theorem rejects_leading {origin asPath : PathAttribute} {rest : List PathAttribute}
    (ho : origin.value.isOrigin = true) (hp : asPath.value.isAsPath = true)
    (heor : update.endOfRib = none) (hperm : (origin :: asPath :: rest).Perm update.pathAttributes)
    :
    rejects { update with pathAttributes := origin :: asPath :: rest } = !update.nlri.isEmpty := by
  have hnone := (endOfRib_perm hperm).trans heor
  rw [rejects, checkScan_isSome, hnone, scanAttributes_leading ho hp rfl rfl]
  simp

theorem rejects_hop {hop origin asPath : PathAttribute} {rest : List PathAttribute}
    (hhop : carriesHop hop.value = true) (ho : origin.value.isOrigin = true)
    (hp : asPath.value.isAsPath = true) :
    rejects { update with pathAttributes := hop :: origin :: asPath :: rest } = false := by
  obtain ⟨hnoto, hnotp⟩ := leading_of_carriesHop hhop
  have hfirst := UpdateScan.note_eq {} hop
  rw [hnoto, hnotp] at hfirst
  rw [rejects, checkScan_isSome, scanAttributes, hfirst, if_neg (by simp),
    scanAttributes_leading ho hp rfl rfl]
  unfold carriesHop at hhop
  cases hr : hop.value.isMpReach <;> cases hu : hop.value.isMpUnreach <;> simp_all

/-! ## Which updates are classified independently of the order -/

/-- What an update must carry to be well formed. -/
def WellFormedUpdate (update : BgpUpdateMessage) : Prop :=
  update.hasOrigin = true ∧ update.hasAsPath = true ∧ update.mpReachCount ≤ 1 ∧
    update.mpUnreachCount ≤ 1 ∧ (update.nlri ≠ [] → update.hasNextHop = true)

/-- The intended behaviour of the check on one update: the kind of event is the
same for every order of the attributes, well-formed updates are accepted, and
updates that repeat a multiprotocol attribute are not. -/
structure Classified (A : Type) (update : BgpUpdateMessage) (errors : BgpParsingIgnoredErrors) :
    Prop where
  order : ∀ attrs, attrs.Perm update.pathAttributes →
    (handleUpdateMessage { update with pathAttributes := attrs } errors :
        Option (ConnectionEvent A)).map updateKind =
      (handleUpdateMessage update errors : Option (ConnectionEvent A)).map
        updateKind
  accepted : WellFormedUpdate update →
    (handleUpdateMessage update errors : Option (ConnectionEvent A)).map
      updateKind = some .updateMsg
  repeated : 2 ≤ update.mpReachCount ∨ 2 ≤ update.mpUnreachCount →
    (handleUpdateMessage update errors : Option (ConnectionEvent A)).map
      updateKind = some .updateMsgErr

/-- The updates on which stopping the scan early makes no difference. -/
def EarlyStopHarmless (update : BgpUpdateMessage) : Prop :=
  update.endOfRib.isSome = true ∨ update.hasOrigin = false ∨ update.hasAsPath = false ∨
    (update.nlri ≠ [] ∧ update.hasNextHop = false ∧ update.mpReachCount = 0 ∧
      update.mpUnreachCount = 0) ∨
    (update.nlri = [] ∧ update.mpReachCount ≤ 1 ∧ update.mpUnreachCount ≤ 1)

theorem classified_iff_rejects {A : Type} {errors : BgpParsingIgnoredErrors} :
    Classified A update errors ↔
      (∀ attrs, attrs.Perm update.pathAttributes →
        rejects { update with pathAttributes := attrs } = rejects update) ∧
      (WellFormedUpdate update → rejects update = false) ∧
      (2 ≤ update.mpReachCount ∨ 2 ≤ update.mpUnreachCount → rejects update = true) := by
  have hkind : ∀ b c : Bool,
      (some (if b then UpdateEventKind.updateMsgErr else .updateMsg) =
        some (if c then UpdateEventKind.updateMsgErr else .updateMsg)) ↔ b = c := by
    decide
  constructor
  · rintro ⟨horder, haccepted, hrepeated⟩
    simp only [handleUpdateMessage_kind] at horder haccepted hrepeated
    exact ⟨fun attrs hperm => (hkind _ _).mp (horder attrs hperm),
      fun hwf => (hkind _ false).mp (haccepted hwf), fun hrep => (hkind _ true).mp (hrepeated hrep)⟩
  · rintro ⟨horder, haccepted, hrepeated⟩
    constructor
    · intro attrs hperm
      rw [handleUpdateMessage_kind, handleUpdateMessage_kind, horder attrs hperm]
    · intro hwf
      rw [handleUpdateMessage_kind, haccepted hwf]
      rfl
    · intro hrep
      rw [handleUpdateMessage_kind, hrepeated hrep]
      rfl

theorem harmless_perm (hperm : attrs.Perm update.pathAttributes) :
    EarlyStopHarmless { update with pathAttributes := attrs } ↔ EarlyStopHarmless update := by
  simp only [EarlyStopHarmless, endOfRib_perm hperm, hasOrigin,
    hasAsPath, hasNextHop, mpReachCount,
    mpUnreachCount, hperm.any_eq, hperm.countP_eq]

/-- On these updates the verdict only depends on which attributes are there. -/
theorem rejects_of_harmless (h : EarlyStopHarmless update) :
    rejects update =
      (update.endOfRib.isNone &&
        (!update.hasOrigin || !update.hasAsPath || !update.nlri.isEmpty)) := by
  cases heor : update.endOfRib with
  | some family => simp [@rejects_of_endOfRib update (by simp [heor])]
  | none =>
    by_cases hmissing : update.hasOrigin = false ∨ update.hasAsPath = false
    · rw [rejects_of_missing heor hmissing]
      rcases hmissing with hm | hm <;> simp [hm]
    · simp only [not_or, Bool.not_eq_false] at hmissing
      obtain ⟨ho, hp⟩ := hmissing
      simp only [EarlyStopHarmless, heor, ho, hp, Option.isSome_none, Bool.false_eq_true,
        Bool.true_eq_false, false_or] at h
      rcases h with ⟨hnlri, hhop, hreach, hunreach⟩ | ⟨hnlri, hreach, hunreach⟩
      · rw [rejects_of_no_nextHop heor hnlri hhop hreach hunreach]
        simp [hnlri]
      · rw [accepts_of_empty_nlri ho hp hnlri hreach hunreach]
        simp [ho, hp, hnlri]

theorem classified_iff (A : Type) (update : BgpUpdateMessage) (errors : BgpParsingIgnoredErrors) :
    Classified A update errors ↔ EarlyStopHarmless update := by
  rw [classified_iff_rejects]
  constructor
  · rintro ⟨horder, -, hrepeated⟩
    by_contra hharm
    simp only [EarlyStopHarmless, not_or, Bool.not_eq_true, Option.isSome_eq_false_iff,
      Option.isNone_iff_eq_none, Bool.not_eq_false] at hharm
    obtain ⟨heor, ho, hp, hbare, hempty⟩ := hharm
    obtain ⟨origin, asPath, rest, horigin, hasPath, hperm⟩ := exists_perm_leading ho hp
    have hleading := rejects_leading horigin hasPath heor hperm
    rw [horder _ hperm] at hleading
    by_cases hnlri : update.nlri = []
    · -- nothing in the NLRI field: the repeated attribute hides behind the leading two
      have hrep : 2 ≤ update.mpReachCount ∨ 2 ≤ update.mpUnreachCount := by
        by_contra hnot
        exact hempty ⟨hnlri, by omega, by omega⟩
      rw [hrepeated hrep] at hleading
      simp [hnlri] at hleading
    · -- announced routes: moving their next hop in front turns the error into an update
      have hhop : update.pathAttributes.any (carriesHop ·.value) = true := by
        by_contra hnone
        simp only [carriesHop, Bool.not_eq_true, any_eq_false, Bool.or_eq_true, not_or]
          at hnone
        refine hbare ⟨hnlri, ?_, ?_, ?_⟩
        · simpa [hasNextHop] using fun a ha => (hnone a ha).1.1
        · simpa [mpReachCount, countP_eq_zero] using
            fun a ha => (hnone a ha).1.2
        · simpa [mpUnreachCount, countP_eq_zero] using
            fun a ha => (hnone a ha).2
      obtain ⟨hop, origin', asPath', rest', hcarries, ho', hp', hperm'⟩ :=
        exists_perm_hop ho hp hhop
      have haccept := @rejects_hop update hop origin' asPath' rest' hcarries ho' hp'
      rw [horder _ hperm', hleading] at haccept
      simp [hnlri] at haccept
  · intro hharm
    refine ⟨fun attrs hperm => ?_, fun hwf => ?_, fun hrep => ?_⟩
    · rw [rejects_of_harmless hharm, rejects_of_harmless ((harmless_perm hperm).mpr hharm),
        endOfRib_perm hperm]
      simp only [hasOrigin, hasAsPath, hperm.any_eq]
    · obtain ⟨ho, hp, -, -, hhop⟩ := hwf
      rw [rejects_of_harmless hharm]
      rcases hharm with heor | hno | hno | ⟨hnlri, hno, -, -⟩ | ⟨hnlri, -, -⟩
      · simp [Option.isNone_eq_false_iff.mpr heor]
      · simp [ho] at hno
      · simp [hp] at hno
      · simp [hhop hnlri] at hno
      · simp [ho, hp, hnlri]
    · rw [rejects_of_harmless hharm]
      have heor : update.endOfRib = none := by
        by_contra hsome
        have hcounts := counts_of_endOfRib (Option.isSome_iff_ne_none.mpr hsome)
        omega
      rcases hharm with hsome | hno | hno | ⟨-, -, hreach, hunreach⟩ | ⟨-, hreach, hunreach⟩
      · simp [heor] at hsome
      · simp [heor, hno]
      · simp [heor, hno]
      · omega
      · omega

/-- The route to `10.0.0.0/8`. -/
def tenSlashEight : Ipv4UnicastAddress := ⟨none, ⟨⟨0x0a000000, 8, IpNet.eight_le⟩, by decide⟩⟩

/-- An ordinary announcement of `10.0.0.0/8`, its next hop behind origin and AS path. -/
def announcement : BgpUpdateMessage where
  withdrawnRoutes := []
  pathAttributes :=
    [.originIgp,
      ⟨false, true, false, false, .asPath (.as2PathSegments [⟨.asSequence, [65000]⟩]),
        rfl, rfl, rfl⟩,
      ⟨false, true, false, false, .nextHop 0xc0000201, rfl, rfl, rfl⟩]
  nlri := [tenSlashEight]

/-- It is well formed, yet reported as missing its next hop. -/
theorem announcement_reported :
    WellFormedUpdate announcement ∧
      (handleUpdateMessage announcement .default : Option (ConnectionEvent Unit)) =
        some (.updateMsgErr ⟨.missingWellKnownAttribute, [PathAttributeType.nextHop.code]⟩) ∧
      ¬ Classified Unit announcement .default := by
  have hwf : WellFormedUpdate announcement := by
    refine ⟨rfl, rfl, ?_, ?_, fun _ => rfl⟩ <;> decide
  refine ⟨hwf, rfl, fun hclassified => ?_⟩
  have hkind := hclassified.accepted hwf
  exact absurd hkind (by decide)

end NetCalyx.Speaker
