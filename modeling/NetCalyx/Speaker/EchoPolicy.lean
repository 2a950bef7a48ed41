import Mathlib.Data.List.Nodup
import NetCalyx.Speaker.Events

/-!
# The policy that echoes capabilities

The policy builds the OPEN messages of a peer from the configured capabilities, the capability that
carries the local AS number, and those of the last OPEN that the other side has sent, as far as they
are not rejected. It sees every event of a connection before the connection does.

`echoed_iff` says for which configurations and events the OPEN messages are well formed.
-/

namespace NetCalyx.Speaker
open NetCalyx.Bgp List

/-- The two-octet number that stands for those that need four octets. -/
def asTrans : BitVec 16 := 23456

structure EchoCapabilitiesPolicy where
  myAsn : BitVec 32
  sendAsn4CapByDefault : Bool
  myBgpId : Wire.Ipv4Addr
  remoteAs : Option (BitVec 32)
  holdTimerDuration : BitVec 16
  capabilities : List BgpCapability
  rejectCapabilities : List BgpCapability
  peerCapabilities : List BgpCapability

namespace EchoCapabilitiesPolicy

def new (myAsn : BitVec 32) (sendAsn4CapByDefault : Bool) (myBgpId : Wire.Ipv4Addr)
    (holdTimerDuration : BitVec 16) (capabilities rejectCapabilities : List BgpCapability) :
    EchoCapabilitiesPolicy where
  myAsn := myAsn
  sendAsn4CapByDefault := sendAsn4CapByDefault
  myBgpId := myBgpId
  remoteAs := none
  holdTimerDuration := holdTimerDuration
  capabilities := capabilities
  rejectCapabilities := rejectCapabilities
  peerCapabilities := []

variable (policy : EchoCapabilitiesPolicy)

def headerAsn : BitVec 16 :=
  if policy.myAsn.toNat > 65535 then asTrans else policy.myAsn.setWidth 16

/-- The configured capabilities, with that of the local AS number in front if it is wanted and not
among them. -/
def ownCapabilities : List BgpCapability :=
  let asn4Cap := .fourOctetAs policy.myAsn
  if (policy.sendAsn4CapByDefault || policy.headerAsn == asTrans) &&
      !policy.capabilities.contains asn4Cap then
    asn4Cap :: policy.capabilities
  else policy.capabilities

/-- A capability of the peer that is neither configured nor rejected. -/
def echoes (cap : BgpCapability) : Bool :=
  !policy.capabilities.contains cap && !policy.rejectCapabilities.contains cap

/-- One turn of the loop over the capabilities of the peer. -/
def echo (capabilities : List BgpCapability) (cap : BgpCapability) : List BgpCapability :=
  if policy.echoes cap then capabilities ++ [cap] else capabilities

def openMessage : BgpOpenMessage :=
  let capabilities := policy.peerCapabilities.foldl policy.echo policy.ownCapabilities
  let params := if capabilities.isEmpty then [] else [.capabilities capabilities]
  ⟨policy.headerAsn, policy.holdTimerDuration, policy.myBgpId, params⟩

/-- The capabilities of an OPEN are remembered, except for the AS number of the other side. -/
def receiveOpen (msg : BgpOpenMessage) : EchoCapabilitiesPolicy :=
  { policy with
    remoteAs := some msg.myAsn4
    peerCapabilities := msg.capabilities.filter fun cap =>
      decide (cap.code ≠ .ok .fourOctetAs) }

def preHandleConnectionEventHook {A : Type} (policy : EchoCapabilitiesPolicy) :
    ConnectionEvent A → EchoCapabilitiesPolicy
  | .bgpOpen msg | .bgpOpenWithDelayOpenTimer msg => policy.receiveOpen msg
  | _ => policy

/-! ## The capabilities of an OPEN -/

theorem foldl_echo (own caps : List BgpCapability) :
    caps.foldl policy.echo own = own ++ caps.filter policy.echoes := by
  induction caps generalizing own with
  | nil => simp
  | cons cap caps ih =>
    rw [foldl_cons, ih, echo]
    split
    · rename_i h
      rw [filter_cons_of_pos h, append_assoc]
      rfl
    · rename_i h
      rw [filter_cons_of_neg h]

theorem openMessage_capabilities :
    policy.openMessage.capabilities =
      policy.ownCapabilities ++ policy.peerCapabilities.filter policy.echoes := by
  rw [openMessage, BgpOpenMessage.capabilities, foldl_echo]
  dsimp only
  split
  · rename_i hempty
    rw [isEmpty_iff.mp hempty]
    rfl
  · simp [BgpOpenMessageParameter.caps]

variable {policy}

theorem capabilities_subset_own : policy.capabilities ⊆ policy.ownCapabilities := by
  unfold ownCapabilities
  dsimp only
  split
  · exact subset_cons_self _ _
  · exact List.Subset.refl _

variable {cap : BgpCapability}

theorem mem_ownCapabilities (h : cap ∈ policy.ownCapabilities) :
    cap ∈ policy.capabilities ∨ cap = .fourOctetAs policy.myAsn := by
  unfold ownCapabilities at h
  dsimp only at h
  split at h
  · exact (mem_cons.mp h).symm
  · exact .inl h

theorem nodup_ownCapabilities (h : policy.capabilities.Nodup) : policy.ownCapabilities.Nodup := by
  unfold ownCapabilities
  dsimp only
  split
  · rename_i hinserted
    rw [Bool.and_eq_true] at hinserted
    exact nodup_cons.mpr ⟨by simpa using hinserted.2, h⟩
  · exact h

theorem code_eq_fourOctetAs_iff :
    cap.code = .ok .fourOctetAs ↔ ∃ asn4, cap = .fourOctetAs asn4 := by
  cases cap with
  | experimental cap =>
    obtain ⟨code, value⟩ := cap
    cases code <;> simp [BgpCapability.code, ExperimentalCapabilityCode.toCapabilityCode]
  | _ => simp [BgpCapability.code]

/-! ## What the hook has seen -/

/-- The OPEN messages among the events of a connection. -/
def openOf {A : Type} : ConnectionEvent A → Option BgpOpenMessage
  | .bgpOpen msg | .bgpOpenWithDelayOpenTimer msg => some msg
  | _ => none

variable (policy)

theorem hook_eq {A : Type} (event : ConnectionEvent A) :
    policy.preHandleConnectionEventHook event =
      ((openOf event).map policy.receiveOpen).getD policy := by
  cases event <;> rfl

/-- Only the last OPEN is remembered. -/
theorem foldl_hook {A : Type} (events : List (ConnectionEvent A)) :
    events.foldl preHandleConnectionEventHook policy =
      ((events.filterMap openOf).getLast?.map policy.receiveOpen).getD policy := by
  induction events generalizing policy with
  | nil => rfl
  | cons event events ih =>
    rw [foldl_cons, ih, hook_eq]
    cases hopen : openOf event with
    | none => rw [filterMap_cons_none hopen]; rfl
    | some msg =>
      rw [filterMap_cons_some hopen, getLast?_cons]
      cases (events.filterMap openOf).getLast? <;> rfl

variable {policy}

/-! ## Well-formed OPEN messages -/

/-- A capability that carries an AS number. -/
def isFourOctetAs : BgpCapability → Bool
  | .fourOctetAs _ => true
  | _ => false

/-- What the OPEN messages of a policy should be, once the other side has sent some. -/
structure WellFormed (policy : EchoCapabilitiesPolicy) (received : List BgpOpenMessage)
    (msg : BgpOpenMessage) : Prop where
  nodup : msg.capabilities.Nodup
  oneAsn4 : msg.capabilities.countP isFourOctetAs ≤ 1
  localAsn4 : ∀ asn4, .fourOctetAs asn4 ∈ msg.capabilities → asn4 = policy.myAsn
  configured : policy.capabilities ⊆ msg.capabilities
  rejected : ∀ cap ∈ msg.capabilities, (∃ theirs ∈ received, cap ∈ theirs.capabilities) →
    cap ∉ policy.rejectCapabilities

/-- The capabilities of the last OPEN that are echoed. -/
def lastEchoed (policy : EchoCapabilitiesPolicy) (received : List BgpOpenMessage) :
    List BgpCapability :=
  (received.getLast?.elim [] BgpOpenMessage.capabilities).filter fun cap =>
    !isFourOctetAs cap && policy.echoes cap

/-- The configured AS numbers are the local one, the last OPEN has no capability twice that is
echoed, and none of the own capabilities that the other side has too is rejected. -/
structure Echoable (policy : EchoCapabilitiesPolicy) (received : List BgpOpenMessage) : Prop where
  localAsn4 : ∀ asn4, .fourOctetAs asn4 ∈ policy.capabilities → asn4 = policy.myAsn
  nodup : (policy.lastEchoed received).Nodup
  rejected : ∀ cap ∈ policy.ownCapabilities, (∃ theirs ∈ received, cap ∈ theirs.capabilities) →
    cap ∉ policy.rejectCapabilities

theorem isFourOctetAs_iff : isFourOctetAs cap = true ↔ ∃ asn4, cap = .fourOctetAs asn4 := by
  cases cap <;> simp [isFourOctetAs]

theorem receiveOpen_echoed (policy : EchoCapabilitiesPolicy) (msg : BgpOpenMessage) :
    (policy.receiveOpen msg).peerCapabilities.filter policy.echoes =
      msg.capabilities.filter fun cap => !isFourOctetAs cap && policy.echoes cap := by
  have hcode (cap : BgpCapability) :
      decide (cap.code ≠ .ok .fourOctetAs) = !isFourOctetAs cap := by
    rw [Bool.eq_iff_iff, decide_eq_true_iff, Bool.not_eq_true', Bool.eq_false_iff, ne_eq, ne_eq,
      code_eq_fourOctetAs_iff, isFourOctetAs_iff]
  rw [receiveOpen, filter_filter]
  apply filter_congr
  intro cap _
  rw [hcode, Bool.and_comm]

/-- The OPEN that is built after any events. -/
theorem capabilities_after {A : Type} (hnew : policy.peerCapabilities = [])
    (events : List (ConnectionEvent A)) :
    (events.foldl preHandleConnectionEventHook policy).openMessage.capabilities =
      policy.ownCapabilities ++ policy.lastEchoed (events.filterMap openOf) := by
  rw [foldl_hook, openMessage_capabilities, lastEchoed]
  cases (events.filterMap openOf).getLast? with
  | none =>
    rw [Option.map_none, Option.getD_none, hnew]
    rfl
  | some last =>
    rw [Option.elim_some, ← receiveOpen_echoed]
    rfl

theorem lastEchoed_spec {received : List BgpOpenMessage} (h : cap ∈ policy.lastEchoed received) :
    (∀ asn4, cap ≠ .fourOctetAs asn4) ∧ cap ∉ policy.capabilities ∧
      cap ∉ policy.rejectCapabilities := by
  obtain ⟨-, hkept⟩ := mem_filter.mp h
  simp only [Bool.and_eq_true, echoes, Bool.not_eq_true', contains_eq_mem,
    decide_eq_false_iff_not] at hkept
  refine ⟨?_, hkept.2⟩
  rintro asn4 rfl
  cases hkept.1

theorem countP_fourOctetAs_le {caps : List BgpCapability} {asn4 : BitVec 32} (hnodup : caps.Nodup)
    (hlocal : ∀ n, .fourOctetAs n ∈ caps → n = asn4) : caps.countP isFourOctetAs ≤ 1 := by
  have hcount : caps.countP isFourOctetAs = caps.count (.fourOctetAs asn4) := by
    apply countP_congr
    intro cap hcap
    rw [isFourOctetAs_iff, beq_iff_eq]
    constructor
    · rintro ⟨n, rfl⟩
      rw [hlocal n hcap]
    · rintro rfl
      exact ⟨asn4, rfl⟩
  rw [hcount]
  exact nodup_iff_count_le_one.mp hnodup _

/-- The OPEN messages that a policy builds are well formed if and only if the configuration and the
messages of the other side are as `Echoable` says. -/
theorem echoed_iff {A : Type} (myAsn : BitVec 32) (sendAsn4CapByDefault : Bool)
    (myBgpId : Wire.Ipv4Addr) (holdTimerDuration : BitVec 16)
    (capabilities rejectCapabilities : List BgpCapability) (hnodup : capabilities.Nodup)
    (events : List (ConnectionEvent A)) :
    let policy := new myAsn sendAsn4CapByDefault myBgpId holdTimerDuration capabilities
      rejectCapabilities
    let received := events.filterMap openOf
    policy.WellFormed received (events.foldl preHandleConnectionEventHook policy).openMessage ↔
      policy.Echoable received := by
  intro policy received
  have hcaps : (events.foldl preHandleConnectionEventHook policy).openMessage.capabilities =
      policy.ownCapabilities ++ policy.lastEchoed received := capabilities_after rfl events
  generalize (events.foldl preHandleConnectionEventHook policy).openMessage = msg at hcaps
  have hown : policy.ownCapabilities.Nodup := nodup_ownCapabilities hnodup
  constructor
  · intro h
    refine ⟨fun asn4 hmem => h.localAsn4 asn4 (h.configured hmem), ?_, fun cap hmem => ?_⟩
    · have hnodup := h.nodup
      rw [hcaps] at hnodup
      exact hnodup.of_append_right
    · apply h.rejected
      rw [hcaps]
      exact mem_append_left _ hmem
  · intro h
    have hlocal : ∀ asn4, .fourOctetAs asn4 ∈ msg.capabilities → asn4 = policy.myAsn := by
      intro asn4 hmem
      rw [hcaps] at hmem
      rcases mem_append.mp hmem with hmem | hmem
      · rcases mem_ownCapabilities hmem with hmem | heq
        · exact h.localAsn4 asn4 hmem
        · cases heq
          rfl
      · exact absurd rfl ((lastEchoed_spec hmem).1 asn4)
    have hnodup : msg.capabilities.Nodup := by
      rw [hcaps]
      refine nodup_append.mpr ⟨hown, h.nodup, ?_⟩
      rintro cap hmem _ hechoed rfl
      obtain ⟨hasn4, hconfigured, -⟩ := lastEchoed_spec hechoed
      rcases mem_ownCapabilities hmem with hmem | heq
      · exact hconfigured hmem
      · exact hasn4 policy.myAsn heq
    refine ⟨hnodup, countP_fourOctetAs_le hnodup hlocal, hlocal, ?_, fun cap hmem => ?_⟩
    · rw [hcaps]
      exact subset_append_of_subset_left _ capabilities_subset_own
    · rw [hcaps] at hmem
      rcases mem_append.mp hmem with hmem | hmem
      · exact h.rejected cap hmem
      · exact fun _ => (lastEchoed_spec hmem).2.2

/-- An OPEN of AS 65002 with capabilities. -/
def openWith (caps : List BgpCapability) : BgpOpenMessage := ⟨65002, 180, 2, [.capabilities caps]⟩

theorem echoed_refresh :
    let policy := new 65001 true 1 180 [.routeRefresh] []
    let received := [openWith [.routeRefresh, .fourOctetAs 65002, .extendedMessage]]
    policy.WellFormed received
      (policy.preHandleConnectionEventHook
        (.bgpOpen (A := Unit) (openWith [.routeRefresh, .fourOctetAs 65002, .extendedMessage]))
        ).openMessage := by
  refine (echoed_iff (A := Unit) 65001 true 1 180 [.routeRefresh] [] (by decide)
    [.bgpOpen (openWith [.routeRefresh, .fourOctetAs 65002, .extendedMessage])]).mpr
    ⟨by simp [new], by decide, fun cap _ _ => not_mem_nil⟩

/-- A capability that the other side lists twice is echoed twice, and a configured AS number is sent
beside the local one. -/
theorem echoed_twice :
    (preHandleConnectionEventHook (new 65001 false 1 180 [] [])
        (.bgpOpen (A := Unit) (openWith [.routeRefresh, .routeRefresh]))).openMessage.capabilities =
      [.routeRefresh, .routeRefresh] ∧
    (new 65001 true 1 180 [.fourOctetAs 65003] []).openMessage.capabilities =
      [.fourOctetAs 65001, .fourOctetAs 65003] := by
  decide +kernel

end EchoCapabilitiesPolicy

end NetCalyx.Speaker
