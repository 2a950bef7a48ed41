import Mathlib.Tactic.Common
import NetCalyx.Speaker.Peer
import NetCalyx.Speaker.Timers

/-!
# Which connection survives a collision

Two speakers that connect to each other at the same time end up with two
connections and have to agree on one of them. The identifier of the speaker
that asked for a connection names it at both ends, so agreement can be stated
by initiators alone.

The peer compares its identifier with the other one, but then chooses between
its main and its tracked connection and never looks at who asked for them. The
choice is the one by initiator exactly if the main connection is the one the
peer asked for (`survivor_iff`).
-/

namespace NetCalyx.Speaker
open Wire Timer NetCalyx.Bgp

/-- The identifier of the speaker that asked for a connection. -/
def ConnectionType.initiator (local_ remote : Ipv4Addr) : ConnectionType → Ipv4Addr
  | active => local_
  | passive => remote

/-- Of two speakers, the one with the higher identifier. -/
def higher (a b : Ipv4Addr) : Ipv4Addr := if a < b then b else a

namespace Peer
variable {A : Type}

/-- The peer has two connections, one from each side, and the other speaker has
identified itself on both. -/
structure Colliding (peer : Peer A) (main tracked : PeerConnection A) (peerBgpId : Ipv4Addr) :
    Prop where
  main_eq : peer.connection = some main
  tracked_eq : peer.trackedConnection = some tracked
  main_id : main.peerBgpId = some peerBgpId
  tracked_id : tracked.peerBgpId = some peerBgpId
  types : main.connectionType ≠ tracked.connectionType
  ids : peer.properties.myBgpId ≠ peerBgpId

/-- The connection that is left if the peer goes on. -/
def kept : Peer A × PeerResult A → Option (PeerConnection A)
  | (peer, .ok _) => peer.connection
  | (_, .error _) => none

/-- The connection that survives the resolution of a collision. -/
def survivor (peer : Peer A) (env : PeerEnv A) : Option (PeerConnection A) :=
  match checkConnectionCollision peer.properties.myBgpId peer.connection peer.trackedConnection with
  | some .dropMain => kept (peer.handleConnectEvent env .dropMain)
  | some .dropTracked => kept (peer.handleConnectEvent env .dropTracked)
  | some (.invalidTrackedBgpId _) | none => none

/-- The speaker that asked for the connection that survives. -/
def survivingInitiator (peer : Peer A) (env : PeerEnv A) (peerBgpId : Ipv4Addr) :
    Option Ipv4Addr :=
  (peer.survivor env).map (·.connectionType.initiator peer.properties.myBgpId peerBgpId)

/-- The tracked connection can take the place of the main one. -/
def Replaces (tracked : PeerConnection A) : Prop := (fsmStateFromTracked tracked.state).isSome

/-! ## The choice -/

variable {main tracked : PeerConnection A} {peerBgpId : Ipv4Addr}

theorem Colliding.check {peer : Peer A} (h : peer.Colliding main tracked peerBgpId) :
    checkConnectionCollision peer.properties.myBgpId peer.connection peer.trackedConnection =
      some (if peer.properties.myBgpId < peerBgpId then .dropMain else .dropTracked) := by
  unfold checkConnectionCollision
  simp only [h.main_eq, h.tracked_eq, Option.bind_some, h.main_id, h.tracked_id, Option.map_some,
    ne_eq, not_true_eq_false, if_false, h.ids, false_and, or_false]
  split <;> rfl

/-- The lower speaker keeps its tracked connection, the higher one its main one. -/
theorem Colliding.survivor_eq {peer : Peer A} (h : peer.Colliding main tracked peerBgpId)
    (env : PeerEnv A) :
    peer.survivor env =
      if peer.properties.myBgpId < peerBgpId then
        (fsmStateFromTracked tracked.state).map fun _ => tracked
      else some main := by
  unfold survivor
  rw [h.check]
  by_cases hlt : peer.properties.myBgpId < peerBgpId
  · simp only [hlt, if_true, handleConnectEvent, h.tracked_eq]
    cases fsmStateFromTracked tracked.state with
    | none | some fsmState => rfl
  · simp only [hlt, if_false, handleConnectEvent]
    exact h.main_eq

theorem Colliding.initiator_eq {peer : Peer A} (h : peer.Colliding main tracked peerBgpId)
    (env : PeerEnv A) (hreplaces : peer.properties.myBgpId < peerBgpId → Replaces tracked) :
    peer.survivingInitiator env peerBgpId =
      some (if main.connectionType = .active then higher peer.properties.myBgpId peerBgpId
        else if peer.properties.myBgpId < peerBgpId then peer.properties.myBgpId
        else peerBgpId) := by
  have htypes := h.types
  unfold survivingInitiator higher
  rw [h.survivor_eq env]
  by_cases hlt : peer.properties.myBgpId < peerBgpId
  · obtain ⟨fsmState, hstate⟩ := Option.isSome_iff_exists.mp (hreplaces hlt)
    cases hmain : main.connectionType <;> cases htracked : tracked.connectionType <;>
      simp_all [ConnectionType.initiator]
  · cases hmain : main.connectionType <;> simp [hlt, hmain, ConnectionType.initiator]

/-! ## Agreement -/

/-- The survivor is the connection the higher speaker asked for exactly if the
main connection is the one the peer itself asked for, and, where the tracked one
has to take over, it can. If two speakers have chosen opposite main connections
they keep the same one whenever the lower one's tracked connection can take
over, be it the right one or not. -/
theorem survivor_iff {peer : Peer A} {main tracked : PeerConnection A} {peerBgpId : Ipv4Addr}
    (h : peer.Colliding main tracked peerBgpId) (env : PeerEnv A) :
    (peer.survivingInitiator env peerBgpId = some (higher peer.properties.myBgpId peerBgpId) ↔
      main.connectionType = .active ∧
        (peer.properties.myBgpId < peerBgpId → Replaces tracked)) ∧
    ∀ {other : Peer A} {main' tracked' : PeerConnection A},
      other.Colliding main' tracked' peer.properties.myBgpId →
      other.properties.myBgpId = peerBgpId → main.connectionType = main'.connectionType →
      (peer.properties.myBgpId < peerBgpId → Replaces tracked) →
      (peerBgpId < peer.properties.myBgpId → Replaces tracked') →
      ∀ env', peer.survivingInitiator env peerBgpId =
        other.survivingInitiator env' peer.properties.myBgpId := by
  refine ⟨?_, ?_⟩
  · constructor
    · intro hright
      have hreplaces : peer.properties.myBgpId < peerBgpId → Replaces tracked := by
        intro hlt
        by_contra hnone
        have hstate : fsmStateFromTracked tracked.state = none := by
          simpa [Replaces] using hnone
        simp [survivingInitiator, h.survivor_eq env, hlt, hstate] at hright
      refine ⟨?_, hreplaces⟩
      by_contra hpassive
      rw [h.initiator_eq env hreplaces, if_neg hpassive] at hright
      have hids := h.ids
      unfold higher at hright
      split at hright
      · exact hids (Option.some.inj hright)
      · exact hids (Option.some.inj hright).symm
    · rintro ⟨hactive, hreplaces⟩
      rw [h.initiator_eq env hreplaces, if_pos hactive]
  · intro other main' tracked' h' hid htypes hreplaces hreplaces' env'
    subst hid
    rw [h.initiator_eq env hreplaces, h'.initiator_eq env' hreplaces', ← htypes]
    have hids := h.ids
    unfold higher
    by_cases hlt : peer.properties.myBgpId < other.properties.myBgpId
    · simp [hlt, BitVec.lt_asymm hlt]
    · have hgt := BitVec.lt_of_le_ne (BitVec.not_lt.mp hlt) (Ne.symm hids)
      simp [hlt, hgt]

/-! ## Two runs into a collision -/

/-- Nothing fails, and the policy leaves events as they are. -/
def calm (now : Nat) : PeerEnv Unit where
  toEnv := Connection.reliable now
  trackedTransport := fun _ => .sent
  scaling := Connection.plainScaling
  preHandleConnectionEventHook := fun event _ => event
  postHandleConnectionEventHook := fun event _ => event

def calmTurn (polls : List (Poll Unit)) (ready : Ready) : Turn Unit where
  env := calm 0
  polls := polls
  connectPolled := true
  ready := ready

/-- The peer at `10.0.0.3`, whose neighbour is at `10.0.0.2`. -/
def higherPeer (openDelay : BitVec 16) : Peer Unit :=
  .new ⟨65000, 0x0a000003, (), false⟩ { PeerConfig.default with openDelayTimerDuration := openDelay }

def openReceived : Inbound := .message (.openMessage (Connection.peerOpen 90)) .default

/-- Our attempt succeeds, then the neighbour's connection is accepted and the
neighbour identifies itself on ours. -/
def ownConnectionFirst : List (Op Unit) :=
  [.admin .manualStart, .run (calmTurn [] .abandoned), .run (calmTurn [] (.connect .stream)),
    .admin (.tcpConnectionConfirmed ()), .run (calmTurn [] .abandoned),
    .run (calmTurn [.main (calm 0) openReceived] .abandoned)]

/-- The neighbour's connection is accepted while we wait to send our OPEN, then
our attempt succeeds. -/
def acceptedConnectionFirst : List (Op Unit) :=
  [.admin .manualStart, .run (calmTurn [] .abandoned), .admin (.tcpConnectionConfirmed ()),
    .run (calmTurn [] (.connect .stream)), .run (calmTurn [] (.connect .stream)),
    .run (calmTurn [.main (calm 0) openReceived] .abandoned)]

/-- The peer when the neighbour has identified itself on the tracked connection too. -/
def collided (openDelay : BitVec 16) (ops : List (Op Unit)) : Peer Unit :=
  let peer := ops.foldl (fun peer op => (peer.step op).1) (higherPeer openDelay)
  peer.waited (Polled.nextConnectionEvent peer.properties.myBgpId peer.fsmState peer.polled
    [.tracked (calm 0) openReceived]).1 false

theorem ownConnectionFirst_survives :
    (collided 0 ownConnectionFirst).survivingInitiator (calm 0) 0x0a000002 =
      some (higher 0x0a000003 0x0a000002) :=
  (@survivor_iff Unit (collided 0 ownConnectionFirst) _ _ 0x0a000002
    ⟨rfl, rfl, rfl, rfl, by decide, by decide⟩ (calm 0)).1.mpr
    ⟨rfl, fun hlt => absurd hlt (by decide)⟩

/-- The neighbour's connection survives although we have the higher identifier. -/
theorem acceptedConnectionFirst_survives :
    (∃ main tracked, (collided 5 acceptedConnectionFirst).Colliding main tracked 0x0a000002) ∧
      (collided 5 acceptedConnectionFirst).survivingInitiator (calm 0) 0x0a000002 ≠
        some (higher 0x0a000003 0x0a000002) :=
  ⟨⟨_, _, rfl, rfl, rfl, rfl, by decide, by decide⟩, by decide⟩

end Peer

end NetCalyx.Speaker
