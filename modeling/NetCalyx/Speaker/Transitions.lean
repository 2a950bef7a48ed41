import NetCalyx.Speaker.MainEvents

/-!
# The table of transitions is complete

The handlers of a connection and the transitions of its peer are two tables, and they fit
together: whatever the main connection yields, the peer has a transition for it. Only a connection
that is already terminated has none, and no run leaves the peer with one, as long as writes succeed
and the policy does not replace events (`transition_table_complete`).
-/

namespace NetCalyx.Speaker
open NetCalyx.Bgp

variable {A : Type}

/-! ## Events of a poll -/

/-- The transport has come up. Polls do not tell this, the peer does. -/
def ConnectionEvent.transportUp : ConnectionEvent A → Bool
  | tcpConnectionRequestAcked _ | tcpConnectionConfirmed _ => true
  | _ => false

namespace Connection

theorem ofDecoderError_polled (err : BgpCodecDecoderError) :
    (ConnectionEvent.ofDecoderError err : ConnectionEvent A).transportUp = false := by
  cases err with
  | bgpMessageParsingError err => cases err <;> rfl
  | _ => rfl

theorem receive_polled {conn : Connection} {clock : Clock} {msg : BgpMessage}
    {errors : BgpParsingIgnoredErrors} {event : ConnectionEvent A}
    (h : (conn.receive clock msg errors).2 = some event) : event.transportUp = false := by
  cases msg with
  | openMessage msg =>
    simp only [receive, handleOpenMessage] at h
    split at h
    · cases h
      rfl
    · split at h <;> cases h <;> rfl
  | update update =>
    simp only [receive, handleUpdateMessage] at h
    split at h <;> cases h <;> rfl
  | notification notif =>
    simp only [receive] at h
    split at h <;> cases h <;> rfl
  | keepAlive | routeRefresh _ =>
    cases h
    rfl

/-- A poll leaves the state as it is, and does not tell that the transport has come up. -/
theorem pollNext_polled {conn after : Connection} {clock : Clock} {inbound : Inbound}
    {event : Option (ConnectionEvent A)} (h : conn.pollNext clock inbound = (after, event)) :
    after.state = conn.state ∧ ∀ e, event = some e → e.transportUp = false := by
  constructor
  · have heffect := pollNext_effect (A := A) conn clock inbound
    rw [h] at heffect
    cases heffect with
    | keepaliveTick same _ | other same _ _ => exact same.state
    | holdTick _ _ => rfl
  · rintro e rfl
    unfold pollNext at h
    split at h
    · cases h
      rfl
    · split at h
      · cases h
        rfl
      · split at h
        · cases h
          rfl
        · split at h
          · cases h
          · cases h
            rfl
          · cases h
            exact ofDecoderError_polled _
          · exact receive_polled (congrArg Prod.snd h)

theorem trySend_sent {conn : Connection} {env : Env} (henv : ∀ msg, env.transport msg = .sent)
    (msg : BgpMessage) (next : Connection → Connection × Option SendError) :
    conn.trySend env msg next = next (conn.startSend env.toClock msg) := by
  simp [trySend, send, henv]

theorem startSend_state (conn : Connection) (clock : Clock) (msg : BgpMessage) :
    (conn.startSend clock msg).state = conn.state :=
  (startSend_same conn clock msg).state

end Connection

/-! ## The two tables -/

/-- Writes succeed, and the policy leaves events as they are. -/
structure PeerEnv.Undisturbed (env : PeerEnv A) : Prop where
  sends : ∀ msg, env.transport msg = .sent
  pre : ∀ event conn, env.preHandleConnectionEventHook event conn = event
  post : ∀ event conn, env.postHandleConnectionEventHook event conn = event

namespace Peer
open Connection

/-- The peer has a transition for the event. It keeps the connection only if that is not
terminated. -/
structure Accepts (peer : Peer A) (after : Connection) (now : Nat) (before : ConnectionState)
    (event : ConnectionEvent A) : Prop where
  valid : (peer.transition after now before event).2 = true
  live : (peer.transition after now before event).1.connection.isSome → after.state ≠ .terminate
  same : ∀ conn, (peer.transition after now before event).1.connection = some conn →
    peer.connection = some conn

/-- The event is handled without a failed write, and every peer has a transition for it. -/
def Handled (handled : Connection × Option SendError) (now : Nat) (before : ConnectionState)
    (event : ConnectionEvent A) : Prop :=
  handled.2 = none ∧ ∀ peer : Peer A, peer.Accepts handled.1 now before event

section Tables

variable {env : Env} (henv : ∀ msg, env.transport msg = .sent) (conn : Connection)
  (now : Nat) {event : ConnectionEvent A} (hevent : event.transportUp = false)
include henv hevent

theorem accepts_connected (hstate : conn.state = .connected) :
    Handled (conn.handleConnectedEvent env event) now .connected event := by
  cases event with
  | tcpConnectionRequestAcked | tcpConnectionConfirmed => cases hevent
  | tcpConnectionFails =>
    refine ⟨rfl, fun peer => ?_⟩
    simp only [handleConnectedEvent]
    constructor <;> simp only [transition, connectedToTerminate] <;> split <;>
      simp [retryLater, fail, drop] <;> split <;> simp
  | notifMsgVerErr =>
    refine ⟨rfl, fun peer => ?_⟩
    simp only [handleConnectedEvent]
    constructor <;> simp only [transition, connectedToTerminate] <;> split <;>
      simp [fail, drop]
  | _ =>
    simp only [handleConnectedEvent, sendOpen, trySend_sent henv]
    refine ⟨rfl, fun peer => ⟨?_, ?_, ?_⟩⟩ <;>
      simp [transition, hstate, stayConnected, connectedToOpenSent, connectedToOpenConfirm,
        connectedToTerminate, fail]

theorem accepts_openSent (hstate : conn.state = .openSent) :
    Handled (conn.handleOpenSentEvent env event) now .openSent event := by
  cases event with
  | tcpConnectionRequestAcked | tcpConnectionConfirmed => cases hevent
  | _ =>
    simp only [handleOpenSentEvent, trySend_sent henv]
    refine ⟨rfl, fun peer => ⟨?_, ?_, ?_⟩⟩ <;>
      simp [transition, hstate, stayOpenSent, openSentToOpenConfirm, openSentToTerminate,
        retryLater, fail, drop]

theorem accepts_openConfirm (hstate : conn.state = .openConfirm) :
    Handled (conn.handleOpenConfirmEvent env event) now .openConfirm event := by
  cases event with
  | tcpConnectionRequestAcked | tcpConnectionConfirmed => cases hevent
  | _ =>
    simp only [handleOpenConfirmEvent, trySend_sent henv]
    refine ⟨rfl, fun peer => ⟨?_, ?_, ?_⟩⟩ <;>
      simp [transition, hstate, startSend_state, stayOpenConfirm, openConfirmToEstablished,
        openConfirmToTerminate, fail, drop]

theorem accepts_established (hstate : conn.state = .established) :
    Handled (conn.handleEstablishedEvent env event) now .established event := by
  cases event with
  | tcpConnectionRequestAcked | tcpConnectionConfirmed => cases hevent
  | _ =>
    simp only [handleEstablishedEvent, trySend_sent henv]
    refine ⟨rfl, fun peer => ⟨?_, ?_, ?_⟩⟩ <;>
      simp [transition, hstate, startSend_state, stayEstablished, establishedToTerminate, fail]

/-- A connection that is not terminated handles what it yields, and its peer has a transition. -/
theorem accepts_of_live (hlive : conn.state ≠ .terminate) :
    ∃ after, conn.handleEvent env event = (after, .ok event) ∧
      ∀ peer : Peer A, peer.Accepts after now conn.state event := by
  have hhandled : Handled (conn.dispatch env event) now conn.state event := by
    unfold dispatch
    cases hstate : conn.state with
    | terminate => exact absurd hstate hlive
    | connected => exact accepts_connected henv conn now hevent hstate
    | openSent => exact accepts_openSent henv conn now hevent hstate
    | openConfirm => exact accepts_openConfirm henv conn now hevent hstate
    | established => exact accepts_established henv conn now hevent hstate
  exact ⟨_, by simp [handleEvent, hhandled.1], hhandled.2⟩

end Tables

end Peer

/-! ## Runs -/

/-- There is no connection, or it is not terminated. -/
def Live (connection : Option (PeerConnection A)) : Prop :=
  ∀ conn, connection = some conn → conn.state ≠ .terminate

variable {peer : Peer A} {env : PeerEnv A}

namespace Peer

variable {event : ConnectionEvent A}

theorem handleConnectionEvent_live (henv : env.Undisturbed) (hlive : Live peer.connection)
    (hevent : event.transportUp = false) :
    Live (peer.handleConnectionEvent env event).1.connection ∧
      ∀ reported fsmState before after, (peer.handleConnectionEvent env event).2 ≠
        .error (.invalidConnectionStateTransition reported fsmState before after) := by
  unfold handleConnectionEvent
  cases hconn : peer.connection with
  | none =>
    constructor
    · intro conn h
      cases h
    · intro reported fsmState before after h
      cases h
  | some conn =>
    obtain ⟨after, hhandled, haccepts⟩ :=
      accepts_of_live henv.sends conn.toConnection env.now hevent (hlive conn hconn)
    have haccepts := haccepts { peer with connection := some (conn.update after) }
    simp only [henv.pre, henv.post, hhandled, haccepts.valid, if_true]
    refine ⟨fun conn' h => ?_, fun _ _ _ _ h => by cases h⟩
    cases haccepts.same conn' h
    exact haccepts.live (by rw [h]; rfl)

end Peer

namespace Polled

variable {polled after : Polled A} {myBgpId : Wire.Ipv4Addr} {fsmState : FsmState}
  {reported : Option (ConnectionNextEvent A)}

theorem resolve_connection (polled : Polled A) (env : PeerEnv A) (myBgpId : Wire.Ipv4Addr)
    (given : Option (ConnectionNextEvent A)) :
    (polled.resolve env myBgpId given).1.connection = polled.connection := by
  unfold resolve
  split <;> rfl

theorem resolve_event {given : Option (ConnectionNextEvent A)} {event : ConnectionEvent A}
    (h : (polled.resolve env myBgpId given).2 = some (.event event)) :
    given = some (.event event) := by
  unfold resolve at h
  split at h
  · cases h
  · cases h
  · cases h
  · exact h

variable (h : Live polled.connection)
include h

theorem pollMain_live (myBgpId : Wire.Ipv4Addr) (env : PeerEnv A) (inbound : Inbound) :
    Live (polled.pollMain myBgpId env inbound).1.connection ∧
      ∀ event, (polled.pollMain myBgpId env inbound).2 = some (.event event) →
        event.transportUp = false := by
  unfold pollMain
  cases hconn : polled.connection with
  | none =>
    dsimp only
    exact ⟨h, fun _ h => by cases h⟩
  | some conn =>
    dsimp only
    rcases hnext : (conn.pollNext env.toClock inbound : _ × Option (ConnectionEvent A)) with
      ⟨next, event⟩
    obtain ⟨hstate, hup⟩ := Connection.pollNext_polled hnext
    have hlive : Live (some (conn.update next)) := by
      rintro _ ⟨⟩
      exact hstate ▸ h conn hconn
    cases event with
    | none => exact ⟨hlive, fun _ h => by cases h⟩
    | some event =>
      dsimp only
      refine ⟨?_, fun event' h => ?_⟩
      · rw [resolve_connection]
        exact hlive
      · cases resolve_event h
        exact hup event rfl

theorem pollTracked_live (myBgpId : Wire.Ipv4Addr) (fsmState : FsmState) (env : PeerEnv A)
    (inbound : Inbound) :
    Live (polled.pollTracked myBgpId fsmState env inbound).1.connection ∧
      ∀ event, (polled.pollTracked myBgpId fsmState env inbound).2 ≠ some (.event event) := by
  unfold pollTracked
  split
  · exact ⟨h, fun _ h => by cases h⟩
  · split
    · exact ⟨h, fun _ h => by cases h⟩
    · dsimp only
      split
      · exact ⟨h, fun _ h => by cases h⟩
      · refine ⟨?_, fun event h => by cases resolve_event h⟩
        rw [resolve_connection]
        exact h

/-- Polls do not terminate the main connection. -/
theorem poll_live {poll : Poll A} (hpoll : polled.poll myBgpId fsmState poll = (after, reported)) :
    Live after.connection ∧ ∀ event, reported = some (.event event) → event.transportUp = false := by
  cases poll with
  | main env inbound =>
    have hmain := pollMain_live h myBgpId env inbound
    rw [show polled.pollMain myBgpId env inbound = _ from hpoll] at hmain
    exact hmain
  | tracked env inbound =>
    obtain ⟨hlive, hnone⟩ := pollTracked_live h myBgpId fsmState env inbound
    rw [show polled.pollTracked myBgpId fsmState env inbound = _ from hpoll] at hlive hnone
    exact ⟨hlive, fun event hevent => absurd hevent (hnone event)⟩

theorem nextConnectionEvent_live {polls : List (Poll A)}
    (hnext : nextConnectionEvent myBgpId fsmState polled polls = (after, reported)) :
    Live after.connection ∧ ∀ event, reported = some (.event event) → event.transportUp = false := by
  induction polls generalizing polled with
  | nil =>
    cases hnext
    exact ⟨h, fun _ h => by cases h⟩
  | cons poll polls ih =>
    unfold nextConnectionEvent at hnext
    split at hnext
    · rename_i hpoll
      cases hnext
      exact poll_live h hpoll
    · rename_i hpoll
      exact ih (poll_live h hpoll).1 hnext

end Polled

namespace Peer
open Connection

theorem openOrDelay_live {conn : Connection} (h : conn.state ≠ .terminate) (env : Env) :
    (conn.openOrDelay env).1.state ≠ .terminate := by
  unfold openOrDelay
  split
  · have hstart : (conn.startHoldTimer env.now).state ≠ .terminate := by
      rw [startHoldTimer_state]
      exact h
    unfold sendOpen
    rcases trySend_cases (conn.startHoldTimer env.now) env (.openMessage env.openMessage)
      fun conn => ({ conn with state := .openSent }, none) with ⟨err, heq⟩ | heq
    · rw [heq, (sendOrLog_same _ _ _).state]
      exact hstart
    · rw [heq]
      exact ConnectionState.noConfusion
  · exact h

/-- A new connection has sent its OPEN or waits to do so. -/
theorem openConnection_live (hlive : Live peer.connection) (env : PeerEnv A) (peerAddr : A)
    (connectionType : ConnectionType) {event : ConnectionEvent A}
    (hevent : event.transportUp = true) :
    Live (peer.openConnection env peerAddr connectionType event).1.connection := by
  have hnew (peer : Peer A) : ((peer.createConnection env peerAddr connectionType).handleEvent
      env.toEnv event).1.state ≠ .terminate := by
    cases event with
    | tcpConnectionRequestAcked | tcpConnectionConfirmed =>
      exact openOrDelay_live ConnectionState.noConfusion env.toEnv
    | _ => cases hevent
  unfold openConnection
  dsimp only
  split
  · rename_i after reported heq
    have hstate := hnew { peer with connectRetryTimer := none }
    rw [heq] at hstate
    unfold addConnection
    split
    · exact hlive
    · rintro _ ⟨⟩
      exact hstate
  · exact hlive

theorem handleConnectEvent_live (henv : env.Undisturbed) (hlive : Live peer.connection)
    {next : ConnectionNextEvent A}
    (hevent : ∀ event, next = .event event → event.transportUp = false) :
    Live (peer.handleConnectEvent env next).1.connection := by
  unfold handleConnectEvent
  cases next with
  | dropTracked => exact hlive
  | event event => exact (handleConnectionEvent_live henv hlive (hevent event rfl)).1
  | dropMain =>
    dsimp only
    split
    · exact hlive
    · rename_i tracked _
      split
      · exact hlive
      · rename_i fsmState hfsm
        rintro _ ⟨⟩ hstate
        rw [hstate] at hfsm
        cases hfsm

theorem finish_live {polled : Polled A} (hpolled : Live polled.connection) (turn : Turn A) :
    Live (peer.finish polled turn).1.connection := by
  unfold finish
  split
  · rename_i result _
    split
    · cases result with
      | stream => exact openConnection_live hpolled turn.env _ _ rfl
      | tcpConnectionFails => exact hpolled
    · exact hpolled
  · dsimp only
    split
    · intro conn h
      cases h
    · exact hpolled
  · exact hpolled

theorem select_live {turn : Turn A} (henv : turn.env.Undisturbed) (hlive : Live peer.connection) :
    Live (peer.select turn).1.connection := by
  unfold select
  rcases hnext : Polled.nextConnectionEvent peer.properties.myBgpId peer.fsmState peer.polled
    turn.polls with ⟨polled, next⟩
  obtain ⟨hpolled, hevent⟩ := Polled.nextConnectionEvent_live (by exact hlive) hnext
  cases next with
  | none => exact finish_live hpolled turn
  | some next =>
    refine handleConnectEvent_live henv ?_ fun event heq => hevent event (congrArg some heq)
    exact hpolled

theorem handleAdminEvent_live (hlive : Live peer.connection) (env : PeerEnv A)
    (event : PeerAdminEvents A) : Live (peer.handleAdminEvent env event).1.connection := by
  have hstart (event passiveEvent : BgpEvent A) :
      (peer.handleStart env.now event passiveEvent).1.connection = peer.connection := by
    unfold handleStart
    split
    · rfl
    · have hsame : (peer.start env.now).connection = peer.connection := by
        unfold start
        dsimp only
        split
        · rfl
        · split <;> rfl
      dsimp only
      split <;> exact hsame
  cases event with
  | manualStart => exact hstart .manualStart .manualStartWithPassiveTcp ▸ hlive
  | automaticStart => exact hstart .automaticStart .automaticStartWithPassiveTcp ▸ hlive
  | manualStop | automaticStop =>
    intro conn h
    cases h
  | tcpConnectionConfirmed peerAddr =>
    simp only [handleAdminEvent, acceptConnection]
    split
    · exact hlive
    · exact openConnection_live hlive env peerAddr .passive rfl

theorem run_live {turn : Turn A} (henv : turn.env.Undisturbed) (hlive : Live peer.connection) :
    Live (peer.run turn).1.connection := by
  unfold run runHandling
  split
  · exact select_live henv hlive
  · rename_i event _
    have hadmin := handleAdminEvent_live (show Live
      { peer with waitingAdminEvents := peer.waitingAdminEvents.dropLast }.connection from hlive)
      turn.env event
    dsimp only
    split
    · rename_i heq
      rw [heq] at hadmin
      exact select_live henv hadmin
    · exact hadmin

/-- Nothing disturbs the calls. What the owner writes may fail. -/
def Op.Undisturbed : Op A → Prop
  | .run turn => turn.env.Undisturbed
  | .admin _ | .message .. => True

theorem step_live {op : Op A} (hop : op.Undisturbed) (hlive : Live peer.connection) :
    Live (peer.step op).1.connection := by
  cases op with
  | admin event => exact hlive
  | run turn => exact run_live hop hlive
  | message clock trackedOutcome outcome msg =>
    simp only [step, sendBgpMessage]
    split
    · exact hlive
    · rename_i conn hconn
      rintro _ ⟨⟩
      exact (send_same conn.toConnection clock outcome msg).state ▸ hlive conn hconn

theorem run_steps_live {ops : List (Op A)} (hops : ∀ op ∈ ops, op.Undisturbed)
    (hlive : Live peer.connection) :
    Live (ops.foldl (fun peer op => (peer.step op).1) peer).connection := by
  induction ops generalizing peer with
  | nil => exact hlive
  | cons op ops ih =>
    exact ih (fun op' h => hops op' (.tail _ h)) (step_live (hops op (.head _)) hlive)

/-- In every run, whatever the main connection yields, between calls or during one, the peer has a
transition for it. -/
theorem transition_table_complete (properties : PeerProperties A) (config : PeerConfig)
    (ops : List (Op A)) (hops : ∀ op ∈ ops, op.Undisturbed) (polls : List (Poll A)) :
    let peer : Peer A := ops.foldl (fun peer op => (peer.step op).1) (.new properties config)
    ∀ polled, Polled.nextConnectionEvent peer.properties.myBgpId peer.fsmState peer.polled polls =
      (polled, none) →
    ∀ conn, polled.connection = some conn →
    ∀ clock inbound after event, conn.pollNext clock inbound = (after, some event) →
    ∀ env : PeerEnv A, env.Undisturbed → ∀ attempted reported fsmState before next,
      ((peer.waited { polled with connection := some (conn.update after) }
        attempted).handleConnectionEvent env event).2 ≠
          .error (.invalidConnectionStateTransition reported fsmState before next) := by
  intro peer polled hpolls conn hconn clock inbound after event hevent env henv attempted
  have hlive : Live peer.connection := run_steps_live hops fun _ h => by cases h
  have hpolled := (Polled.nextConnectionEvent_live (by exact hlive) hpolls).1
  obtain ⟨hstate, hup⟩ := Connection.pollNext_polled hevent
  refine (handleConnectionEvent_live henv ?_ (hup event rfl)).2
  rintro _ ⟨⟩
  exact hstate ▸ hpolled conn hconn

theorem undisturbed_calm (now : Nat) : (calm now).Undisturbed :=
  ⟨fun _ => rfl, fun _ _ => rfl, fun _ _ => rfl⟩

/-- The peer has made a connection of its own. -/
def ownConnection : List (Op Unit) :=
  [.admin .manualStart, .run (calmTurn [] .abandoned), .run (calmTurn [] (.connect .stream))]

/-- The neighbour's OPEN comes in. -/
theorem open_has_transition :
    let peer := ownConnection.foldl (fun peer op => (peer.step op).1) (higherPeer 0)
    ∃ conn after, peer.connection = some conn ∧
      conn.pollNext (calm 0).toClock openReceived =
        (after, some (.bgpOpen (peerOpen 90) : ConnectionEvent Unit)) ∧
      ∀ reported fsmState before next,
        ((peer.waited { peer.polled with connection := some (conn.update after) }
          false).handleConnectionEvent (calm 0) (.bgpOpen (peerOpen 90))).2 ≠
            .error (.invalidConnectionStateTransition reported fsmState before next) := by
  have hops : ∀ op ∈ ownConnection, op.Undisturbed := by
    simp only [ownConnection, List.forall_mem_cons]
    exact ⟨trivial, undisturbed_calm 0, undisturbed_calm 0, by simp⟩
  exact ⟨_, _, rfl, rfl, transition_table_complete _ _ ownConnection hops [] _ rfl _ rfl
    (calm 0).toClock openReceived _ _ rfl (calm 0) (undisturbed_calm 0) false⟩

end Peer

end NetCalyx.Speaker
