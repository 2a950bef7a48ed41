import NetCalyx.Speaker.Session

/-!
# A peer and its connections

The state machine of a peer, which owns up to two connections: the main one
and one that is tracked until it is known which of the two survives. `Peer.run`
is one call of the source's `run`: it handles a waiting administrative event or
else waits for whatever comes first, which is a parameter (`Turn`).

While it waits, the connections may yield events that do not end the call;
these are the polls of a turn. Each write has its outcome from outside, and the
two hooks of the policy are functions supplied with every turn, so that they
may depend on anything.
-/

namespace NetCalyx.Speaker
open Wire Timer NetCalyx.Bgp

/-! ## State -/

inductive FsmState where
  | idle | connect | active | openSent | openConfirm | established
  deriving DecidableEq

inductive PeerState where
  | adminUp | adminDown
  deriving DecidableEq

inductive ConnectionType where
  | active | passive
  deriving DecidableEq

structure PeerConfig where
  sendNotifWithoutOpen : Bool
  connectRetryDurationSecs : BitVec 16
  openDelayTimerDuration : BitVec 16
  holdTimerDuration : BitVec 16
  holdTimerDurationLargeValue : BitVec 16
  keepaliveTimerDuration : BitVec 16
  passiveTcpEstablishment : Bool
  collisionDetectEstablishedState : Bool

def PeerConfig.default : PeerConfig where
  sendNotifWithoutOpen := true
  connectRetryDurationSecs := 10
  openDelayTimerDuration := 0
  holdTimerDuration := 180
  holdTimerDurationLargeValue := 240
  keepaliveTimerDuration := 30
  passiveTcpEstablishment := false
  collisionDetectEstablishedState := false

variable (config : PeerConfig)

/-- A configured duration of zero stands for a millisecond. -/
def PeerConfig.connectRetryDuration : Nat :=
  if config.connectRetryDurationSecs = 0 then 1000000
  else fromSecs config.connectRetryDurationSecs.toNat

theorem PeerConfig.connectRetryDuration_pos : 0 < config.connectRetryDuration := by
  unfold connectRetryDuration
  split
  case isTrue => decide
  case isFalse h =>
    apply fromSecs_pos
    rw [Nat.pos_iff_ne_zero]
    intro hzero
    exact h (BitVec.eq_of_toNat_eq hzero)

def ConnectionConfig.ofPeer : ConnectionConfig where
  sendNotifWithoutOpen := config.sendNotifWithoutOpen
  openDelayTimerDuration := config.openDelayTimerDuration
  holdTimerDuration := config.holdTimerDuration
  holdTimerDurationLargeValue := config.holdTimerDurationLargeValue
  keepaliveTimerDuration := config.keepaliveTimerDuration

structure PeerProperties (A : Type) where
  peerAsn : BitVec 32
  myBgpId : Ipv4Addr
  peerAddr : A
  allowDynamicAs : Bool

/-- A connection as its peer knows it: with the address it leads to, the side
that asked for it and the time in its statistics. -/
structure PeerConnection (A : Type) extends Connection where
  peerAddr : A
  connectionType : ConnectionType
  created : Nat

/-- The connection itself has changed, what the peer knows about it has not. -/
def PeerConnection.update {A : Type} (conn : PeerConnection A) (after : Connection) :
    PeerConnection A :=
  { conn with toConnection := after }

inductive PeerAdminEvents (A : Type) where
  | manualStart | manualStop | automaticStart | automaticStop
  | tcpConnectionConfirmed (peerAddr : A)

structure Peer (A : Type) where
  properties : PeerProperties A
  peerState : PeerState
  fsmState : FsmState
  config : PeerConfig
  connection : Option (PeerConnection A)
  trackedConnection : Option (PeerConnection A)
  connectRetryTimer : Option Interval
  connectRetryCounter : BitVec 32
  allowedToActiveConnect : Bool
  waitingAdminEvents : List (PeerAdminEvents A)

def Peer.new {A : Type} (properties : PeerProperties A) (config : PeerConfig) : Peer A where
  properties := properties
  peerState := .adminDown
  fsmState := .idle
  config := config
  connection := none
  trackedConnection := none
  connectRetryTimer := none
  connectRetryCounter := 0
  allowedToActiveConnect := false
  waitingAdminEvents := []

/-! ## Events and errors -/

/-- What a call of `run` reports. The variants that the source repeats from
the connection events are one constructor here. -/
inductive BgpEvent (A : Type) where
  | manualStart | manualStop | automaticStart | manualStartWithPassiveTcp
  | automaticStartWithPassiveTcp | automaticStop | connectRetryTimerExpires | openCollisionDump
  | ofConnection (event : ConnectionEvent A)

inductive FsmStateError (A : Type) where
  | bgpMessageWritingError (err : SendError)
  | invalidConnectionStateTransition (event : BgpEvent A) (fsmState : FsmState)
      (before after : ConnectionState)

abbrev PeerResult (A : Type) := Except (FsmStateError A) (BgpEvent A)

inductive CollisionCheckRet where
  | dropMain | dropTracked
  | invalidTrackedBgpId (id : Ipv4Addr)

inductive ConnectionNextEvent (A : Type) where
  | dropMain | dropTracked
  | event (event : ConnectionEvent A)

/-! ## What the outside supplies -/

/-- The surroundings of a handler: writes to the main or a new connection end
as `transport` says, those to the tracked one as `trackedTransport` says. -/
structure PeerEnv (A : Type) extends Env where
  trackedTransport : BgpMessage → SendOutcome
  scaling : DurationScaling
  preHandleConnectionEventHook : ConnectionEvent A → Connection → ConnectionEvent A
  postHandleConnectionEventHook : ConnectionEvent A → Option Connection → ConnectionEvent A

def PeerEnv.onTracked {A : Type} (env : PeerEnv A) : Env :=
  { env.toEnv with transport := env.trackedTransport }

/-- One of the two connections is asked for its next event. -/
inductive Poll (A : Type) where
  | main (env : PeerEnv A) (inbound : Inbound)
  | tracked (env : PeerEnv A) (inbound : Inbound)

inductive ConnectResult where
  | stream | tcpConnectionFails

/-- What ends the waiting if no connection does. A call can also be given up:
the owner of the peer drops it when it has something else for the peer. -/
inductive Ready where
  | connect (result : ConnectResult)
  | connectRetryTimer
  | abandoned

structure Turn (A : Type) where
  env : PeerEnv A
  polls : List (Poll A)
  /-- The attempt to connect is begun, if the peer may make one. -/
  connectPolled : Bool
  ready : Ready

namespace Peer
variable {A : Type}

/-! ## Starting and stopping -/

variable (peer : Peer A)

/-- The connect retry timer, started now. -/
def retryTimer (now : Nat) : Interval :=
  (Interval.new now peer.config.connectRetryDuration
    peer.config.connectRetryDuration_pos).reset now

def addAdminEvent (event : PeerAdminEvents A) : Peer A :=
  { peer with waitingAdminEvents := peer.waitingAdminEvents ++ [event] }

def start (now : Nat) : Peer A :=
  let peer := { peer with peerState := .adminUp, connectRetryCounter := 0 }
  if peer.fsmState ≠ .idle then peer
  else if peer.config.passiveTcpEstablishment then { peer with fsmState := .active }
  else
    { peer with
      connectRetryTimer := some (peer.retryTimer now)
      fsmState := .connect
      allowedToActiveConnect := true }

/-- The connections are told before they are dropped; whether they hear it
does not matter. -/
def shutdown : Peer A :=
  { peer with
    connectRetryTimer := none
    peerState := .adminDown
    fsmState := .idle
    connection := none
    trackedConnection := none }

/-! ## New connections -/

def addConnection (conn : PeerConnection A) : Peer A :=
  if peer.connection.isSome then { peer with trackedConnection := some conn }
  else
    { peer with
      fsmState :=
        match conn.state with
        | .terminate | .connected => peer.fsmState
        | .openSent => .openSent
        | .openConfirm => .openConfirm
        | .established => .established
      connection := some conn }

variable (env : PeerEnv A)

def createConnection (peerAddr : A) (connectionType : ConnectionType) : PeerConnection A where
  toConnection := .new peer.properties.peerAsn peer.properties.allowDynamicAs
    (.ofPeer peer.config) env.scaling
  peerAddr := peerAddr
  connectionType := connectionType
  -- the statistics start at the default of their type and the time in them is never set
  created := 0

/-- Make a connection and let it handle the event that it is there. If its
OPEN message cannot be written the connection is lost. -/
def openConnection (peerAddr : A) (connectionType : ConnectionType) (event : ConnectionEvent A) :
    Peer A × PeerResult A :=
  let peer := { peer with connectRetryTimer := none }
  let conn := peer.createConnection env peerAddr connectionType
  match conn.handleEvent env.toEnv event with
  | (after, .ok event) => (peer.addConnection (conn.update after), .ok (.ofConnection event))
  | (_, .error err) => (peer, .error (.bgpMessageWritingError err))

def rejectsConnection : Bool :=
  peer.peerState = .adminDown || (peer.connection.isSome && peer.trackedConnection.isSome) ||
    (peer.fsmState = .established && !peer.config.collisionDetectEstablishedState)

/-- Accept a connection that the other side asked for. A rejected one leaves
the peer as it is. -/
def acceptConnection (peerAddr : A) : Peer A × Except (FsmStateError A) (Option (BgpEvent A)) :=
  if peer.rejectsConnection then (peer, .ok none)
  else
    let (peer, result) :=
      peer.openConnection env peerAddr .passive (.tcpConnectionConfirmed peerAddr)
    (peer, result.map some)

def handleActiveConnection :
    ConnectResult → Peer A × PeerResult A
  | .stream =>
    let peerAddr := peer.properties.peerAddr
    peer.openConnection env peerAddr .active (.tcpConnectionRequestAcked peerAddr)
  | .tcpConnectionFails =>
    ({ peer with connectRetryTimer := none }, .ok (.ofConnection .tcpConnectionFails))

/-- A message of the owner goes out on both connections. -/
def sendBgpMessage (clock : Clock) (trackedOutcome outcome : SendOutcome) (msg : BgpMessage) :
    Peer A × Except (FsmStateError A) Unit :=
  let tracked := peer.trackedConnection.bind fun conn =>
    match conn.send clock trackedOutcome msg with
    | (after, none) => some (conn.update after)
    | (_, some _) => none
  let peer := { peer with trackedConnection := tracked }
  match peer.connection with
  | none => (peer, .ok ())
  | some conn =>
    let (after, err) := conn.send clock outcome msg
    ({ peer with connection := some (conn.update after) },
      err.elim (.ok ()) (.error ∘ .bgpMessageWritingError))

/-! ## Events of the main connection -/

/-- The connection is lost and counted as a failure. -/
def fail : Peer A :=
  { peer with
    connectRetryTimer := none
    connectRetryCounter := peer.connectRetryCounter + 1
    connection := none
    fsmState := .idle }

/-- The connection is lost without being counted. -/
def drop : Peer A :=
  { peer with connectRetryTimer := none, connection := none, fsmState := .idle }

/-- Wait for the retry timer before the next attempt. -/
def retryLater (now : Nat) : Peer A :=
  { peer with
    connectRetryTimer := some (peer.retryTimer now)
    connection := none
    fsmState := .active }

/-! What follows an event on the main connection, by the states of the
connection before and after it; `false` says that the event is invalid there. -/

def stayConnected (conn : Connection) : ConnectionEvent A → Peer A × Bool
  | .tcpConnectionRequestAcked _ | .tcpConnectionConfirmed _ =>
    ({ peer with connectRetryTimer := none }, conn.openDelayTimer.isSome)
  | .notifMsgErr _ => (peer, true)
  | _ => (peer, false)

def connectedToOpenSent : ConnectionEvent A → Peer A × Bool
  | .tcpConnectionRequestAcked _ | .tcpConnectionConfirmed _ =>
    ({ peer with connectRetryTimer := none, fsmState := .openSent }, true)
  | .delayOpenTimerExpires => ({ peer with fsmState := .openSent }, true)
  | _ => (peer, false)

def connectedToOpenConfirm : ConnectionEvent A → Peer A × Bool
  | .bgpOpen _ | .bgpOpenWithDelayOpenTimer _ =>
    ({ peer with connectRetryTimer := none, fsmState := .openConfirm }, true)
  | _ => (peer, false)

def connectedToTerminate (conn : Connection) (now : Nat) :
    ConnectionEvent A → Peer A × Bool
  | .tcpConnectionFails =>
    if peer.fsmState = .connect ∧ conn.openDelayTimer.isSome then (peer.retryLater now, true)
    else if peer.fsmState = .active then (peer.fail, true)
    else (peer.drop, true)
  | .notifMsgVerErr =>
    if conn.openDelayTimer.isNone then (peer.fail, true) else (peer.drop, true)
  | .bgpHeaderErr _ | .bgpOpenMsgErr _ | .holdTimerExpires | .keepAliveTimerExpires | .bgpOpen _
  | .notifMsg _ | .keepAliveMsg | .updateMsg .. | .updateMsgErr _ | .routeRefresh _
  | .routeRefreshErr _ => (peer.fail, true)
  | _ => (peer, false)

def stayOpenSent : ConnectionEvent A → Peer A × Bool
  | .notifMsgErr _ => (peer, true)
  | _ => (peer, false)

def openSentToOpenConfirm : ConnectionEvent A → Peer A × Bool
  | .bgpOpen _ => ({ peer with connectRetryTimer := none, fsmState := .openConfirm }, true)
  | _ => (peer, false)

def openSentToTerminate (now : Nat) : ConnectionEvent A → Peer A × Bool
  | .tcpConnectionFails => (peer.retryLater now, true)
  | .notifMsgVerErr => (peer.drop, true)
  | .holdTimerExpires | .bgpHeaderErr _ | .bgpOpenMsgErr _ | .keepAliveTimerExpires
  | .delayOpenTimerExpires | .bgpOpenWithDelayOpenTimer _ | .keepAliveMsg | .notifMsg _
  | .updateMsg .. | .updateMsgErr _ | .routeRefresh _ | .routeRefreshErr _ => (peer.fail, true)
  -- the connection is gone before the event turns out to be invalid
  | _ => ({ peer with connection := none }, false)

def stayOpenConfirm : ConnectionEvent A → Peer A × Bool
  | .keepAliveTimerExpires | .notifMsgErr _ => (peer, true)
  | _ => (peer, false)

def openConfirmToEstablished : ConnectionEvent A → Peer A × Bool
  | .keepAliveMsg => ({ peer with fsmState := .established }, true)
  | _ => (peer, false)

def openConfirmToTerminate : ConnectionEvent A → Peer A × Bool
  | .holdTimerExpires | .tcpConnectionFails | .bgpOpen _ | .bgpOpenMsgErr _ | .bgpHeaderErr _
  | .delayOpenTimerExpires | .bgpOpenWithDelayOpenTimer _ | .notifMsg _ | .updateMsg ..
  | .updateMsgErr _ | .routeRefresh _ | .routeRefreshErr _ => (peer.fail, true)
  | .notifMsgVerErr => (peer.drop, true)
  | _ => (peer, false)

def stayEstablished : ConnectionEvent A → Peer A × Bool
  | .keepAliveTimerExpires | .keepAliveMsg | .updateMsg .. | .routeRefresh _ | .notifMsgErr _ =>
    (peer, true)
  | .notifMsg _ | .notifMsgVerErr => (peer.fail, true)
  | _ => (peer, false)

def establishedToTerminate : ConnectionEvent A → Peer A × Bool
  | .holdTimerExpires | .delayOpenTimerExpires | .tcpConnectionFails | .bgpOpen _
  | .bgpOpenWithDelayOpenTimer _ | .bgpHeaderErr _ | .bgpOpenMsgErr _ | .updateMsgErr _
  | .routeRefreshErr _ | .notifMsg _ | .notifMsgVerErr => (peer.fail, true)
  | _ => (peer, false)

def transition (conn : Connection) (now : Nat) (before : ConnectionState)
    (event : ConnectionEvent A) : Peer A × Bool :=
  match before, conn.state with
  | .connected, .connected => peer.stayConnected conn event
  | .connected, .openSent => peer.connectedToOpenSent event
  | .connected, .openConfirm => peer.connectedToOpenConfirm event
  | .connected, .terminate => peer.connectedToTerminate conn now event
  | .openSent, .openSent => peer.stayOpenSent event
  | .openSent, .openConfirm => peer.openSentToOpenConfirm event
  | .openSent, .terminate => peer.openSentToTerminate now event
  | .openConfirm, .openConfirm => peer.stayOpenConfirm event
  | .openConfirm, .established => peer.openConfirmToEstablished event
  | .openConfirm, .terminate => peer.openConfirmToTerminate event
  | .established, .established => peer.stayEstablished event
  | .established, .terminate => peer.establishedToTerminate event
  | _, _ => (peer, false)

def handleConnectionEvent (env : PeerEnv A) (event : ConnectionEvent A) : Peer A × PeerResult A :=
  match peer.connection with
  | none =>
    ({ peer with fsmState := if peer.fsmState = .openSent then .active else .idle },
      .ok (.ofConnection .tcpConnectionFails))
  | some conn =>
    match conn.handleEvent env.toEnv (env.preHandleConnectionEventHook event conn.toConnection) with
    | (after, .error err) =>
      ({ peer with connection := some (conn.update after) }, .error (.bgpMessageWritingError err))
    | (after, .ok event) =>
      let event := env.postHandleConnectionEventHook event after
      let (peer, valid) := ({ peer with connection := some (conn.update after) } : Peer A).transition
        after env.now conn.state event
      (peer,
        if valid then .ok (.ofConnection event)
        else .error (.invalidConnectionStateTransition (.ofConnection event) peer.fsmState
          conn.state after.state))

/-! ## Collisions -/

/-- Which connection goes when the peer has identified itself on both. -/
def checkConnectionCollision (myBgpId : Ipv4Addr) (main tracked : Option (PeerConnection A)) :
    Option CollisionCheckRet :=
  match main.bind fun conn => conn.peerBgpId.map ((·, conn.created)),
    tracked.bind fun conn => conn.peerBgpId.map ((·, conn.created)) with
  | some (mainPeerBgpId, mainCreated), some (trackedPeerBgpId, trackedCreated) =>
    if trackedPeerBgpId ≠ mainPeerBgpId then some (.invalidTrackedBgpId trackedPeerBgpId)
    else if myBgpId < mainPeerBgpId ∨ (myBgpId = mainPeerBgpId ∧ trackedCreated < mainCreated) then
      some .dropMain
    else some .dropTracked
  | _, _ => none

def fsmStateFromTracked : ConnectionState → Option FsmState
  | .connected | .terminate => none
  | .openSent => some .openSent
  | .openConfirm => some .openConfirm
  | .established => some .established

def handleConnectEvent (env : PeerEnv A) :
    ConnectionNextEvent A → Peer A × PeerResult A
  | .dropMain =>
    match peer.trackedConnection with
    | none => (peer, .ok .openCollisionDump)
    | some tracked =>
      let peer := { peer with
        trackedConnection := none
        connectRetryCounter := peer.connectRetryCounter + 1 }
      match fsmStateFromTracked tracked.state with
      | none =>
        (peer, .error (.invalidConnectionStateTransition .openCollisionDump peer.fsmState
          tracked.state tracked.state))
      | some fsmState =>
        -- the main connection is told that it goes, heard or not
        ({ peer with fsmState := fsmState, connection := some tracked }, .ok .openCollisionDump)
  | .dropTracked => ({ peer with trackedConnection := none }, .ok .openCollisionDump)
  | .event event => peer.handleConnectionEvent env event

end Peer

/-! ## Polling the connections -/

/-- The connections while a call waits for their events. A tracked connection
with another identifier than the main one is not polled any more during the
call. -/
structure Polled (A : Type) where
  connection : Option (PeerConnection A)
  trackedConnection : Option (PeerConnection A)
  trackedIgnored : Bool := false

namespace Polled
variable {A : Type}
variable (polled : Polled A)

def visibleTracked : Option (PeerConnection A) :=
  if polled.trackedIgnored then none else polled.trackedConnection

variable (myBgpId : Ipv4Addr)

def collision : Option CollisionCheckRet :=
  Peer.checkConnectionCollision myBgpId polled.connection polled.visibleTracked

/-- Tell the tracked connection that its identifier is wrong. -/
def refuseTracked (env : PeerEnv A) (id : Ipv4Addr) : Polled A :=
  let notif : BgpMessage := .notification (.openMessageError ⟨.badBgpIdentifier, octets id⟩)
  { polled with
    trackedConnection := polled.trackedConnection.map fun conn =>
      conn.update (conn.sendOrLog env.onTracked notif)
    trackedIgnored := true }

/-- What the collision check makes of an event; `none` goes on waiting. -/
def resolve (env : PeerEnv A) (myBgpId : Ipv4Addr) (event : Option (ConnectionNextEvent A)) :
    Polled A × Option (ConnectionNextEvent A) :=
  match polled.collision myBgpId with
  | some .dropMain => (polled, some .dropMain)
  | some .dropTracked => (polled, some .dropTracked)
  | some (.invalidTrackedBgpId id) => (polled.refuseTracked env id, none)
  | none => (polled, event)

variable (fsmState : FsmState)

/-- The tracked connection waits in `Connect`, and once its OPEN exchange is
complete. -/
def trackedWaits : Bool :=
  fsmState = .connect || (polled.visibleTracked.map (·.state)) = some .openConfirm

def pollMain (env : PeerEnv A) (inbound : Inbound) : Polled A × Option (ConnectionNextEvent A) :=
  match polled.connection with
  | none => (polled, none)
  | some conn =>
    let (after, event) : Connection × Option (ConnectionEvent A) :=
      conn.pollNext env.toClock inbound
    let polled := { polled with connection := some (conn.update after) }
    match event with
    | none => (polled, none)
    | some event => polled.resolve env myBgpId (some (.event event))

/-- Events of the tracked connection are handled at once and never reported. -/
def pollTracked (env : PeerEnv A) (inbound : Inbound) : Polled A × Option (ConnectionNextEvent A) :=
  if polled.trackedWaits fsmState then (polled, none)
  else
    match polled.visibleTracked with
    | none => (polled, none)
    | some conn =>
      let (after, event) : Connection × Option (ConnectionEvent A) :=
        conn.pollNext env.toClock inbound
      match event with
      | none => ({ polled with trackedConnection := some (conn.update after) }, none)
      | some event =>
        let event := env.preHandleConnectionEventHook event after
        let (after, _) := after.handleEvent env.onTracked event
        let polled := { polled with trackedConnection := some (conn.update after) }
        polled.resolve env myBgpId none

def poll :
    Poll A → Polled A × Option (ConnectionNextEvent A)
  | .main env inbound => polled.pollMain myBgpId env inbound
  | .tracked env inbound => polled.pollTracked myBgpId fsmState env inbound

/-- Poll until there is something to report. -/
def nextConnectionEvent (myBgpId : Ipv4Addr) (fsmState : FsmState) :
    Polled A → List (Poll A) → Polled A × Option (ConnectionNextEvent A)
  | polled, [] => (polled, none)
  | polled, poll :: polls =>
    match polled.poll myBgpId fsmState poll with
    | (polled, some event) => (polled, some event)
    | (polled, none) => nextConnectionEvent myBgpId fsmState polled polls

end Polled

namespace Peer
variable {A : Type}

/-! ## Running -/

variable (peer : Peer A)

def polled : Polled A where
  connection := peer.connection
  trackedConnection := peer.trackedConnection

/-- The peer may make an attempt to connect. -/
def mayConnect : Bool := peer.fsmState = .connect && peer.allowedToActiveConnect

/-- The retry timer has run out: drop what there is and allow an attempt. -/
def retryConnect (timer : Interval) : Peer A :=
  let fsmState := if peer.fsmState = .active then .connect else peer.fsmState
  { peer with
    connectRetryTimer := some timer
    fsmState := fsmState
    allowedToActiveConnect := fsmState = .connect
    connection := none }

/-- The peer once its connections have been polled; a permitted attempt to
connect uses the permission up when it is begun. -/
def waited (polled : Polled A) (attempted : Bool) : Peer A :=
  { peer with
    connection := polled.connection
    trackedConnection := polled.trackedConnection
    allowedToActiveConnect :=
      if peer.mayConnect && attempted then false else peer.allowedToActiveConnect }

/-- What ends a call that no connection ends; `none` stands for a call that
was given up. -/
def finish (polled : Polled A) (turn : Turn A) :
    Peer A × Except (FsmStateError A) (Option (BgpEvent A)) :=
  match turn.ready with
  | .connect result =>
    if peer.mayConnect then
      let (peer, result) := (peer.waited polled true).handleActiveConnection turn.env result
      (peer, result.map some)
    else (peer.waited polled turn.connectPolled, .ok none)
  | .connectRetryTimer =>
    let peer := peer.waited polled turn.connectPolled
    match peer.connectRetryTimer.bind (·.tick turn.env.now) with
    | some timer => (peer.retryConnect timer, .ok (some .connectRetryTimerExpires))
    | none => (peer, .ok none)
  | .abandoned => (peer.waited polled turn.connectPolled, .ok none)

/-- Wait for whatever comes first. -/
def select (turn : Turn A) : Peer A × Except (FsmStateError A) (Option (BgpEvent A)) :=
  match Polled.nextConnectionEvent peer.properties.myBgpId peer.fsmState peer.polled turn.polls with
  | (polled, some event) =>
    let (peer, result) := (peer.waited polled turn.connectPolled).handleConnectEvent turn.env event
    (peer, result.map some)
  | (polled, none) => peer.finish polled turn

/-- Start an idle peer; a passive one waits for the retry timer. -/
def handleStart (now : Nat) (event passiveEvent : BgpEvent A) : Peer A × Option (BgpEvent A) :=
  if peer.fsmState ≠ .idle then (peer, none)
  else
    let peer := peer.start now
    if peer.config.passiveTcpEstablishment then
      ({ peer with connectRetryTimer := some (peer.retryTimer now) }, some passiveEvent)
    else (peer, some event)

def handleAdminEvent (env : PeerEnv A) :
    PeerAdminEvents A → Peer A × Except (FsmStateError A) (Option (BgpEvent A))
  | .manualStart =>
    let (peer, event) := peer.handleStart env.now .manualStart .manualStartWithPassiveTcp
    (peer, .ok event)
  | .automaticStart =>
    let (peer, event) := peer.handleStart env.now .automaticStart .automaticStartWithPassiveTcp
    (peer, .ok event)
  | .manualStop => ({ peer.shutdown with connectRetryCounter := 0 }, .ok (some .manualStop))
  | .automaticStop =>
    let peer := peer.shutdown
    ({ peer with connectRetryCounter := peer.connectRetryCounter + 1 }, .ok (some .automaticStop))
  | .tcpConnectionConfirmed peerAddr => peer.acceptConnection env peerAddr

/-- One call: the last administrative event that waits, or else what comes first. Before the result
stands the administrative event that is handled, if any. -/
def runHandling (turn : Turn A) :
    Option (PeerAdminEvents A) × Peer A × Except (FsmStateError A) (Option (BgpEvent A)) :=
  match peer.waitingAdminEvents.getLast? with
  | none => (none, peer.select turn)
  | some event =>
    let peer := { peer with waitingAdminEvents := peer.waitingAdminEvents.dropLast }
    (some event,
      match peer.handleAdminEvent turn.env event with
      | (peer, .ok none) => peer.select turn
      | result => result)

def run (turn : Turn A) : Peer A × Except (FsmStateError A) (Option (BgpEvent A)) :=
  (peer.runHandling turn).2

/-! ## The task of a peer -/

/-- What the owner of a peer does with it. -/
inductive Op (A : Type) where
  | admin (event : PeerAdminEvents A)
  | message (clock : Clock) (trackedOutcome outcome : SendOutcome) (msg : BgpMessage)
  | run (turn : Turn A)

def step : Op A → Peer A × Except (FsmStateError A) (Option (BgpEvent A))
  | .admin event => (peer.addAdminEvent event, .ok none)
  | .message clock trackedOutcome outcome msg =>
    let (peer, result) := peer.sendBgpMessage clock trackedOutcome outcome msg
    (peer, result.map fun _ => none)
  | .run turn => peer.run turn

end Peer

end NetCalyx.Speaker
