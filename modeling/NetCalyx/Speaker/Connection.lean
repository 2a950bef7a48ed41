import NetCalyx.Speaker.UpdateCheck
import NetCalyx.Time.Interval

/-!
# One transport connection to a peer

The state machine of a connection: `pollNext` turns timer ticks and received
messages into events, `handleEvent` reacts to an event. Time, the policy's OPEN
message and the outcome of each write come from outside, as an `Env`.

A failed write ends a handler where it stands, with what it had done so far
still in place; handlers therefore return the connection together with the
error.
-/

namespace NetCalyx.Speaker
open Wire Timer NetCalyx.Bgp

/-! ## State -/

inductive ConnectionState where
  | connected | openSent | openConfirm | established | terminate
  deriving DecidableEq

structure ConnectionConfig where
  sendNotifWithoutOpen : Bool
  openDelayTimerDuration : BitVec 16
  holdTimerDuration : BitVec 16
  holdTimerDurationLargeValue : BitVec 16
  keepaliveTimerDuration : BitVec 16

def ConnectionConfig.default : ConnectionConfig where
  sendNotifWithoutOpen := true
  openDelayTimerDuration := 0
  holdTimerDuration := 180
  holdTimerDurationLargeValue := 240
  keepaliveTimerDuration := 30

/-- The two floating-point scalings of durations: the division by `3.0` and the
multiplication by the jitter, a factor between `0.75` and `1.0`. -/
structure DurationScaling where
  third : Nat → Nat
  third_zero : third 0 = 0
  jittered : Nat → Nat
  jittered_pos : ∀ duration, 0 < duration → 0 < jittered duration

structure ConnectionStats where
  messagesReceived : Nat := 0
  messagesSent : Nat := 0
  openReceived : Nat := 0
  openSent : Nat := 0
  updateReceived : Nat := 0
  updateSent : Nat := 0
  keepaliveReceived : Nat := 0
  keepaliveSent : Nat := 0
  notificationReceived : Nat := 0
  notificationSent : Nat := 0
  routeRefreshReceived : Nat := 0
  routeRefreshSent : Nat := 0
  lastReceived : Option Nat := none
  lastSent : Option Nat := none

structure Connection where
  state : ConnectionState
  config : ConnectionConfig
  peerAsn : Option (BitVec 32)
  peerBgpId : Option Ipv4Addr
  sentCapabilities : Option (List BgpCapability)
  receivedCapabilities : Option (List BgpCapability)
  peerHoldTime : Option (BitVec 16)
  stats : ConnectionStats
  keepaliveTimer : Option Interval
  keepaliveTimerDuration : Nat
  openDelayTimer : Option Interval
  holdTimer : Option Interval
  holdTimerDuration : Nat
  scaling : DurationScaling

/-- The peer's AS number is left open when dynamic peers are allowed. -/
def Connection.new (peerAsn : BitVec 32) (allowDynamicAs : Bool) (config : ConnectionConfig)
    (scaling : DurationScaling) : Connection where
  state := .connected
  config := config
  peerAsn := if allowDynamicAs then none else some peerAsn
  peerBgpId := none
  sentCapabilities := none
  receivedCapabilities := none
  peerHoldTime := none
  stats := {}
  keepaliveTimer := none
  keepaliveTimerDuration := fromSecs config.keepaliveTimerDuration.toNat
  openDelayTimer := none
  holdTimer := none
  holdTimerDuration := fromSecs config.holdTimerDuration.toNat
  scaling := scaling

/-! ## What the outside supplies -/

/-- The monotonic clock that timers follow, and the wall clock. -/
structure Clock where
  now : Nat
  utcNow : Nat

/-- How a write ends: it is accepted, it is refused before it starts, or it
fails once started. -/
inductive SendOutcome where
  | sent | notReady | failed

inductive SendError where
  | notReady | failed

structure Env extends Clock where
  /-- The OPEN message the policy would send. -/
  openMessage : BgpOpenMessage
  transport : BgpMessage → SendOutcome

/-- What the transport has to offer when it is polled. -/
inductive Inbound where
  | pending
  | closed
  | error (err : BgpCodecDecoderError)
  | message (msg : BgpMessage) (parsingErrors : BgpParsingIgnoredErrors)

namespace Connection

/-! ## Sending -/

variable (conn : Connection)

/-- The bookkeeping before a message is written. -/
def startSend (clock : Clock) (msg : BgpMessage) : Connection :=
  let stats := { conn.stats with
    messagesSent := conn.stats.messagesSent + 1
    lastSent := some clock.utcNow }
  match msg with
  | .openMessage msg =>
    { conn with
      stats := { stats with openSent := stats.openSent + 1 }
      sentCapabilities := some msg.capabilities }
  | .update _ =>
    { conn with
      stats := { stats with updateSent := stats.updateSent + 1 }
      keepaliveTimer := conn.keepaliveTimer.map (·.reset clock.now) }
  | .notification _ =>
    { conn with stats := { stats with notificationSent := stats.notificationSent + 1 } }
  | .keepAlive =>
    { conn with
      stats := { stats with keepaliveSent := stats.keepaliveSent + 1 }
      keepaliveTimer := conn.keepaliveTimer.map (·.reset clock.now) }
  | .routeRefresh _ =>
    { conn with stats := { stats with routeRefreshSent := stats.routeRefreshSent + 1 } }

def send (clock : Clock) (outcome : SendOutcome) (msg : BgpMessage) :
    Connection × Option SendError :=
  match outcome with
  | .sent => (conn.startSend clock msg, none)
  | .notReady => (conn, some .notReady)
  | .failed => (conn.startSend clock msg, some .failed)

/-- Send and go on; a failed write ends the handler. -/
def trySend (env : Env) (msg : BgpMessage) (next : Connection → Connection × Option SendError) :
    Connection × Option SendError :=
  match conn.send env.toClock (env.transport msg) msg with
  | (conn, none) => next conn
  | (conn, some err) => (conn, some err)

/-- Send and only log a failed write. -/
def sendOrLog (env : Env) (msg : BgpMessage) : Connection :=
  (conn.send env.toClock (env.transport msg) msg).1

/-! ## Timers -/

def readOpenMsg (msg : BgpOpenMessage) : Connection :=
  { conn with
    peerAsn := some msg.myAsn4
    peerBgpId := some msg.bgpId
    receivedCapabilities := some msg.capabilities
    peerHoldTime := some msg.holdTime }

def setNegotiatedTimers : Connection :=
  if conn.config.holdTimerDuration = 0 then
    { conn with holdTimerDuration := 0, keepaliveTimerDuration := 0 }
  else
    let hold :=
      match conn.peerHoldTime with
      | some received => fromSecs (min conn.config.holdTimerDuration.toNat received.toNat)
      | none => fromSecs conn.config.holdTimerDurationLargeValue.toNat
    { conn with holdTimerDuration := hold, keepaliveTimerDuration := conn.scaling.third hold }

/-- A timer of the given period that starts now, or the timer already there if
the period is zero. -/
def rearm (timer : Option Interval) (now period : Nat) : Option Interval :=
  if h : 0 < period then some ((Interval.new now period h).reset now) else timer

def startHoldTimer (now : Nat) : Connection :=
  if conn.config.holdTimerDurationLargeValue ≠ 0 then
    let hold := fromSecs conn.config.holdTimerDurationLargeValue.toNat
    { conn with holdTimerDuration := hold, holdTimer := rearm conn.holdTimer now hold }
  else conn

/-- Reading the peer's OPEN and computing the timer durations. -/
def negotiate (msg : BgpOpenMessage) : Connection :=
  (({ conn with openDelayTimer := none } : Connection).readOpenMsg msg).setNegotiatedTimers

/-- Negotiating and starting the timers whose duration is not zero. -/
def acceptOpen (now : Nat) (msg : BgpOpenMessage) : Connection :=
  let conn := conn.negotiate msg
  { conn with
    keepaliveTimer :=
      if h : 0 < conn.keepaliveTimerDuration then
        some ((Interval.new now (conn.scaling.jittered conn.keepaliveTimerDuration)
          (conn.scaling.jittered_pos _ h)).reset now)
      else conn.keepaliveTimer
    holdTimer := rearm conn.holdTimer now conn.holdTimerDuration }

/-! ## Handlers -/

def holdTimerExpired : BgpMessage := .notification (.holdTimerExpiredError ⟨0, []⟩)

/-- Start the hold timer and send the policy's OPEN. -/
def sendOpen (env : Env) : Connection × Option SendError :=
  (conn.startHoldTimer env.now).trySend env (.openMessage env.openMessage) fun conn =>
    ({ conn with state := .openSent }, none)

/-- Send the OPEN at once, or wait for the delay timer first. -/
def openOrDelay (env : Env) : Connection × Option SendError :=
  if conn.config.openDelayTimerDuration = 0 then conn.sendOpen env
  else
    ({ conn with
        openDelayTimer := rearm conn.openDelayTimer env.now
          (fromSecs conn.config.openDelayTimerDuration.toNat) }, none)

variable {A : Type}

def handleConnectedEvent (env : Env) :
    ConnectionEvent A → Connection × Option SendError
  | .delayOpenTimerExpires => conn.sendOpen env
  | .tcpConnectionRequestAcked _ | .tcpConnectionConfirmed _ => conn.openOrDelay env
  | .bgpOpenWithDelayOpenTimer msg =>
    (conn.acceptOpen env.now msg).trySend env (.openMessage env.openMessage) fun conn =>
      conn.trySend env .keepAlive fun conn => ({ conn with state := .openConfirm }, none)
  | .bgpHeaderErr err =>
    let conn :=
      if conn.config.sendNotifWithoutOpen then
        conn.sendOrLog env (.notification (.messageHeaderError err))
      else conn
    ({ conn with state := .terminate }, none)
  | .bgpOpenMsgErr err =>
    let conn :=
      if conn.config.sendNotifWithoutOpen then
        conn.sendOrLog env (.notification (.openMessageError err))
      else conn
    ({ conn with state := .terminate }, none)
  | .notifMsgErr _ => (conn, none)
  | .notifMsgVerErr | .holdTimerExpires | .keepAliveTimerExpires | .tcpConnectionFails
  | .bgpOpen _ | .notifMsg _ | .keepAliveMsg | .updateMsg .. | .updateMsgErr _
  | .routeRefresh _ | .routeRefreshErr _ => ({ conn with state := .terminate }, none)

def handleOpenSentEvent (env : Env) :
    ConnectionEvent A → Connection × Option SendError
  | .holdTimerExpires =>
    conn.trySend env holdTimerExpired fun conn => ({ conn with state := .terminate }, none)
  | .bgpOpen msg =>
    (conn.acceptOpen env.now msg).trySend env .keepAlive fun conn =>
      ({ conn with state := .openConfirm }, none)
  | .bgpHeaderErr err =>
    ({ conn.sendOrLog env (.notification (.messageHeaderError err)) with state := .terminate }, none)
  | .bgpOpenMsgErr err =>
    ({ conn.sendOrLog env (.notification (.openMessageError err)) with state := .terminate }, none)
  | .notifMsgErr _ => (conn, none)
  | .keepAliveTimerExpires | .delayOpenTimerExpires | .bgpOpenWithDelayOpenTimer _ | .notifMsg _
  | .keepAliveMsg | .updateMsg .. | .updateMsgErr _ | .routeRefresh _ | .routeRefreshErr _ =>
    ({ conn.sendOrLog env (.notification (.finiteStateMachineError
        ⟨.receiveUnexpectedMessageInOpenSentState, []⟩)) with state := .terminate }, none)
  | .notifMsgVerErr | .tcpConnectionFails | .tcpConnectionRequestAcked _
  | .tcpConnectionConfirmed _ => ({ conn with state := .terminate }, none)

def handleOpenConfirmEvent (env : Env) :
    ConnectionEvent A → Connection × Option SendError
  | .holdTimerExpires =>
    -- the state changes before the write, so a failed write leaves it changed
    ({ conn with state := .terminate } : Connection).trySend env holdTimerExpired fun conn =>
      (conn, none)
  | .keepAliveTimerExpires => conn.trySend env .keepAlive fun conn => (conn, none)
  | .bgpHeaderErr err =>
    ({ conn.sendOrLog env (.notification (.messageHeaderError err)) with state := .terminate }, none)
  | .bgpOpenMsgErr err =>
    ({ conn.sendOrLog env (.notification (.openMessageError err)) with state := .terminate }, none)
  | .keepAliveMsg =>
    ({ conn with
        holdTimer := conn.holdTimer.map (·.reset env.now)
        state := .established }, none)
  | .notifMsgErr _ => (conn, none)
  | .bgpOpen _ | .delayOpenTimerExpires | .bgpOpenWithDelayOpenTimer _ | .updateMsg ..
  | .updateMsgErr _ | .routeRefresh _ | .routeRefreshErr _ =>
    ({ conn.sendOrLog env (.notification (.finiteStateMachineError
        ⟨.receiveUnexpectedMessageInOpenConfirmState, []⟩)) with state := .terminate }, none)
  | .notifMsgVerErr | .notifMsg _ | .tcpConnectionFails | .tcpConnectionRequestAcked _
  | .tcpConnectionConfirmed _ => ({ conn with state := .terminate }, none)

def handleEstablishedEvent (env : Env) :
    ConnectionEvent A → Connection × Option SendError
  | .holdTimerExpires => ({ conn.sendOrLog env holdTimerExpired with state := .terminate }, none)
  | .keepAliveTimerExpires => conn.trySend env .keepAlive fun conn => (conn, none)
  | .keepAliveMsg => ({ conn with holdTimer := conn.holdTimer.map (·.reset env.now) }, none)
  | .updateMsg .. | .routeRefresh _ => (conn, none)
  | .notifMsgErr _ => (conn, none)
  | .delayOpenTimerExpires | .bgpOpen _ | .bgpOpenWithDelayOpenTimer _ | .bgpHeaderErr _
  | .bgpOpenMsgErr _ | .notifMsgVerErr | .notifMsg _ | .updateMsgErr _ | .routeRefreshErr _
  | .tcpConnectionFails | .tcpConnectionRequestAcked _ | .tcpConnectionConfirmed _ =>
    ({ conn with state := .terminate }, none)

/-- The handler of the current state; a terminated connection ignores events. -/
def dispatch (env : Env) (event : ConnectionEvent A) : Connection × Option SendError :=
  match conn.state with
  | .terminate => (conn, none)
  | .connected => conn.handleConnectedEvent env event
  | .openSent => conn.handleOpenSentEvent env event
  | .openConfirm => conn.handleOpenConfirmEvent env event
  | .established => conn.handleEstablishedEvent env event

/-- Handle an event; the event itself is handed back unless a write failed. -/
def handleEvent (env : Env) (event : ConnectionEvent A) :
    Connection × Except SendError (ConnectionEvent A) :=
  let (conn, err) := conn.dispatch env event
  (conn, err.elim (.ok event) .error)

/-! ## Polling -/

def handleOpenMessage (msg : BgpOpenMessage) (peerAsn : Option (BitVec 32))
    (delayTimerRunning : Bool) : Ipv4Addr × ConnectionEvent A :=
  match peerAsn.filter (· ≠ msg.myAsn4) with
  | some asn => (msg.bgpId, .bgpOpenMsgErr ⟨.badPeerAs, octets asn⟩)
  | none =>
    if delayTimerRunning then (msg.bgpId, .bgpOpenWithDelayOpenTimer msg)
    else (msg.bgpId, .bgpOpen msg)

/-- The event of a received message. -/
def receive (clock : Clock) (msg : BgpMessage) (parsingErrors : BgpParsingIgnoredErrors) :
    Connection × Option (ConnectionEvent A) :=
  let stats := { conn.stats with
    messagesReceived := conn.stats.messagesReceived + 1
    lastReceived := some clock.utcNow }
  match msg with
  | .openMessage msg =>
    let (peerBgpId, event) := handleOpenMessage msg conn.peerAsn conn.openDelayTimer.isSome
    ({ conn with
        stats := { stats with openReceived := stats.openReceived + 1 }
        peerBgpId := some peerBgpId }, some event)
  | .update update =>
    ({ conn with stats := { stats with updateReceived := stats.updateReceived + 1 } },
      handleUpdateMessage update parsingErrors)
  | .notification notif =>
    ({ conn with stats := { stats with notificationReceived := stats.notificationReceived + 1 } },
      match notif with
      | .openMessageError ⟨.unsupportedVersionNumber, _⟩ => some .notifMsgVerErr
      | _ => some (.notifMsg notif))
  | .routeRefresh refresh =>
    ({ conn with stats := { stats with routeRefreshReceived := stats.routeRefreshReceived + 1 } },
      some (.routeRefresh refresh))
  | .keepAlive =>
    ({ conn with stats := { stats with keepaliveReceived := stats.keepaliveReceived + 1 } },
      some .keepAliveMsg)

/-- The next event, if there is one. The sources are tried in this order. -/
def pollNext (clock : Clock) (inbound : Inbound) : Connection × Option (ConnectionEvent A) :=
  match conn.keepaliveTimer.bind (·.tick clock.now) with
  | some timer => ({ conn with keepaliveTimer := some timer }, some .keepAliveTimerExpires)
  | none =>
    match conn.openDelayTimer.bind (·.tick clock.now) with
    | some _ => ({ conn with openDelayTimer := none }, some .delayOpenTimerExpires)
    | none =>
      match conn.holdTimer.bind (·.tick clock.now) with
      | some timer => ({ conn with holdTimer := some timer }, some .holdTimerExpires)
      | none =>
        match inbound with
        | .pending => (conn, none)
        | .closed => (conn, some .tcpConnectionFails)
        | .error err => (conn, some (.ofDecoderError err))
        | .message msg parsingErrors => conn.receive clock msg parsingErrors

end Connection

end NetCalyx.Speaker
