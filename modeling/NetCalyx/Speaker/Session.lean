import NetCalyx.Speaker.Connection

/-!
# Runs of a connection

A run is any sequence of polls, handled events and writes, in any order and
with any outcome. `handleEvent_late` and `handleEvent_early` say once what
handling an event can do to the session and its timers, `pollNext_effect` what
a poll can do. The last part is about established sessions that receive
withdraw-only updates (`withdrawal_keeps_session_iff`).
-/

namespace NetCalyx.Speaker
open Wire Timer NetCalyx.Bgp ConnectionEvent

namespace Connection
variable {A : Type}

/-! ## What a write leaves alone -/

/-- Everything a write leaves as it is; the keepalive timer may be reset. -/
structure SameSession (before after : Connection) : Prop where
  state : after.state = before.state
  config : after.config = before.config
  peerHoldTime : after.peerHoldTime = before.peerHoldTime
  holdTimer : after.holdTimer = before.holdTimer
  keepaliveTimer : after.keepaliveTimer.isSome = before.keepaliveTimer.isSome

theorem SameSession.refl (conn : Connection) : SameSession conn conn := ⟨rfl, rfl, rfl, rfl, rfl⟩

theorem SameSession.trans {a b c : Connection} (h : SameSession a b) (h' : SameSession b c) :
    SameSession a c :=
  ⟨h'.state.trans h.state, h'.config.trans h.config, h'.peerHoldTime.trans h.peerHoldTime,
    h'.holdTimer.trans h.holdTimer, h'.keepaliveTimer.trans h.keepaliveTimer⟩

theorem startSend_same (conn : Connection) (clock : Clock) (msg : BgpMessage) :
    SameSession conn (conn.startSend clock msg) := by
  cases msg <;> constructor <;> simp [startSend]

theorem send_same (conn : Connection) (clock : Clock) (outcome : SendOutcome) (msg : BgpMessage) :
    SameSession conn (conn.send clock outcome msg).1 := by
  cases outcome with
  | sent => exact startSend_same conn clock msg
  | notReady => exact .refl conn
  | failed => exact startSend_same conn clock msg

theorem sendOrLog_same (conn : Connection) (env : Env) (msg : BgpMessage) :
    SameSession conn (conn.sendOrLog env msg) :=
  send_same conn env.toClock (env.transport msg) msg

/-- A handler that sends a message either stops there with the error, or goes on. -/
theorem trySend_cases (conn : Connection) (env : Env) (msg : BgpMessage)
    (next : Connection → Connection × Option SendError) :
    (∃ err, conn.trySend env msg next = (conn.sendOrLog env msg, some err)) ∨
      conn.trySend env msg next = next (conn.sendOrLog env msg) := by
  unfold trySend sendOrLog
  rcases hsend : conn.send env.toClock (env.transport msg) msg with ⟨after, _ | err⟩
  · exact .inr rfl
  · exact .inl ⟨err, rfl⟩

/-! ## What handling an event can do -/

/-- The connection has got past the exchange of OPEN messages. -/
def Late (conn : Connection) : Prop :=
  conn.state = .openConfirm ∨ conn.state = .established ∨ conn.state = .terminate

/-- The session is past the exchange of OPEN messages and has not ended. -/
def Confirmed (conn : Connection) : Prop := conn.state = .openConfirm ∨ conn.state = .established

/-- What handling an event can do past the OPEN exchange: nothing that matters
to the session, ending it, or, on a KEEPALIVE, resetting the hold timer. -/
inductive LateEffect (conn : Connection) (now : Nat) (event : ConnectionEvent A) :
    Connection → Prop where
  | kept {after : Connection} (same : SameSession conn after) (h : event ≠ .keepAliveMsg) :
      LateEffect conn now event after
  | ended {after : Connection} (same : SameSession conn { after with state := conn.state })
      (h : after.state = .terminate) : LateEffect conn now event after
  | alive (h : event = .keepAliveMsg) (hlive : conn.state ≠ .terminate) :
      LateEffect conn now event
        { conn with holdTimer := conn.holdTimer.map (·.reset now), state := .established }

variable {conn : Connection} {mid : Connection}

theorem SameSession.ended (same : SameSession conn mid) (now : Nat) (event : ConnectionEvent A) :
    LateEffect conn now event { mid with state := .terminate } :=
  .ended ⟨rfl, same.config, same.peerHoldTime, same.holdTimer, same.keepaliveTimer⟩ rfl

theorem handleOpenConfirmEvent_effect (hlive : conn.state ≠ .terminate) (env : Env)
    (event : ConnectionEvent A) :
    LateEffect conn env.now event (conn.handleOpenConfirmEvent env event).1 := by
  cases event <;> try exact (SameSession.refl conn).ended env.now _
  case keepAliveMsg => exact .alive rfl hlive
  case notifMsgErr => exact .kept (.refl conn) (by simp)
  case keepAliveTimerExpires =>
    rcases conn.trySend_cases env .keepAlive (fun conn => (conn, none)) with ⟨err, h⟩ | h <;>
      simpa [handleOpenConfirmEvent, h] using .kept (sendOrLog_same conn env _) (by simp)
  case holdTimerExpires =>
    have same := sendOrLog_same { conn with state := .terminate } env holdTimerExpired
    rcases ({ conn with state := .terminate } : Connection).trySend_cases env holdTimerExpired
      (fun conn => (conn, none)) with ⟨err, h⟩ | h <;>
      simpa [handleOpenConfirmEvent, h] using LateEffect.ended
        ⟨rfl, same.config, same.peerHoldTime, same.holdTimer, same.keepaliveTimer⟩ same.state
  all_goals exact (sendOrLog_same conn env _).ended env.now _

theorem handleEstablishedEvent_effect (hstate : conn.state = .established) (env : Env)
    (event : ConnectionEvent A) :
    LateEffect conn env.now event (conn.handleEstablishedEvent env event).1 := by
  cases event <;> try exact (SameSession.refl conn).ended env.now _
  case keepAliveMsg =>
    have heq : (conn.handleEstablishedEvent env (.keepAliveMsg : ConnectionEvent A)).1 =
        { conn with holdTimer := conn.holdTimer.map (·.reset env.now), state := .established } := by
      simp [handleEstablishedEvent, ← hstate]
    rw [heq]
    exact .alive rfl (by simp [hstate])
  case keepAliveTimerExpires =>
    rcases conn.trySend_cases env .keepAlive (fun conn => (conn, none)) with ⟨err, h⟩ | h <;>
      simpa [handleEstablishedEvent, h] using .kept (sendOrLog_same conn env _) (by simp)
  case holdTimerExpires => exact (sendOrLog_same conn env _).ended env.now _
  all_goals exact .kept (.refl conn) (by simp)

/-- After the OPEN exchange only a KEEPALIVE touches the hold timer, and it
resets the one that is there. -/
theorem handleEvent_late (h : conn.Late) (env : Env) (event : ConnectionEvent A) :
    LateEffect conn env.now event (conn.handleEvent env event).1 := by
  unfold handleEvent dispatch
  rcases h with h | h | h <;> simp only [h]
  · exact handleOpenConfirmEvent_effect (by simp [h]) env event
  · exact handleEstablishedEvent_effect h env event
  · exact .ended (SameSession.refl conn) h

/-- What handling an event can do before, with the error if a write failed: the
exchange stays as it is or ends, our OPEN goes out, or the peer's OPEN completes
it. A failed write leaves the timers started for it behind. -/
inductive EarlyEffect (conn : Connection) (now : Nat) (event : ConnectionEvent A) :
    Connection × Option SendError → Prop where
  | kept {after : Connection} {err : Option SendError} (same : SameSession conn after) :
      EarlyEffect conn now event (after, err)
  | ended {after : Connection} (same : SameSession conn { after with state := conn.state })
      (h : after.state = .terminate) : EarlyEffect conn now event (after, none)
  | sentOpen {after : Connection} (hstate : after.state = .openSent)
      (same : SameSession (conn.startHoldTimer now) { after with state := conn.state }) :
      EarlyEffect conn now event (after, none)
  | opened {after : Connection} (msg : BgpOpenMessage)
      (h : event = .bgpOpen msg ∨ event = .bgpOpenWithDelayOpenTimer msg)
      (hstate : after.state = .openConfirm)
      (same : SameSession (conn.acceptOpen now msg) { after with state := conn.state }) :
      EarlyEffect conn now event (after, none)
  | failed {after base : Connection} (err : SendError)
      (hbase : base = conn.startHoldTimer now ∨ ∃ msg, base = conn.acceptOpen now msg)
      (same : SameSession base after) : EarlyEffect conn now event (after, some err)

/-- Negotiation only computes durations; it does not touch a timer. -/
theorem negotiate_same (conn : Connection) (msg : BgpOpenMessage) :
    SameSession { conn with peerHoldTime := some msg.holdTime } (conn.negotiate msg) := by
  unfold negotiate setNegotiatedTimers
  split <;> exact ⟨rfl, rfl, rfl, rfl, rfl⟩

@[simp] theorem acceptOpen_state (conn : Connection) (now : Nat) (msg : BgpOpenMessage) :
    (conn.acceptOpen now msg).state = conn.state :=
  (conn.negotiate_same msg).state

@[simp] theorem acceptOpen_config (conn : Connection) (now : Nat) (msg : BgpOpenMessage) :
    (conn.acceptOpen now msg).config = conn.config :=
  (conn.negotiate_same msg).config

@[simp] theorem acceptOpen_peerHoldTime (conn : Connection) (now : Nat) (msg : BgpOpenMessage) :
    (conn.acceptOpen now msg).peerHoldTime = some msg.holdTime :=
  (conn.negotiate_same msg).peerHoldTime

@[simp] theorem startHoldTimer_config (conn : Connection) (now : Nat) :
    (conn.startHoldTimer now).config = conn.config := by
  unfold startHoldTimer
  split <;> rfl

@[simp] theorem startHoldTimer_state (conn : Connection) (now : Nat) :
    (conn.startHoldTimer now).state = conn.state := by
  unfold startHoldTimer
  split <;> rfl

theorem sendOpen_effect (conn : Connection) (env : Env) (event : ConnectionEvent A) :
    EarlyEffect conn env.now event (conn.sendOpen env) := by
  have same := sendOrLog_same (conn.startHoldTimer env.now) env (.openMessage env.openMessage)
  unfold sendOpen
  rcases (conn.startHoldTimer env.now).trySend_cases env (.openMessage env.openMessage)
    (fun conn => ({ conn with state := .openSent }, none)) with ⟨err, h⟩ | h <;> rw [h]
  · exact .failed err (.inl rfl) same
  · exact .sentOpen rfl
      ⟨by simp, same.config, same.peerHoldTime, same.holdTimer, same.keepaliveTimer⟩

theorem openOrDelay_effect (conn : Connection) (env : Env) (event : ConnectionEvent A) :
    EarlyEffect conn env.now event (conn.openOrDelay env) := by
  unfold openOrDelay
  split
  · exact sendOpen_effect conn env event
  · exact .kept ⟨rfl, rfl, rfl, rfl, rfl⟩

theorem SameSession.endedEarly (same : SameSession conn mid) (now : Nat) (event : ConnectionEvent A) :
    EarlyEffect conn now event ({ mid with state := .terminate }, none) :=
  .ended ⟨rfl, same.config, same.peerHoldTime, same.holdTimer, same.keepaliveTimer⟩ rfl

/-- Sending a KEEPALIVE and then confirming the session. -/
theorem confirm_effect {env : Env} {msg : BgpOpenMessage} {event : ConnectionEvent A}
    (same : SameSession (conn.acceptOpen env.now msg) mid)
    (hevent : event = .bgpOpen msg ∨ event = .bgpOpenWithDelayOpenTimer msg) :
    EarlyEffect conn env.now event
      (mid.trySend env .keepAlive fun conn => ({ conn with state := .openConfirm }, none)) := by
  have hsame := same.trans (sendOrLog_same mid env .keepAlive)
  rcases mid.trySend_cases env .keepAlive
    (fun conn => ({ conn with state := .openConfirm }, none)) with ⟨err, h⟩ | h <;> rw [h]
  · exact .failed err (.inr ⟨msg, rfl⟩) hsame
  · exact .opened msg hevent rfl
      ⟨by simp, hsame.config, hsame.peerHoldTime, hsame.holdTimer, hsame.keepaliveTimer⟩

theorem handleConnectedEvent_effect (conn : Connection) (env : Env) (event : ConnectionEvent A) :
    EarlyEffect conn env.now event (conn.handleConnectedEvent env event) := by
  cases event <;> try exact (SameSession.refl conn).endedEarly env.now _
  case delayOpenTimerExpires => exact sendOpen_effect conn env _
  case notifMsgErr => exact .kept (.refl conn)
  case tcpConnectionRequestAcked addr => exact openOrDelay_effect conn env _
  case tcpConnectionConfirmed addr => exact openOrDelay_effect conn env _
  case bgpOpenWithDelayOpenTimer msg =>
    have same := sendOrLog_same (conn.acceptOpen env.now msg) env (.openMessage env.openMessage)
    simp only [handleConnectedEvent]
    rcases (conn.acceptOpen env.now msg).trySend_cases env (.openMessage env.openMessage)
      (fun conn => conn.trySend env .keepAlive fun conn =>
        ({ conn with state := .openConfirm }, none)) with ⟨err, h⟩ | h <;> rw [h]
    · exact .failed err (.inr ⟨msg, rfl⟩) same
    · exact confirm_effect same (.inr rfl)
  all_goals
    simp only [handleConnectedEvent]
    split
    · exact (sendOrLog_same conn env _).endedEarly env.now _
    · exact (SameSession.refl conn).endedEarly env.now _

theorem handleOpenSentEvent_effect (conn : Connection) (env : Env) (event : ConnectionEvent A) :
    EarlyEffect conn env.now event (conn.handleOpenSentEvent env event) := by
  cases event <;> try exact (SameSession.refl conn).endedEarly env.now _
  case notifMsgErr => exact .kept (.refl conn)
  case bgpOpen msg => exact confirm_effect (.refl _) (.inl rfl)
  case holdTimerExpires =>
    have same := sendOrLog_same conn env holdTimerExpired
    simp only [handleOpenSentEvent]
    rcases conn.trySend_cases env holdTimerExpired
      (fun conn => ({ conn with state := .terminate }, none)) with ⟨err, h⟩ | h <;> rw [h]
    · exact .kept same
    · exact same.endedEarly env.now _
  all_goals exact (sendOrLog_same conn env _).endedEarly env.now _

theorem handleEvent_early (h : ¬ conn.Late) (env : Env) (event : ConnectionEvent A) :
    EarlyEffect conn env.now event (conn.dispatch env event) := by
  unfold dispatch
  cases hstate : conn.state with
  | connected => exact handleConnectedEvent_effect conn env event
  | openSent => exact handleOpenSentEvent_effect conn env event
  | openConfirm => exact absurd (.inl hstate) h
  | established => exact absurd (.inr (.inl hstate)) h
  | terminate => exact absurd (.inr (.inr hstate)) h

/-! ## What a poll can do -/

/-- Received messages and decoding errors never pass for expired timers. -/
theorem ofDecoderError_ne_timer (err : BgpCodecDecoderError) :
    (ofDecoderError err : ConnectionEvent A) ≠ .holdTimerExpires ∧
      (ofDecoderError err : ConnectionEvent A) ≠ .keepAliveTimerExpires := by
  cases err with
  | bgpMessageParsingError err => cases err <;> simp [ofDecoderError]
  | _ => simp [ofDecoderError]

theorem handleUpdateMessage_ne_timer (update : BgpUpdateMessage)
    (errors : BgpParsingIgnoredErrors) :
    (handleUpdateMessage update errors : Option (ConnectionEvent A)) ≠ some .holdTimerExpires ∧
      (handleUpdateMessage update errors : Option (ConnectionEvent A)) ≠
        some .keepAliveTimerExpires := by
  unfold handleUpdateMessage
  split <;> simp

theorem receive_same (conn : Connection) (clock : Clock) (msg : BgpMessage)
    (errors : BgpParsingIgnoredErrors) :
    SameSession conn (conn.receive clock msg errors : _ × Option (ConnectionEvent A)).1 := by
  cases msg <;> exact ⟨rfl, rfl, rfl, rfl, rfl⟩

theorem receive_ne_timer (conn : Connection) (clock : Clock) (msg : BgpMessage)
    (errors : BgpParsingIgnoredErrors) :
    (conn.receive clock msg errors : _ × Option (ConnectionEvent A)).2 ≠ some .holdTimerExpires ∧
      (conn.receive clock msg errors : _ × Option (ConnectionEvent A)).2 ≠
        some .keepAliveTimerExpires := by
  cases msg with
  | openMessage msg =>
    simp only [receive, handleOpenMessage]
    split
    · simp
    · split <;> simp
  | update update => exact handleUpdateMessage_ne_timer update errors
  | notification notif =>
    simp only [receive]
    split <;> simp
  | keepAlive | routeRefresh refresh => simp [receive]

/-- What a poll can do to the session: take a tick of the hold timer, or leave
it alone. -/
inductive PollEffect (conn : Connection) (now : Nat) :
    Connection × Option (ConnectionEvent A) → Prop where
  | keepaliveTick {after : Connection} (same : SameSession conn after)
      (h : conn.keepaliveTimer.isSome = true) :
      PollEffect conn now (after, some .keepAliveTimerExpires)
  | holdTick {timer next : Interval} (h : conn.holdTimer = some timer)
      (htick : timer.tick now = some next) :
      PollEffect conn now ({ conn with holdTimer := some next }, some .holdTimerExpires)
  | other {after : Connection} {event : Option (ConnectionEvent A)} (same : SameSession conn after)
      (hold : event ≠ some .holdTimerExpires) (keepalive : event ≠ some .keepAliveTimerExpires) :
      PollEffect conn now (after, event)

theorem pollNext_effect (conn : Connection) (clock : Clock) (inbound : Inbound) :
    PollEffect (A := A) conn clock.now (conn.pollNext clock inbound) := by
  unfold pollNext
  split
  next timer htick =>
    obtain ⟨old, hold, -⟩ := Option.bind_eq_some_iff.mp htick
    exact .keepaliveTick ⟨rfl, rfl, rfl, rfl, by simp [hold]⟩ (by simp [hold])
  next =>
    split
    next => exact .other ⟨rfl, rfl, rfl, rfl, rfl⟩ (by simp) (by simp)
    next =>
      split
      next timer htick =>
        obtain ⟨old, hold, htick⟩ := Option.bind_eq_some_iff.mp htick
        exact .holdTick hold htick
      next =>
        cases inbound with
        | pending | closed => exact .other (.refl conn) (by simp) (by simp)
        | error err =>
          have hne := ofDecoderError_ne_timer (A := A) err
          exact .other (.refl conn) (by simp [hne.1]) (by simp [hne.2])
        | message msg errors =>
          have hne := receive_ne_timer (A := A) conn clock msg errors
          exact .other (receive_same conn clock msg errors) hne.1 hne.2

theorem pollNext_holdTimerExpires {clock : Clock} {inbound : Inbound}
    (h : (conn.pollNext clock inbound : _ × Option (ConnectionEvent A)).2 = some .holdTimerExpires)
    :
    ∃ timer next, conn.holdTimer = some timer ∧ timer.tick clock.now = some next := by
  have heffect := pollNext_effect (A := A) conn clock inbound
  generalize conn.pollNext clock inbound = result at heffect h
  cases heffect with
  | keepaliveTick _ _ => simp at h
  | holdTick hsome htick => exact ⟨_, _, hsome, htick⟩
  | other _ hnot _ => exact absurd h hnot

/-! ## Runs -/

/-- One use of a connection by its owner. -/
inductive Op (A : Type) where
  | poll (clock : Clock) (inbound : Inbound)
  | handle (env : Env) (event : ConnectionEvent A)
  | send (clock : Clock) (outcome : SendOutcome) (msg : BgpMessage)

def Op.now : Op A → Nat
  | poll clock _ => clock.now
  | handle env _ => env.now
  | send clock _ _ => clock.now

def step (conn : Connection) : Op A → Connection
  | .poll clock inbound => (conn.pollNext clock inbound : _ × Option (ConnectionEvent A)).1
  | .handle env event => (conn.handleEvent env event).1
  | .send clock outcome msg => (conn.send clock outcome msg).1

def run (conn : Connection) (ops : List (Op A)) : Connection := ops.foldl step conn

/-- What every operation of a run preserves holds at its end. -/
theorem run_invariant {P : Connection → Prop} {ops : List (Op A)}
    (hstep : ∀ conn, ∀ op ∈ ops, P conn → P (conn.step op)) (h : P conn) : P (conn.run ops) := by
  induction ops generalizing conn with
  | nil => exact h
  | cons op ops ih =>
    exact ih (fun conn op hmem => hstep conn op (List.mem_cons_of_mem _ hmem))
      (hstep conn op List.mem_cons_self h)

def Op.handlesKeepAlive : Op A → Bool
  | .handle _ .keepAliveMsg => true
  | _ => false

/-- What an operation can do to the session. -/
inductive StepEffect (conn : Connection) (op : Op A) : Connection → Prop where
  | same {after : Connection} (same : SameSession conn after) (h : op.handlesKeepAlive = false) :
      StepEffect conn op after
  | ticked {timer next : Interval} (hsome : conn.holdTimer = some timer)
      (htick : timer.tick op.now = some next) (h : op.handlesKeepAlive = false) :
      StepEffect conn op { conn with holdTimer := some next }
  | ended {after : Connection} (same : SameSession conn { after with state := conn.state })
      (hstate : after.state = .terminate) : StepEffect conn op after
  | alive {env : Env} (h : op = .handle env .keepAliveMsg) (hconfirmed : conn.Confirmed) :
      StepEffect conn op
        { conn with holdTimer := conn.holdTimer.map (·.reset op.now), state := .established }
  /-- The exchange of OPEN messages goes on. -/
  | early {after : Connection} (hearly : ¬ conn.Late) (hconfig : after.config = conn.config)
      (h : ¬ after.Late) : StepEffect conn op after
  | opened {env : Env} {event : ConnectionEvent A} {after : Connection} (msg : BgpOpenMessage)
      (hearly : ¬ conn.Late) (h : op = .handle env event)
      (hopen : event = .bgpOpen msg ∨ event = .bgpOpenWithDelayOpenTimer msg)
      (hstate : after.state = .openConfirm)
      (same : SameSession (conn.acceptOpen op.now msg) { after with state := conn.state }) :
      StepEffect conn op after

theorem step_effect (conn : Connection) (op : Op A) : StepEffect conn op (conn.step op) := by
  cases op with
  | send clock outcome msg => exact .same (send_same conn clock outcome msg) rfl
  | poll clock inbound =>
    have heffect := pollNext_effect (A := A) conn clock inbound
    simp only [step]
    generalize conn.pollNext clock inbound = result at heffect
    cases heffect with
    | keepaliveTick same _ | other same _ _ => exact .same same rfl
    | holdTick hsome htick => exact .ticked hsome htick rfl
  | handle env event =>
    by_cases hlate : conn.Late
    · have heffect := handleEvent_late hlate env event
      simp only [step]
      generalize (conn.handleEvent env event).1 = after at heffect
      cases heffect with
      | kept same hnot => exact .same same (by cases event <;> simp_all [Op.handlesKeepAlive])
      | ended same hstate => exact .ended same hstate
      | alive hevent hlive =>
        subst hevent
        exact .alive rfl (hlate.imp_right (·.resolve_right hlive))
    · have heffect := handleEvent_early hlate env event
      change StepEffect conn _ (conn.dispatch env event).1
      generalize conn.dispatch env event = result at heffect
      cases heffect with
      | kept same => exact .early hlate same.config (by rwa [Late, same.state])
      | ended same hstate => exact .ended same hstate
      | sentOpen hstate same =>
        exact .early hlate (same.config.trans (by simp)) (by simp [Late, hstate])
      | opened msg hopen hstate same => exact .opened msg hlate rfl hopen hstate same
      | failed err hbase same =>
        rcases hbase with rfl | ⟨msg, rfl⟩ <;>
          exact .early hlate (same.config.trans (by simp)) (by simpa [Late, same.state] using hlate)

theorem step_config (conn : Connection) (op : Op A) : (conn.step op).config = conn.config := by
  have heffect := conn.step_effect op
  generalize conn.step op = after at heffect
  cases heffect with
  | same same | ended same => exact same.config
  | ticked | alive => rfl
  | early _ hconfig => exact hconfig
  | opened msg _ _ _ _ same => exact same.config.trans (conn.acceptOpen_config _ msg)

theorem run_config (conn : Connection) (ops : List (Op A)) :
    (conn.run ops).config = conn.config := by
  refine run_invariant (P := fun after => after.config = conn.config) ?_ rfl
  intro after op _ hafter
  rw [step_config, hafter]

/-! ## Withdraw-only updates -/

/-- Receive an update and handle the event it becomes. -/
def feedUpdate (A : Type) (conn : Connection) (env : Env) (update : BgpUpdateMessage)
    (errors : BgpParsingIgnoredErrors) : Connection :=
  match (conn.receive env.toClock (.update update) errors : _ × Option (ConnectionEvent A)) with
  | (conn, some event) => (conn.handleEvent env event).1
  | (conn, none) => conn

/-- The update announces nothing and only withdraws routes, in its withdrawn
routes field, in a withdrawal attribute, or both. -/
def WithdrawOnly (update : BgpUpdateMessage) : Prop :=
  update.nlri = [] ∧ update.mpReachCount = 0 ∧ update.mpUnreachCount ≤ 1 ∧
    (update.withdrawnRoutes ≠ [] ∨ update.mpUnreachCount = 1)

/-- The update becomes an update event, and no established session ends on it. -/
def KeepsSession (A : Type) (update : BgpUpdateMessage) (errors : BgpParsingIgnoredErrors) :
    Prop :=
  (∃ treatment, (handleUpdateMessage update errors : Option (ConnectionEvent A)) =
      some (.updateMsg update treatment)) ∧
    ∀ (conn : Connection) (env : Env), conn.state = .established →
      (conn.feedUpdate A env update errors).state = .established

theorem feedUpdate_established (hstate : conn.state = .established) (env : Env)
    (update : BgpUpdateMessage) (errors : BgpParsingIgnoredErrors) :
    (conn.feedUpdate A env update errors).state =
      if rejects update then .terminate else .established := by
  unfold feedUpdate rejects
  simp only [receive, handleUpdateMessage]
  cases checkScan update.endOfRib update.nlri.isEmpty
      (scanAttributes update.pathAttributes {}) <;>
    simp [handleEvent, dispatch, hstate, handleEstablishedEvent]

theorem keepsSession_iff {update : BgpUpdateMessage} {errors : BgpParsingIgnoredErrors} :
    KeepsSession A update errors ↔ rejects update = false := by
  constructor
  · rintro ⟨⟨treatment, hevent⟩, -⟩
    have hkind := handleUpdateMessage_kind (A := A) update errors
    rw [hevent] at hkind
    cases hrejects : rejects update
    · rfl
    · simp [hrejects, updateKind] at hkind
  · intro hrejects
    refine ⟨⟨updateTreatment errors, ?_⟩, fun conn env hstate => ?_⟩
    · unfold rejects at hrejects
      simp [handleUpdateMessage, Option.isNone_iff_eq_none.mp (Option.isSome_eq_false_iff.mp hrejects)]
    · rw [feedUpdate_established hstate, hrejects]
      rfl

/-- A withdraw-only update survives exactly when it is an end-of-RIB marker or
carries an origin and an AS path, which nothing it withdraws needs. -/
theorem withdrawal_keeps_session_iff (A : Type) {update : BgpUpdateMessage}
    (h : WithdrawOnly update) :
    KeepsSession A update .default ↔
      update.endOfRib.isSome = true ∨ (update.hasOrigin = true ∧ update.hasAsPath = true) := by
  obtain ⟨hnlri, hreach, hunreach, -⟩ := h
  rw [keepsSession_iff]
  constructor
  · intro haccepted
    cases heor : update.endOfRib with
    | some family => exact .inl rfl
    | none =>
      refine .inr ?_
      by_contra hmissing
      rw [not_and_or, Bool.not_eq_true, Bool.not_eq_true] at hmissing
      rw [rejects_of_missing heor hmissing] at haccepted
      cases haccepted
  · rintro (heor | ⟨ho, hp⟩)
    · exact rejects_of_endOfRib heor
    · exact accepts_of_empty_nlri ho hp hnlri (by omega) hunreach

/-- Withdrawal of `10.0.0.0/8` with the attributes given. -/
def withdrawal (pathAttributes : List PathAttribute) : BgpUpdateMessage where
  withdrawnRoutes := [tenSlashEight]
  pathAttributes := pathAttributes
  nlri := []

theorem withdrawal_with_path_keeps_session :
    KeepsSession Unit
      (withdrawal [.originIgp,
        ⟨false, true, false, false, .asPath (.as2PathSegments []), rfl, rfl, rfl⟩]) .default :=
  (withdrawal_keeps_session_iff Unit ⟨rfl, rfl, by decide, .inl (by simp [withdrawal])⟩).mpr
    (.inr ⟨rfl, rfl⟩)

/-- A plain withdrawal without any attribute ends the session. -/
theorem plain_withdrawal_ends_session :
    WithdrawOnly (withdrawal []) ∧ ¬ KeepsSession Unit (withdrawal []) .default := by
  refine ⟨⟨rfl, rfl, by decide, .inl (by simp [withdrawal])⟩, ?_⟩
  rintro ⟨⟨treatment, hevent⟩, -⟩
  have herr : (handleUpdateMessage (withdrawal []) .default : Option (ConnectionEvent Unit)) =
      some (.updateMsgErr ⟨.missingWellKnownAttribute, [PathAttributeType.origin.code]⟩) := rfl
  rw [herr] at hevent
  cases hevent

end Connection

end NetCalyx.Speaker
