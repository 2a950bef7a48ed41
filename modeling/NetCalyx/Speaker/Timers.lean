import Mathlib.Data.List.Induction
import NetCalyx.Speaker.Session

/-!
# Hold and keepalive timers

Two properties of the timers over whole runs of a connection: what a negotiated
hold time of zero does (`zero_hold_time_iff`), and how long a peer has been
silent when the hold timer expires (`hold_timer_quiet`). Behind them, how a session
comes about (`confirmed_by_handshake`).
-/

namespace NetCalyx.Speaker
open Wire Timer NetCalyx.Bgp

namespace Connection
variable {A : Type}

@[simp] theorem new_config (peerAsn : BitVec 32) (dynamic : Bool) (config : ConnectionConfig)
    (scaling : DurationScaling) : (Connection.new peerAsn dynamic config scaling).config = config :=
  rfl

/-! ## Negotiation -/

/-- The hold time negotiated with the sender of an OPEN, in seconds. -/
def negotiatedHoldTime (conn : Connection) (msg : BgpOpenMessage) : Nat :=
  min conn.config.holdTimerDuration.toNat msg.holdTime.toNat

theorem negotiate_durations (conn : Connection) (msg : BgpOpenMessage) :
    (conn.negotiate msg).holdTimerDuration = fromSecs (conn.negotiatedHoldTime msg) ∧
      (conn.negotiate msg).keepaliveTimerDuration =
        conn.scaling.third (fromSecs (conn.negotiatedHoldTime msg)) := by
  unfold negotiate setNegotiatedTimers negotiatedHoldTime
  split
  next hzero =>
    have hconfig : conn.config.holdTimerDuration = 0 := hzero
    simp [hconfig, fromSecs, conn.scaling.third_zero]
  next => exact ⟨rfl, rfl⟩

variable {conn : Connection} {ops : List (Op A)} {msg : BgpOpenMessage}

/-- A zero hold time starts neither timer; whatever ran before keeps running. -/
theorem acceptOpen_zero (h : conn.negotiatedHoldTime msg = 0) (now : Nat) :
    (conn.acceptOpen now msg).holdTimer = conn.holdTimer ∧
      (conn.acceptOpen now msg).keepaliveTimer.isSome = conn.keepaliveTimer.isSome := by
  obtain ⟨hhold, hkeepalive⟩ := conn.negotiate_durations msg
  have same := conn.negotiate_same msg
  have hzero : fromSecs (conn.negotiatedHoldTime msg) = 0 := fromSecs_eq_zero.mpr h
  rw [hzero] at hhold hkeepalive
  rw [conn.scaling.third_zero] at hkeepalive
  constructor
  · simpa [acceptOpen, rearm, hhold] using same.holdTimer
  · simpa [acceptOpen, hkeepalive] using same.keepaliveTimer

/-- Any other hold time starts a fresh hold timer of that period. -/
theorem acceptOpen_pos (h : conn.negotiatedHoldTime msg ≠ 0) (now : Nat) :
    ∃ timer : Interval, (conn.acceptOpen now msg).holdTimer = some (timer.reset now) ∧
      timer.period = fromSecs (conn.negotiatedHoldTime msg) := by
  have hhold := (conn.negotiate_durations msg).1
  have hpos : 0 < (conn.negotiate msg).holdTimerDuration := by
    rw [hhold]
    exact fromSecs_pos (Nat.pos_of_ne_zero h)
  refine ⟨Interval.new now _ hpos, ?_, hhold⟩
  simp only [acceptOpen, rearm, hpos, dite_true]

/-! ## A hold time of zero -/

/-- Past the OPEN exchange with neither timer running. -/
def Disarmed (conn : Connection) : Prop :=
  conn.Late ∧ conn.holdTimer = none ∧ conn.keepaliveTimer.isSome = false

variable {after : Connection}

theorem disarmed_of_same (h : conn.Disarmed) (same : SameSession conn after) : after.Disarmed := by
  obtain ⟨hlate, hhold, hkeepalive⟩ := h
  exact ⟨by simpa [Late, same.state] using hlate, same.holdTimer.trans hhold,
    same.keepaliveTimer.trans hkeepalive⟩

/-- Nothing starts a timer again. -/
theorem disarmed_step (conn : Connection) (op : Op A) (h : conn.Disarmed) :
    (conn.step op).Disarmed := by
  have heffect := conn.step_effect op
  generalize conn.step op = after at heffect
  obtain ⟨hlate, hhold, hkeepalive⟩ := h
  cases heffect with
  | same same => exact disarmed_of_same ⟨hlate, hhold, hkeepalive⟩ same
  | ticked hsome => simp [hhold] at hsome
  | ended same hstate =>
    exact ⟨.inr (.inr hstate), same.holdTimer.trans hhold, same.keepaliveTimer.trans hkeepalive⟩
  | alive => exact ⟨.inr (.inl rfl), by simp [hhold], hkeepalive⟩
  | early hearly | opened _ hearly => exact absurd hlate hearly

theorem disarmed_poll (h : conn.Disarmed) (clock : Clock) (inbound : Inbound) :
    (conn.pollNext clock inbound : _ × Option (ConnectionEvent A)).2 ≠ some .holdTimerExpires ∧
      (conn.pollNext clock inbound : _ × Option (ConnectionEvent A)).2 ≠
        some .keepAliveTimerExpires := by
  obtain ⟨-, hhold, hkeepalive⟩ := h
  have heffect := pollNext_effect (A := A) conn clock inbound
  generalize conn.pollNext clock inbound = result at heffect
  cases heffect with
  | keepaliveTick _ hsome => simp [hkeepalive] at hsome
  | holdTick hsome _ => simp [hhold] at hsome
  | other _ hnot hnot' => exact ⟨hnot, hnot'⟩

/-- The peer's OPEN has been handled without a failed write, either after ours
was sent or while the delay timer was running. -/
def OpenHandled (A : Type) (conn : Connection) (env : Env) (msg : BgpOpenMessage)
    (after : Connection) : Prop :=
  (conn.state = .openSent ∧
      conn.handleEvent env (.bgpOpen msg : ConnectionEvent A) = (after, .ok (.bgpOpen msg))) ∨
    (conn.state = .connected ∧ conn.openDelayTimer.isSome = true ∧
      conn.handleEvent env (.bgpOpenWithDelayOpenTimer msg : ConnectionEvent A) =
        (after, .ok (.bgpOpenWithDelayOpenTimer msg)))

/-- A zero hold time leaves both timers off for good, any other one is the
period of the hold timer. -/
def TimersFollow (A : Type) (conn : Connection) (msg : BgpOpenMessage) (after : Connection) :
    Prop :=
  (conn.negotiatedHoldTime msg = 0 →
    after.holdTimer = none ∧ after.keepaliveTimer = none ∧
      ∀ (later : List (Op A)) (clock : Clock) (inbound : Inbound),
        ((after.run later).pollNext clock inbound : _ × Option (ConnectionEvent A)).2 ≠
            some .holdTimerExpires ∧
          ((after.run later).pollNext clock inbound : _ × Option (ConnectionEvent A)).2 ≠
            some .keepAliveTimerExpires) ∧
    (conn.negotiatedHoldTime msg ≠ 0 →
      ∃ timer, after.holdTimer = some timer ∧
        timer.period = fromSecs (conn.negotiatedHoldTime msg))

private theorem confirmed {opened mid after : Connection} {env : Env} {event : ConnectionEvent A}
    (same : SameSession opened mid)
    (h : (let (conn, err) := mid.trySend env .keepAlive fun conn =>
            ({ conn with state := .openConfirm }, none)
          (conn, err.elim (Except.ok event) .error)) = (after, .ok event)) :
    after.state = .openConfirm ∧ after.holdTimer = opened.holdTimer ∧
      after.keepaliveTimer.isSome = opened.keepaliveTimer.isSome := by
  have hsame := same.trans (sendOrLog_same mid env .keepAlive)
  rcases mid.trySend_cases env .keepAlive
    (fun conn => ({ conn with state := .openConfirm }, none)) with ⟨err, hsend⟩ | hsend <;>
    rw [hsend] at h
  · simp at h
  · simp only [Option.elim_none, Prod.mk.injEq, and_true] at h
    rw [← h]
    exact ⟨rfl, hsame.holdTimer, hsame.keepaliveTimer⟩

/-- Handling the OPEN confirms the session with the timers it negotiated. -/
theorem OpenHandled.effect {env : Env} (h : OpenHandled A conn env msg after) :
    after.state = .openConfirm ∧ after.holdTimer = (conn.acceptOpen env.now msg).holdTimer ∧
      after.keepaliveTimer.isSome = (conn.acceptOpen env.now msg).keepaliveTimer.isSome := by
  rcases h with ⟨hstate, h⟩ | ⟨hstate, -, h⟩
  · simp only [handleEvent, dispatch, hstate, handleOpenSentEvent] at h
    exact confirmed (.refl _) h
  · simp only [handleEvent, dispatch, hstate, handleConnectedEvent] at h
    have same := sendOrLog_same (conn.acceptOpen env.now msg) env (.openMessage env.openMessage)
    rcases (conn.acceptOpen env.now msg).trySend_cases env (.openMessage env.openMessage)
      (fun conn => conn.trySend env .keepAlive fun conn =>
        ({ conn with state := .openConfirm }, none)) with ⟨err, hsend⟩ | hsend <;>
      rw [hsend] at h
    · simp at h
    · exact confirmed same h

theorem zero_hold_time_iff {conn after : Connection} {env : Env} {msg : BgpOpenMessage}
    (h : OpenHandled A conn env msg after) :
    TimersFollow A conn msg after ↔
      conn.negotiatedHoldTime msg ≠ 0 ∨ (conn.holdTimer = none ∧ conn.keepaliveTimer = none) := by
  obtain ⟨hstate, hhold, hkeepalive⟩ := h.effect
  by_cases hzero : conn.negotiatedHoldTime msg = 0
  · obtain ⟨hhold', hkeepalive'⟩ := acceptOpen_zero hzero env.now
    rw [hhold'] at hhold
    rw [hkeepalive'] at hkeepalive
    constructor
    · rintro ⟨hoff, -⟩
      obtain ⟨hnone, hnone', -⟩ := hoff hzero
      refine .inr ⟨hhold ▸ hnone, ?_⟩
      rw [hnone'] at hkeepalive
      simpa using hkeepalive.symm
    · rintro (hne | ⟨hnone, hnone'⟩)
      · exact absurd hzero hne
      · have hoff : after.keepaliveTimer = none := by simpa [hnone'] using hkeepalive
        have hdisarmed : after.Disarmed := ⟨.inl hstate, hhold.trans hnone, by simp [hoff]⟩
        refine ⟨fun _ => ⟨hhold.trans hnone, hoff, fun later clock inbound => ?_⟩,
          fun hne => absurd hzero hne⟩
        have hrun := run_invariant (fun conn op (_ : op ∈ later) => disarmed_step conn op) hdisarmed
        exact disarmed_poll hrun clock inbound
  · obtain ⟨timer, htimer, hperiod⟩ := acceptOpen_pos hzero env.now
    exact ⟨fun _ => .inl hzero,
      fun _ => ⟨fun hz => absurd hz hzero, fun _ => ⟨_, hhold.trans htimer, hperiod⟩⟩⟩

/-- Integer thirds and no jitter. -/
def plainScaling : DurationScaling := ⟨(· / 3), rfl, id, fun _ h => h⟩

/-- An environment in which every write is accepted. -/
def reliable (now : Nat) : Env where
  now := now
  utcNow := now
  openMessage := ⟨65001, 180, 0x0a000001, []⟩
  transport := fun _ => .sent

/-- A fresh connection with the default configuration, up to a delay for the OPEN. -/
def fresh (openDelay : BitVec 16) : Connection :=
  .new 65000 false { ConnectionConfig.default with openDelayTimerDuration := openDelay } plainScaling

/-- The transport has come up at time zero. -/
def transportUp (openDelay : BitVec 16) : Connection :=
  (fresh openDelay).run [.handle (reliable 0) (.tcpConnectionConfirmed ())]

def peerOpen (holdTime : BitVec 16) : BgpOpenMessage := ⟨65000, holdTime, 0x0a000002, []⟩

/-- While the delay timer runs, an OPEN without a hold time starts no timer. -/
theorem zero_hold_time_delayed :
    TimersFollow Unit (transportUp 5) (peerOpen 0)
      ((transportUp 5).handleEvent (reliable 1)
        (.bgpOpenWithDelayOpenTimer (peerOpen 0) : ConnectionEvent Unit)).1 :=
  (@zero_hold_time_iff Unit _ _ (reliable 1) _ (.inr ⟨rfl, rfl, rfl⟩)).mpr (.inr ⟨rfl, rfl⟩)

/-- After our own OPEN, the timer that waited for the peer's one keeps running
although no hold time has been negotiated, and it expires four minutes later. -/
theorem zero_hold_time_still_expires :
    let after := ((transportUp 0).handleEvent (reliable 1)
      (.bgpOpen (peerOpen 0) : ConnectionEvent Unit)).1
    OpenHandled Unit (transportUp 0) (reliable 1) (peerOpen 0) after ∧
      (transportUp 0).negotiatedHoldTime (peerOpen 0) = 0 ∧
      (after.pollNext ⟨fromSecs 240, fromSecs 240⟩ .pending :
        _ × Option (ConnectionEvent Unit)).2 = some .holdTimerExpires ∧
      ¬ TimersFollow Unit (transportUp 0) (peerOpen 0) after := by
  refine ⟨.inl ⟨rfl, rfl⟩, rfl, rfl, fun hfollow => ?_⟩
  obtain ⟨hnone, -, -⟩ := hfollow.1 rfl
  cases hnone

/-! ## Silence before the hold timer expires -/

/-- Handling a KEEPALIVE or an UPDATE of the peer. -/
def Op.hearsPeer : Op A → Bool
  | .handle _ .keepAliveMsg => true
  | .handle _ (.updateMsg ..) => true
  | _ => false

def Op.handlesUpdate : Op A → Bool
  | .handle _ (.updateMsg ..) => true
  | _ => false

theorem Op.hearsPeer_iff (op : Op A) :
    op.hearsPeer = true ↔ op.handlesKeepAlive = true ∨ op.handlesUpdate = true := by
  cases op with
  | handle env event => cases event <;> simp [hearsPeer, handlesKeepAlive, handlesUpdate]
  | send | poll => simp [hearsPeer, handlesKeepAlive, handlesUpdate]

/-- No KEEPALIVE and no UPDATE has been handled in the time `hold` before `now`. -/
def PeerSilent (ops : List (Op A)) (now hold : Nat) : Prop :=
  ∀ op ∈ ops, op.hearsPeer = true → op.now + hold ≤ now

/-- A confirmed session with a hold time runs a hold timer of that period, which
has not been due for a whole period since the last KEEPALIVE. -/
def HoldsSinceHeard (conn : Connection) (ops : List (Op A)) : Prop :=
  conn.state = .openConfirm ∨ conn.state = .established →
    ∃ received, conn.peerHoldTime = some received ∧
      (min conn.config.holdTimerDuration.toNat received.toNat ≠ 0 →
        ∃ timer, conn.holdTimer = some timer ∧
          timer.period = fromSecs (min conn.config.holdTimerDuration.toNat received.toNat) ∧
          ∀ op ∈ ops, op.handlesKeepAlive = true → timer.QuietSince op.now)

variable {op : Op A}

theorem HoldsSinceHeard.of_same (h : HoldsSinceHeard conn ops) (same : SameSession conn after)
    (hop : op.handlesKeepAlive = false) : HoldsSinceHeard after (ops ++ [op]) := by
  unfold HoldsSinceHeard
  rw [same.state, same.peerHoldTime, same.config, same.holdTimer]
  intro hstate
  obtain ⟨received, hreceived, htimer⟩ := h hstate
  refine ⟨received, hreceived, fun hpos => ?_⟩
  obtain ⟨timer, hsome, hperiod, hquiet⟩ := htimer hpos
  refine ⟨timer, hsome, hperiod, fun other hmem hears => ?_⟩
  rcases List.mem_append.mp hmem with hmem | hmem
  · exact hquiet other hmem hears
  · rw [List.mem_singleton.mp hmem, hop] at hears
    cases hears

/-- A timer started or reset now is quiet for everything handled so far. -/
theorem quiet_of_reset {timer : Interval} (htimes : ∀ other ∈ ops, other.now ≤ op.now) :
    ∀ other ∈ ops ++ [op], other.handlesKeepAlive = true → (timer.reset op.now).QuietSince other.now := by
  intro other hmem _
  refine (timer.quietSince_reset op.now).mono ?_
  rcases List.mem_append.mp hmem with hmem | hmem
  · exact htimes other hmem
  · rw [List.mem_singleton.mp hmem]

theorem holdsSinceHeard_step (h : HoldsSinceHeard conn ops)
    (htimes : ∀ other ∈ ops, other.now ≤ op.now) :
    HoldsSinceHeard (conn.step op) (ops ++ [op]) := by
  have heffect := conn.step_effect op
  generalize conn.step op = after at heffect
  cases heffect with
  | same same hop => exact h.of_same same hop
  | @ticked timer next hsome htick hop =>
    intro hstate
    obtain ⟨received, hreceived, htimer⟩ := h hstate
    refine ⟨received, hreceived, fun hpos => ⟨next, rfl, ?_, fun other hmem hears => ?_⟩⟩
    all_goals
      obtain ⟨old, hold, hperiod, hquiet⟩ := htimer hpos
      obtain rfl : timer = old := Option.some.inj (hsome.symm.trans hold)
    · exact (Interval.tick_eq_some htick).2.1.trans hperiod
    · rcases List.mem_append.mp hmem with hmem | hmem
      · exact (hquiet other hmem hears).tick htick
      · rw [List.mem_singleton.mp hmem, hop] at hears
        cases hears
  | ended _ hstate => exact fun hother => by simp [hstate] at hother
  | alive _ hconfirmed =>
    intro _
    obtain ⟨received, hreceived, htimer⟩ := h hconfirmed
    refine ⟨received, hreceived, fun hpos => ?_⟩
    obtain ⟨timer, hsome, hperiod, -⟩ := htimer hpos
    exact ⟨timer.reset op.now, by simp [hsome], hperiod, quiet_of_reset htimes⟩
  | early _ _ hnot => exact fun hother => absurd (hother.imp_right .inl) hnot
  | opened msg _ _ _ _ same =>
    intro _
    refine ⟨msg.holdTime, same.peerHoldTime.trans (acceptOpen_peerHoldTime ..), fun hpos => ?_⟩
    have hconfig := same.config.trans (conn.acceptOpen_config op.now msg)
    change _ = conn.config at hconfig
    rw [hconfig] at hpos ⊢
    obtain ⟨timer, hsome, hperiod⟩ := acceptOpen_pos hpos op.now
    exact ⟨timer.reset op.now, same.holdTimer.trans hsome, hperiod, quiet_of_reset htimes⟩

theorem run_append (conn : Connection) (ops : List (Op A)) (op : Op A) :
    conn.run (ops ++ [op]) = (conn.run ops).step op := by
  simp [run]

theorem holdsSinceHeard_run (hstart : conn.state = .connected)
    (htimes : (ops.map Op.now).Pairwise (· ≤ ·)) : HoldsSinceHeard (conn.run ops) ops := by
  induction ops using List.reverseRecOn with
  | nil => exact fun hother => by simp [run, hstart] at hother
  | append_singleton ops op ih =>
    rw [List.map_append, List.pairwise_append] at htimes
    rw [run_append]
    refine holdsSinceHeard_step (ih htimes.1) fun other hmem => ?_
    exact htimes.2.2 _ (List.mem_map_of_mem hmem) _ (by simp)

/-- When the hold timer of an established session expires, the peer has been silent for the
whole negotiated time exactly if no UPDATE of it has been handled in that time. -/
theorem hold_timer_quiet {peerAsn : BitVec 32} {dynamic : Bool} {config : ConnectionConfig}
    {scaling : DurationScaling} {ops : List (Op A)} {clock : Clock} {inbound : Inbound}
    {received : BitVec 16} (htimes : (ops.map Op.now).Pairwise (· ≤ ·))
    (hstate : ((Connection.new peerAsn dynamic config scaling).run ops).state = .established)
    (hreceived :
      ((Connection.new peerAsn dynamic config scaling).run ops).peerHoldTime = some received)
    (hpos : 0 < min config.holdTimerDuration.toNat received.toNat)
    (hexpires : (((Connection.new peerAsn dynamic config scaling).run ops).pollNext clock inbound :
      _ × Option (ConnectionEvent A)).2 = some .holdTimerExpires) :
    PeerSilent ops clock.now (fromSecs (min config.holdTimerDuration.toNat received.toNat)) ↔
      ∀ op ∈ ops, op.handlesUpdate = true →
        op.now + fromSecs (min config.holdTimerDuration.toNat received.toNat) ≤ clock.now := by
  obtain ⟨received', hreceived', htimer⟩ := holdsSinceHeard_run rfl htimes (.inr hstate)
  obtain rfl : received = received' := Option.some.inj (hreceived.symm.trans hreceived')
  rw [run_config, new_config] at htimer
  obtain ⟨timer, hsome, hperiod, hquiet⟩ := htimer hpos.ne'
  obtain ⟨old, next, hold, htick⟩ := pollNext_holdTimerExpires hexpires
  obtain rfl : timer = old := Option.some.inj (hsome.symm.trans hold)
  refine ⟨fun hsilent op hmem hop => hsilent op hmem (op.hearsPeer_iff.mpr (.inr hop)),
    fun hupdates op hmem hears => ?_⟩
  rcases op.hearsPeer_iff.mp hears with hop | hop
  · rw [← hperiod]
    exact (hquiet op hmem hop).le_of_tick htick
  · exact hupdates op hmem hop

/-- A session with a hold time of three seconds is established at time zero and
sends its own KEEPALIVE after two and a half. -/
def establishedRun : List (Op Unit) :=
  [.handle (reliable 0) (.tcpConnectionConfirmed ()),
    .poll ⟨0, 0⟩ (.message (.openMessage (peerOpen 3)) .default),
    .handle (reliable 0) (.bgpOpen (peerOpen 3)),
    .poll ⟨0, 0⟩ (.message .keepAlive .default),
    .handle (reliable 0) .keepAliveMsg,
    .poll ⟨2500000000, 0⟩ .pending,
    .handle (reliable 2500000000) .keepAliveTimerExpires]

theorem establishedRun_quiet :
    (((fresh 0).run establishedRun).pollNext ⟨fromSecs 3, 0⟩ .pending :
        _ × Option (ConnectionEvent Unit)).2 = some .holdTimerExpires ∧
      PeerSilent establishedRun (fromSecs 3) (fromSecs 3) :=
  ⟨rfl, (@hold_timer_quiet Unit 65000 false .default plainScaling establishedRun ⟨fromSecs 3, 0⟩
    .pending 3 (by decide) rfl rfl (by decide) rfl).mpr (by decide)⟩

/-- The peer sends an UPDATE half a second before the hold timer expires. -/
def updatedRun : List (Op Unit) :=
  establishedRun ++
    [.poll ⟨2500000000, 0⟩ (.message (.update ⟨[], [], []⟩) .default),
      .handle (reliable 2500000000) (.updateMsg ⟨[], [], []⟩ .normal)]

theorem updatedRun_expires :
    ((fresh 0).run updatedRun).state = .established ∧
      ((fresh 0).run updatedRun).peerHoldTime = some 3 ∧
      (((fresh 0).run updatedRun).pollNext ⟨fromSecs 3, 0⟩ .pending :
        _ × Option (ConnectionEvent Unit)).2 = some .holdTimerExpires ∧
      ¬ PeerSilent updatedRun (fromSecs 3) (fromSecs 3) := by
  refine ⟨rfl, rfl, rfl, fun hsilent => ?_⟩
  have hle := hsilent (.handle (reliable 2500000000) (.updateMsg ⟨[], [], []⟩ .normal))
    (by simp [updatedRun]) rfl
  exact absurd hle (by decide)

/-! ## The handshake -/

/-- An OPEN of the peer has been handled whose hold time is the one in force, and behind it, if the
session is established, a KEEPALIVE. -/
def Shaken (conn : Connection) (ops : List (Op A)) : Prop :=
  ∃ before env event msg after, ops = before ++ .handle env event :: after ∧
    (event = .bgpOpen msg ∨ event = .bgpOpenWithDelayOpenTimer msg) ∧
    conn.peerHoldTime = some msg.holdTime ∧
    (conn.state = .established → ∃ env, .handle env .keepAliveMsg ∈ after)

theorem Shaken.extend {next : Connection} (h : Shaken conn ops)
    (hhold : next.peerHoldTime = conn.peerHoldTime)
    (halive : next.state = conn.state ∨ ∃ env, op = .handle env .keepAliveMsg) :
    Shaken next (ops ++ [op]) := by
  obtain ⟨before, env, event, msg, after, rfl, hopen, hheld, hkept⟩ := h
  refine ⟨before, env, event, msg, after ++ [op], by simp, hopen, hhold.trans hheld, fun hnext => ?_⟩
  rcases halive with hsame | ⟨env, rfl⟩
  · obtain ⟨env, hmem⟩ := hkept (hsame ▸ hnext)
    exact ⟨env, List.mem_append_left _ hmem⟩
  · exact ⟨env, by simp⟩

theorem shaken_step (h : conn.Confirmed → Shaken conn ops) (op : Op A) :
    (conn.step op).Confirmed → Shaken (conn.step op) (ops ++ [op]) := by
  have heffect := conn.step_effect op
  generalize conn.step op = next at heffect
  cases heffect with
  | same same =>
    intro hnext
    rw [Confirmed, same.state] at hnext
    exact (h hnext).extend same.peerHoldTime (.inl same.state)
  | ticked => exact fun hnext => (h hnext).extend rfl (.inl rfl)
  | ended _ hstate => exact fun hnext => by simp [Confirmed, hstate] at hnext
  | alive hop hconfirmed => exact fun _ => (h hconfirmed).extend rfl (.inr ⟨_, hop⟩)
  | early _ _ hnot => exact fun hnext => absurd (hnext.imp_right .inl) hnot
  | @opened env event _ msg _ hop hopen hstate same =>
    exact fun _ => ⟨ops, env, event, msg, [], by rw [hop], hopen,
      same.peerHoldTime.trans (acceptOpen_peerHoldTime ..), fun hnext => by simp [hstate] at hnext⟩

/-- **No session without a handshake.** However a new connection is polled, written to and given
events, and whichever writes fail, its session is confirmed only behind an OPEN of the peer and
established only behind a KEEPALIVE after it, and the peer's hold time is that of this OPEN. -/
theorem confirmed_by_handshake (peerAsn : BitVec 32) (dynamic : Bool) (config : ConnectionConfig)
    (scaling : DurationScaling) (ops : List (Op A))
    (h : ((Connection.new peerAsn dynamic config scaling).run ops).Confirmed) :
    Shaken ((Connection.new peerAsn dynamic config scaling).run ops) ops := by
  revert h
  induction ops using List.reverseRecOn with
  | nil => exact fun hnext => by cases hnext <;> contradiction
  | append_singleton ops op ih =>
    rw [run_append]
    exact shaken_step ih op

theorem establishedRun_shaken : Shaken ((fresh 0).run establishedRun) establishedRun :=
  confirmed_by_handshake 65000 false .default plainScaling establishedRun (.inr rfl)

end Connection

end NetCalyx.Speaker
