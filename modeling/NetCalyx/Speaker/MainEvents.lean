import NetCalyx.Speaker.Collision

/-!
# The events of the main connection

While a call waits, the main connection may yield an event. Before the event is handled the
connections are checked for a collision, and what the check decides takes the place of the event.

`main_events_kept_iff` says in which calls every event is handled or the main connection goes.
-/

namespace NetCalyx.Speaker
open Wire NetCalyx.Bgp

variable {A : Type}

/-! ## The polls of a call -/

def Poll.env : Poll A → PeerEnv A
  | main env _ | tracked env _ => env

namespace Polled

/-- The polls that are carried out, each with the connections it finds. -/
def visited (myBgpId : Ipv4Addr) (fsmState : FsmState) :
    Polled A → List (Poll A) → List (Polled A × Poll A)
  | _, [] => []
  | polled, poll :: polls =>
    (polled, poll) ::
      match polled.poll myBgpId fsmState poll with
      | (_, some _) => []
      | (after, none) => visited myBgpId fsmState after polls

section
variable {myBgpId : Ipv4Addr} {fsmState : FsmState} {polled : Polled A} {polls : List (Poll A)}
variable {event : ConnectionEvent A} {v : Polled A × Poll A} {after : Polled A}

/-- The poll that has something to report is the last one. -/
theorem nextConnectionEvent_of_visited {event : ConnectionNextEvent A}
    (hv : v ∈ visited myBgpId fsmState polled polls)
    (hevent : (v.1.poll myBgpId fsmState v.2).2 = some event) :
    nextConnectionEvent myBgpId fsmState polled polls =
      ((v.1.poll myBgpId fsmState v.2).1, some event) := by
  induction polls generalizing polled with
  | nil => simp [visited] at hv
  | cons poll polls ih =>
    unfold visited at hv
    unfold nextConnectionEvent
    rcases hpoll : polled.poll myBgpId fsmState poll with ⟨after, _ | reported⟩
    · rw [hpoll] at hv
      rcases List.mem_cons.mp hv with rfl | hv
      · simp [hpoll] at hevent
      · exact ih hv
    · rw [hpoll] at hv
      rcases List.mem_cons.mp hv with rfl | hv
      · simp only [hpoll] at hevent ⊢
        rw [hevent]
      · simp at hv

end

end Polled

namespace Peer

theorem select_of_event {peer : Peer A} {turn : Turn A} {polled : Polled A}
    {event : ConnectionNextEvent A}
    (h : Polled.nextConnectionEvent peer.properties.myBgpId peer.fsmState peer.polled turn.polls =
      (polled, some event)) :
    peer.select turn =
      (((peer.waited polled turn.connectPolled).handleConnectEvent turn.env event).1,
        ((peer.waited polled turn.connectPolled).handleConnectEvent turn.env event).2.map some) := by
  simp only [select, h]

/-- A handled administrative event either ends the call or lets it wait. -/
theorem run_of_ok_none {peer : Peer A} {turn : Turn A} {event : PeerAdminEvents A}
    (hevent : peer.waitingAdminEvents.getLast? = some event)
    (hnone : ∀ waiting, ({ peer with waitingAdminEvents := waiting } : Peer A).handleAdminEvent
      turn.env event = ({ peer with waitingAdminEvents := waiting }, .ok none)) :
    peer.run turn =
      ({ peer with waitingAdminEvents := peer.waitingAdminEvents.dropLast } : Peer A).select
        turn := by
  simp [run, runHandling, hevent, hnone]

/-- The call has nothing to do but wait. -/
def Waits (peer : Peer A) : Prop :=
  match peer.waitingAdminEvents.getLast? with
  | none => True
  | some .manualStop | some .automaticStop => False
  | some .manualStart | some .automaticStart => peer.fsmState ≠ .idle
  | some (.tcpConnectionConfirmed _) => peer.rejectsConnection = true

def visited (peer : Peer A) (turn : Turn A) : List (Polled A × Poll A) :=
  Polled.visited peer.properties.myBgpId peer.fsmState peer.polled turn.polls

theorem run_of_waits {peer : Peer A} (h : peer.Waits) (turn : Turn A) :
    ∃ waiting, peer.run turn =
      ({ peer with waitingAdminEvents := waiting } : Peer A).select turn := by
  unfold Waits at h
  cases hevent : peer.waitingAdminEvents.getLast? with
  | none =>
    refine ⟨peer.waitingAdminEvents, ?_⟩
    simp [run, runHandling, hevent]
  | some event =>
    refine ⟨peer.waitingAdminEvents.dropLast, run_of_ok_none hevent ?_⟩
    rw [hevent] at h
    cases event with
    | manualStart | automaticStart =>
      simp [handleAdminEvent, handleStart, show peer.fsmState ≠ .idle from h]
    | manualStop | automaticStop => exact h.elim
    | tcpConnectionConfirmed peerAddr => exact fun _ => if_pos h

end Peer

/-! ## Events -/

namespace Polled

/-- The event that the main connection yields, with the connections after it. -/
def yielded (polled : Polled A) : Poll A → Option (Polled A × ConnectionEvent A)
  | .tracked .. => none
  | .main env inbound =>
    polled.connection.bind fun conn =>
      match conn.pollNext env.toClock inbound with
      | (_, none) => none
      | (after, some event) =>
        some ({ polled with connection := some (conn.update after) }, event)

variable {polled : Polled A}

/-- The event is put aside for what the collision check decides. -/
theorem poll_of_yielded {poll : Poll A} (h : polled.yielded poll = some (after, event))
    (myBgpId : Wire.Ipv4Addr) (fsmState : FsmState) :
    polled.poll myBgpId fsmState poll =
      after.resolve poll.env myBgpId (some (.event event)) := by
  cases poll with
  | tracked => cases h
  | main env inbound =>
    obtain ⟨conn, hconn, hpoll⟩ := Option.bind_eq_some_iff.mp h
    rw [poll, pollMain, hconn]
    dsimp only
    generalize conn.pollNext env.toClock inbound = result at hpoll ⊢
    obtain ⟨next, _ | event'⟩ := result
    · cases hpoll
    · cases hpoll
      rfl

theorem yielded_connection {poll : Poll A} (h : polled.yielded poll = some (after, event)) :
    after.connection.isSome := by
  cases poll with
  | tracked => cases h
  | main env inbound =>
    obtain ⟨conn, hconn, hpoll⟩ := Option.bind_eq_some_iff.mp h
    generalize conn.pollNext env.toClock inbound = result at hpoll
    obtain ⟨next, _ | event'⟩ := result
    · cases hpoll
    · cases hpoll
      rfl

/-- A collision is one with a tracked connection. -/
theorem tracked_of_collision {myBgpId : Wire.Ipv4Addr} {check : CollisionCheckRet}
    (h : polled.collision myBgpId = some check) :
    ∃ tracked, polled.trackedConnection = some tracked := by
  cases htracked : polled.trackedConnection with
  | some tracked => exact ⟨tracked, rfl⟩
  | none =>
    have hvisible : polled.visibleTracked = none := by
      rw [visibleTracked, htracked, ite_self]
    rw [collision, Peer.checkConnectionCollision, hvisible] at h
    simp at h

end Polled

namespace Peer

variable (peer : Peer A)
variable (turn : Turn A)

/-- The call handles the event, with the connections it has found. -/
def PassesOn (polled : Polled A) (event : ConnectionEvent A) : Prop :=
  ∃ waiting,
    let handled := (({ peer with waitingAdminEvents := waiting } : Peer A).waited polled
      turn.connectPolled).handleConnectionEvent turn.env event
    peer.run turn = (handled.1, handled.2.map some)

/-- The call drops the main connection: it leaves none behind, or the tracked one in its place. -/
def DropsMain : Prop :=
  (peer.run turn).1.connection = none ∨
    ∃ polled, Polled.nextConnectionEvent peer.properties.myBgpId peer.fsmState peer.polled
        turn.polls = (polled, some .dropMain) ∧
      (peer.run turn).1.connection = polled.trackedConnection ∧
      (peer.run turn).2 = .ok (some .openCollisionDump)

/-- Every event that the main connection yields in a call is handled, or the main connection is
dropped in that call. -/
def KeepsMainEvents : Prop :=
  peer.Waits → ∀ v ∈ peer.visited turn, ∀ after event, v.1.yielded v.2 = some (after, event) →
    peer.PassesOn turn after event ∨ peer.DropsMain turn

/-- When the main connection yields an event there is no collision, or one in which the main
connection goes and the tracked one can take its place. -/
def NoSwallowing : Prop :=
  peer.Waits → ∀ v ∈ peer.visited turn, ∀ after event, v.1.yielded v.2 = some (after, event) →
    after.collision peer.properties.myBgpId = none ∨
      after.collision peer.properties.myBgpId = some .dropMain ∧
        ∀ tracked, after.trackedConnection = some tracked → Replaces tracked

/-- No event is yielded while the tracked connection gives another identifier. -/
def SameIdentifiers : Prop :=
  ∀ v ∈ peer.visited turn, ∀ after event, v.1.yielded v.2 = some (after, event) →
    ∀ id, after.collision peer.properties.myBgpId ≠ some (.invalidTrackedBgpId id)

/-- Handling an event never reports a collision. -/
theorem handleConnectionEvent_result (env : PeerEnv A) (event : ConnectionEvent A) :
    (peer.handleConnectionEvent env event).2 ≠ .ok .openCollisionDump ∧
      ∀ fsmState before after, (peer.handleConnectionEvent env event).2 ≠
        .error (.invalidConnectionStateTransition .openCollisionDump fsmState before after) := by
  unfold handleConnectionEvent
  split
  · exact ⟨(fun h => nomatch h), (fun _ _ _ h => nomatch h)⟩
  · split
    · exact ⟨(fun h => nomatch h), (fun _ _ _ h => nomatch h)⟩
    · dsimp only
      split
      · exact ⟨(fun h => nomatch h), (fun _ _ _ h => nomatch h)⟩
      · exact ⟨(fun h => nomatch h), (fun _ _ _ h => nomatch h)⟩

/-- A call that reports a collision has handled no event. -/
theorem not_passesOn {peer : Peer A} {turn : Turn A} {polled : Polled A}
    (h : (peer.run turn).2 = .ok (some .openCollisionDump) ∨ ∃ fsmState before after, (peer.run turn).2 = .error (.invalidConnectionStateTransition .openCollisionDump fsmState before after))
    :
    ¬ peer.PassesOn turn polled event := by
  rintro ⟨waiting, hrun⟩
  obtain ⟨hok, herror⟩ := handleConnectionEvent_result
    (({ peer with waitingAdminEvents := waiting } : Peer A).waited polled turn.connectPolled)
    turn.env event
  rw [hrun] at h
  dsimp only at h
  generalize (handleConnectionEvent _ turn.env event).2 = result at h hok herror
  cases result with
  | ok reported =>
    rcases h with h | ⟨_, _, _, h⟩
    · cases h
      exact hok rfl
    · cases h
  | error err =>
    rcases h with h | ⟨fsmState, before, after, h⟩
    · cases h
    · cases h
      exact herror fsmState before after rfl

section
variable {peer : Peer A} {turn : Turn A} (hwaits : peer.Waits)
include hwaits

/-- What a call does once a poll has something to report. -/
theorem run_of_reported (hv : v ∈ peer.visited turn) {reported : ConnectionNextEvent A}
    (hpoll : v.1.poll peer.properties.myBgpId peer.fsmState v.2 = (after, some reported)) :
    Polled.nextConnectionEvent peer.properties.myBgpId peer.fsmState peer.polled turn.polls =
        (after, some reported) ∧
      ∃ waiting,
        let handled := (({ peer with waitingAdminEvents := waiting } : Peer A).waited after
          turn.connectPolled).handleConnectEvent turn.env reported
        peer.run turn = (handled.1, handled.2.map some) := by
  have hnext := Polled.nextConnectionEvent_of_visited hv (by rw [hpoll])
  rw [hpoll] at hnext
  obtain ⟨waiting, hrun⟩ := run_of_waits hwaits turn
  have hselect : ({ peer with waitingAdminEvents := waiting } : Peer A).select turn = _ :=
    select_of_event hnext
  exact ⟨hnext, waiting, hrun.trans hselect⟩

/-- The event that a collision check lets pass is handled, and one in which the main connection
goes replaces it. -/
theorem kept_of_collision (hv : v ∈ peer.visited turn)
    (hyields : v.1.yielded v.2 = some (after, event))
    (hcheck : after.collision peer.properties.myBgpId = none ∨ after.collision peer.properties.myBgpId = some .dropMain ∧ ∀ tracked, after.trackedConnection = some tracked → Replaces tracked)
    :
    peer.PassesOn turn after event ∨ peer.DropsMain turn := by
  have hpoll := Polled.poll_of_yielded hyields peer.properties.myBgpId peer.fsmState
  rcases hcheck with hnone | ⟨hdrop, hreplaces⟩
  · simp only [Polled.resolve, hnone] at hpoll
    exact .inl (run_of_reported hwaits hv hpoll).2
  · simp only [Polled.resolve, hdrop] at hpoll
    obtain ⟨hnext, waiting, hrun⟩ := run_of_reported hwaits hv hpoll
    obtain ⟨tracked, htracked⟩ := Polled.tracked_of_collision hdrop
    obtain ⟨fsmState, hstate⟩ := Option.isSome_iff_exists.mp (hreplaces tracked htracked)
    right
    right
    refine ⟨after, hnext, ?_⟩
    rw [hrun]
    simp only [handleConnectEvent, waited, htracked, hstate]
    exact ⟨trivial, rfl⟩

/-- What else a collision check decides leaves the event unhandled and the main connection in
place. -/
theorem collision_of_kept (hv : v ∈ peer.visited turn)
    (hyields : v.1.yielded v.2 = some (after, event))
    (hids : ∀ id, after.collision peer.properties.myBgpId ≠ some (.invalidTrackedBgpId id))
    (hkept : peer.PassesOn turn after event ∨ peer.DropsMain turn) :
    after.collision peer.properties.myBgpId = none ∨
      after.collision peer.properties.myBgpId = some .dropMain ∧
        ∀ tracked, after.trackedConnection = some tracked → Replaces tracked := by
  have hpoll := Polled.poll_of_yielded hyields peer.properties.myBgpId peer.fsmState
  obtain ⟨main, hmain⟩ := Option.isSome_iff_exists.mp (Polled.yielded_connection hyields)
  cases hcheck : after.collision peer.properties.myBgpId with
  | none => exact .inl rfl
  | some check =>
    cases check with
    | invalidTrackedBgpId id => exact absurd hcheck (hids id)
    | dropTracked =>
      simp only [Polled.resolve, hcheck] at hpoll
      obtain ⟨hnext, waiting, hrun⟩ := run_of_reported hwaits hv hpoll
      simp only [handleConnectEvent, waited] at hrun
      rcases hkept with hhandled | hnone | ⟨polled, hdrop, -⟩
      · exact absurd hhandled (not_passesOn (.inl (by rw [hrun]; rfl)))
      · rw [hrun, hmain] at hnone
        cases hnone
      · rw [hnext] at hdrop
        cases hdrop
    | dropMain =>
      refine .inr ⟨rfl, fun tracked htracked => ?_⟩
      by_contra hstate
      rw [Replaces, Option.not_isSome_iff_eq_none] at hstate
      simp only [Polled.resolve, hcheck] at hpoll
      obtain ⟨-, waiting, hrun⟩ := run_of_reported hwaits hv hpoll
      simp only [handleConnectEvent, waited, htracked, hstate] at hrun
      rcases hkept with hhandled | hnone | ⟨polled, -, -, hok⟩
      · exact not_passesOn (.inr ⟨_, _, _, by rw [hrun]; rfl⟩) hhandled
      · rw [hrun, hmain] at hnone
        cases hnone
      · rw [hrun] at hok
        cases hok

end

/-- Every event that the main connection yields in a call is handled, or the main connection is
dropped, if the events meet no collision, or one in which the main connection is replaced; and only
if they do, when the neighbour identifies itself as the same on both connections. -/
theorem main_events_kept_iff (peer : Peer A) (turn : Turn A) :
    (peer.NoSwallowing turn → peer.KeepsMainEvents turn) ∧
      (peer.SameIdentifiers turn → (peer.KeepsMainEvents turn ↔ peer.NoSwallowing turn)) := by
  have henough : peer.NoSwallowing turn → peer.KeepsMainEvents turn := by
    intro hcheck hwaits v hv after event hyields
    exact kept_of_collision hwaits hv hyields (hcheck hwaits v hv after event hyields)
  refine ⟨henough, fun hids => ⟨fun hkept => ?_, henough⟩⟩
  intro hwaits v hv after event hyields
  exact collision_of_kept hwaits hv hyields (hids v hv after event hyields)
    (hkept hwaits v hv after event hyields)

/-- The peer with a connection of its own and one of the neighbour's. -/
def twoConnections : Peer Unit :=
  ([.admin .manualStart, .run (calmTurn [] .abandoned), .run (calmTurn [] (.connect .stream)),
    .admin (.tcpConnectionConfirmed ()), .run (calmTurn [] .abandoned)] : List (Op Unit)).foldl
    (fun peer op => (peer.step op).1) (higherPeer 0)

/-- The neighbour identifies itself on both connections, on its own first. -/
def bothOpened : Turn Unit :=
  calmTurn [.tracked (calm 0) openReceived, .main (calm 0) openReceived] .abandoned

/-- The OPEN on the main connection is lost, and the main connection stays. -/
theorem open_swallowed :
    ∃ v ∈ twoConnections.visited bothOpened, ∃ after msg,
      v.1.yielded v.2 = some (after, .bgpOpen msg) ∧
        ¬ (twoConnections.PassesOn bothOpened after (.bgpOpen msg) ∨
          twoConnections.DropsMain bothOpened) := by
  refine ⟨_, .tail _ (.head _), _, _, rfl, ?_⟩
  rintro (hhandled | hnone | ⟨polled, hdrop, -⟩)
  · exact not_passesOn (.inl rfl) hhandled
  · cases hnone
  · cases hdrop

/-- The neighbour identifies itself on the main connection alone. -/
theorem open_kept :
    twoConnections.KeepsMainEvents (calmTurn [.main (calm 0) openReceived] .abandoned) := by
  refine ((main_events_kept_iff twoConnections
    (calmTurn [.main (calm 0) openReceived] .abandoned)).2 ?_).mpr ?_
  · rintro _ (_ | ⟨_, ⟨⟩⟩) after event ⟨⟩ id h
    cases h
  · rintro - _ (_ | ⟨_, ⟨⟩⟩) after event ⟨⟩
    exact .inl rfl

end Peer

end NetCalyx.Speaker
