import Mathlib.Data.List.Nodup
import NetCalyx.Runs.Stepwise
import NetCalyx.Speaker.Collision

/-!
# The order of administrative events

Administrative events wait in a list that new ones are added to at its end; a call of `run` takes
the last one. A run is watched with what its calls handle and with the position at which each event
was added: `inOrder_iff` says in which runs the events are handled in the order in which they were
added.
-/

namespace NetCalyx.Speaker
open NetCalyx.Bgp List

variable {A : Type}

/-! ## Calls leave the waiting events alone -/

namespace Peer

variable (peer : Peer A)

theorem transition_waiting (conn : Connection) (now : Nat) (before : ConnectionState)
    (event : ConnectionEvent A) :
    (peer.transition conn now before event).1.waitingAdminEvents = peer.waitingAdminEvents := by
  unfold transition
  split
  case h_4 =>
    cases event
    case tcpConnectionFails =>
      simp only [connectedToTerminate]
      split
      · rfl
      · split <;> rfl
    case notifMsgVerErr =>
      simp only [connectedToTerminate]
      split <;> rfl
    all_goals rfl
  case h_13 => rfl
  all_goals cases event <;> rfl

variable (env : PeerEnv A)

theorem handleConnectionEvent_waiting (event : ConnectionEvent A) :
    (peer.handleConnectionEvent env event).1.waitingAdminEvents = peer.waitingAdminEvents := by
  unfold handleConnectionEvent
  split
  · rfl
  · split
    · rfl
    · exact transition_waiting _ _ _ _ _

theorem handleConnectEvent_waiting (event : ConnectionNextEvent A) :
    (peer.handleConnectEvent env event).1.waitingAdminEvents = peer.waitingAdminEvents := by
  cases event with
  | dropMain =>
    rw [handleConnectEvent]
    split
    · rfl
    · dsimp only
      split <;> rfl
  | dropTracked => rfl
  | event event => exact handleConnectionEvent_waiting peer env event

theorem openConnection_waiting (peerAddr : A) (connectionType : ConnectionType)
    (event : ConnectionEvent A) :
    (peer.openConnection env peerAddr connectionType event).1.waitingAdminEvents =
      peer.waitingAdminEvents := by
  unfold openConnection
  dsimp only
  split
  · unfold addConnection
    split <;> rfl
  · rfl

theorem finish_waiting (polled : Polled A) (turn : Turn A) :
    (peer.finish polled turn).1.waitingAdminEvents = peer.waitingAdminEvents := by
  unfold finish
  split
  · rename_i result _
    split
    · cases result with
      | stream => exact openConnection_waiting _ _ _ _ _
      | tcpConnectionFails => rfl
    · rfl
  · dsimp only
    split <;> rfl
  · rfl

theorem select_waiting (turn : Turn A) :
    (peer.select turn).1.waitingAdminEvents = peer.waitingAdminEvents := by
  unfold select
  split
  · exact handleConnectEvent_waiting _ _ _
  · exact finish_waiting _ _ _

theorem handleAdminEvent_waiting (event : PeerAdminEvents A) :
    (peer.handleAdminEvent env event).1.waitingAdminEvents = peer.waitingAdminEvents := by
  have hstart (now : Nat) (event passiveEvent : BgpEvent A) :
      (peer.handleStart now event passiveEvent).1.waitingAdminEvents =
        peer.waitingAdminEvents := by
    unfold handleStart start
    by_cases hidle : peer.fsmState = .idle
    · by_cases hpassive : peer.config.passiveTcpEstablishment <;> simp [hidle, hpassive]
    · simp [hidle]
  cases event with
  | manualStart | automaticStart => exact hstart _ _ _
  | manualStop | automaticStop => rfl
  | tcpConnectionConfirmed peerAddr =>
    rw [handleAdminEvent, acceptConnection]
    split
    · rfl
    · exact openConnection_waiting _ _ _ _ _

/-- A call takes the last of the waiting events. -/
theorem run_waiting (turn : Turn A) :
    (peer.run turn).1.waitingAdminEvents = peer.waitingAdminEvents.dropLast := by
  unfold run runHandling
  split
  · rename_i hnone
    rw [select_waiting, getLast?_eq_none_iff.mp hnone]
    rfl
  · rename_i event _
    have hhandled := handleAdminEvent_waiting
      ({ peer with waitingAdminEvents := peer.waitingAdminEvents.dropLast } : Peer A) turn.env event
    dsimp only
    split
    · rename_i after hresult
      rw [hresult] at hhandled
      rw [select_waiting]
      exact hhandled
    · exact hhandled

theorem sendBgpMessage_waiting (clock : Clock) (trackedOutcome outcome : SendOutcome)
    (msg : BgpMessage) :
    (peer.sendBgpMessage clock trackedOutcome outcome msg).1.waitingAdminEvents =
      peer.waitingAdminEvents := by
  unfold sendBgpMessage
  dsimp only
  split <;> rfl

end Peer

/-! ## Runs with positions -/

/-- A peer, the events that have been added and those that its calls have handled, and the positions
among the added ones of those that wait and of those that have been handled. -/
structure AdminLog (A : Type) where
  peer : Peer A
  added : List (PeerAdminEvents A)
  handled : List (PeerAdminEvents A)
  waitingAt : List Nat
  handledAt : List Nat

namespace AdminLog

def new (properties : PeerProperties A) (config : PeerConfig) : AdminLog A :=
  ⟨.new properties config, [], [], [], []⟩

def step (log : AdminLog A) (op : Peer.Op A) : AdminLog A :=
  let peer := (log.peer.step op).1
  match op with
  | .admin event =>
    { log with
      peer := peer
      added := log.added ++ [event]
      waitingAt := log.waitingAt ++ [log.added.length] }
  | .message .. => { log with peer := peer }
  | .run turn =>
    { log with
      peer := peer
      handled := log.handled ++ (log.peer.runHandling turn).1.toList
      waitingAt := log.waitingAt.dropLast
      handledAt := log.handledAt ++ log.waitingAt.getLast?.toList }

/-- The events at some positions. -/
def At (added : List (PeerAdminEvents A)) (positions : List Nat) (events : List (PeerAdminEvents A)) :
    Prop :=
  positions.map (added[·]?) = events.map some

/-- The positions are those of the events that wait and of those that the calls have handled. -/
structure Matches (log : AdminLog A) : Prop where
  waiting : At log.added log.waitingAt log.peer.waitingAdminEvents
  handled : At log.added log.handledAt log.handled

theorem new_matches (properties : PeerProperties A) (config : PeerConfig) :
    (new properties config).Matches := ⟨rfl, rfl⟩

namespace At

variable {added events events' : List (PeerAdminEvents A)} {positions positions' : List Nat}
variable (h : At added positions events)
include h

theorem lt {i : Nat} (hi : i ∈ positions) : i < added.length := by
  have hmem : added[i]? ∈ events.map some := by
    rw [← show positions.map (added[·]?) = events.map some from h]
    exact mem_map_of_mem hi
  obtain ⟨event, -, heq⟩ := List.mem_map.mp hmem
  exact (List.getElem?_eq_some_iff.mp heq.symm).1

theorem length : positions.length = events.length := by
  simpa using congrArg List.length h

theorem append (h' : At added positions' events') :
    At added (positions ++ positions') (events ++ events') := by
  rw [At, map_append, map_append, h, h']

/-- Events that are added later change nothing. -/
theorem later (event : PeerAdminEvents A) : At (added ++ [event]) positions events := by
  refine Eq.trans (map_congr_left fun i hi => ?_) h
  exact getElem?_append_left (h.lt hi)

theorem dropLast : At added positions.dropLast events.dropLast := by
  rw [At, map_dropLast, map_dropLast, h]

theorem getLast : At added positions.getLast?.toList events.getLast?.toList := by
  have hlast := congrArg List.getLast? h
  rw [getLast?_map, getLast?_map] at hlast
  cases hi : positions.getLast? <;> cases he : events.getLast? <;> simp_all [At]

omit h

theorem range (added : List (PeerAdminEvents A)) : At added (List.range added.length) added := by
  refine ext_getElem? fun i => ?_
  rcases lt_or_ge i added.length with hi | hi <;> simp [hi]

/-- Events at the first positions are the first events. -/
theorem events_isPrefix (h : At added positions events)
    (hpositions : positions <+: List.range added.length) : events <+: added := by
  have hprefix := hpositions.map (added[·]?)
  rw [h, range added] at hprefix
  simpa [prefix_map_iff_of_injective (Option.some_injective _)] using hprefix

end At

/-- What a call handles is the last of the waiting events. -/
theorem runHandling_fst (peer : Peer A) (turn : Turn A) :
    (peer.runHandling turn).1 = peer.waitingAdminEvents.getLast? := by
  unfold Peer.runHandling
  split <;> exact Eq.symm ‹_›

variable {log : AdminLog A}

theorem Matches.step (h : log.Matches) (op : Peer.Op A) : (log.step op).Matches := by
  cases op with
  | admin event =>
    refine ⟨(h.waiting.later event).append ?_, h.handled.later event⟩
    simp [At]
  | message clock trackedOutcome outcome msg =>
    refine ⟨?_, h.handled⟩
    simp only [AdminLog.step, Peer.step, Peer.sendBgpMessage_waiting]
    exact h.waiting
  | run turn =>
    refine ⟨?_, h.handled.append ?_⟩
    · simp only [AdminLog.step, Peer.step, Peer.run_waiting]
      exact h.waiting.dropLast
    · rw [runHandling_fst]
      exact h.waiting.getLast

/-- The handled events are the first ones that were added, in the order in which they were. -/
structure InOrder (log : AdminLog A) : Prop where
  positions : log.handledAt <+: List.range log.added.length
  events : log.handled <+: log.added

/-- The handled positions and then the waiting ones are all positions in order. -/
structure Ordered (log : AdminLog A) : Prop where
  positions : log.Matches
  all : log.handledAt ++ log.waitingAt = List.range log.added.length

theorem new_ordered (properties : PeerProperties A) (config : PeerConfig) :
    (new properties config).Ordered := ⟨new_matches properties config, rfl⟩

/-- A call finds at most one waiting event. -/
def Alone (log : AdminLog A) (op : Peer.Op A) : Prop :=
  ∀ turn, op = .run turn → log.peer.waitingAdminEvents.length ≤ 1

theorem Ordered.inOrder (h : log.Ordered) : log.InOrder := by
  have hpositions : log.handledAt <+: List.range log.added.length :=
    h.all ▸ prefix_append _ _
  exact ⟨hpositions, h.positions.handled.events_isPrefix hpositions⟩

theorem Ordered.step (h : log.Ordered) {op : Peer.Op A} (halone : log.Alone op) :
    (log.step op).Ordered := by
  refine ⟨h.positions.step op, ?_⟩
  cases op with
  | admin event =>
    simp only [AdminLog.step, length_append, length_singleton, range_succ,
      ← append_assoc, h.all]
  | message => exact h.all
  | run turn =>
    have hshort := halone turn rfl
    rw [← h.positions.waiting.length] at hshort
    have hall := h.all
    simp only [AdminLog.step]
    match hwaiting : log.waitingAt with
    | [] => simpa [hwaiting] using hall
    | [i] => simpa [hwaiting] using hall
    | i :: j :: rest =>
      rw [hwaiting] at hshort
      simp at hshort

/-- The last of several waiting events is not the next one in order. -/
theorem Ordered.alone (h : log.Ordered) {op : Peer.Op A} (hnext : (log.step op).InOrder) :
    log.Alone op := by
  rintro turn rfl
  rw [← h.positions.waiting.length]
  replace hnext := hnext.positions
  simp only [AdminLog.step, ← h.all] at hnext
  rw [prefix_append_right_inj] at hnext
  match hwaiting : log.waitingAt with
  | [] => simp
  | [i] => simp
  | i :: j :: rest =>
    have hnodup : log.waitingAt.Nodup := by
      have hrange := nodup_range (n := log.added.length)
      rw [← h.all] at hrange
      exact hrange.of_append_right
    rw [hwaiting] at hnext hnodup
    have hlast : (j :: rest).getLast? = some i := by
      rw [getLast?_cons_cons] at hnext
      cases heq : (j :: rest).getLast? with
      | none => simp at heq
      | some k =>
        rw [heq] at hnext
        simpa using hnext
    exact absurd (mem_of_mem_getLast? hlast) (nodup_cons.mp hnodup).1

/-- In a run from the start, the positions are those of the events that the calls handle, and the
events are handled in the order in which they were added if and only if no call finds more than one
of them waiting. -/
theorem inOrder_iff (properties : PeerProperties A) (config : PeerConfig) (ops : List (Peer.Op A)) :
    Stepwise.Along (fun log op => some (step log op)) (fun _ _ log => log.Matches)
        (new properties config) ops ∧
      (Stepwise.Along (fun log op => some (step log op)) (fun _ _ log => log.InOrder)
          (new properties config) ops ↔
        Stepwise.Along (fun log op => some (step log op)) (fun log op _ => log.Alone op)
          (new properties config) ops) := by
  refine ⟨?_, ?_⟩
  · refine Stepwise.along_of_invariant Matches ?_ (new_matches properties config) ops
    rintro log op _ h ⟨⟩
    exact ⟨h.step op, h.step op⟩
  apply Stepwise.along_iff Ordered
  · rintro log op _ h ⟨⟩
    exact ⟨h.alone, fun halone => (h.step halone).inOrder⟩
  · rintro log op _ h ⟨⟩ halone
    exact h.step halone
  · exact new_ordered properties config

/-- A peer is started and stopped before its first call: the call handles the stop. -/
def stoppedEarly : AdminLog Unit :=
  ([.admin .manualStart, .admin .manualStop, .run (Peer.calmTurn [] .abandoned)] :
    List (Peer.Op Unit)).foldl step ⟨Peer.higherPeer 0, [], [], [], []⟩

theorem stop_overtakes_start :
    stoppedEarly.added = [.manualStart, .manualStop] ∧ stoppedEarly.handled = [.manualStop] ∧
      stoppedEarly.handledAt = [1] ∧ stoppedEarly.peer.waitingAdminEvents = [.manualStart] ∧
      ¬ stoppedEarly.InOrder := by
  refine ⟨rfl, rfl, rfl, rfl, fun hordered => ?_⟩
  exact absurd hordered.positions (by decide)

end AdminLog

end NetCalyx.Speaker
