import NetCalyx.Collections.Map
import NetCalyx.Runs.Stepwise

/-!
# The connection tasks of the BMP actor

The actor spawns a task for each connection and keeps its handle under the remote address. A
task that ends tells so on a channel, by its address alone; the actor then removes whatever is
kept under that address. A connection from an address that is already there replaces the task
and aborts it.

Tasks run beside the actor. A task that has left its loop has no await point any more, so that
an abort comes too late for it and its notification still follows. When the address is taken by
a new connection by then, the notification removes the wrong task. A task that panics, as it does
when it is to choose one of no senders of a subscriber, sends no notification at all.
-/

namespace NetCalyx.Bmp
open Collections Stepwise List Option

inductive TaskPhase where
  | running
  /-- Out of the loop, the notification is still to be sent. -/
  | leaving
  | finished
  deriving DecidableEq

structure ConnectionTask (Addr : Type) where
  remoteAddr : Addr
  phase : TaskPhase
  aborted : Bool

namespace ConnectionTask

variable {Addr : Type}
variable (task : ConnectionTask Addr)

/-- A task is stopped at an await point, of which there is none behind the loop. -/
def abort : ConnectionTask Addr :=
  { task with
    aborted := true
    phase := if task.phase = .running then .finished else task.phase }

/-- Still running and not aborted. -/
def Live : Prop := task.phase ≠ .finished ∧ task.aborted = false

theorem not_live_abort : ¬ task.abort.Live := by
  rintro ⟨-, h⟩
  cases h

end ConnectionTask

/-- The size of the channel of notifications. -/
def closedChannelSize : Nat := 1000

/-- Tasks are known by their place in the order in which they were spawned. -/
structure BmpActor (Addr : Type) where
  tasks : List (ConnectionTask Addr)
  connectionTasks : Map Addr Nat
  connectionClosed : List Addr
  stopped : Bool

inductive TaskAction (Addr : Type) where
  | accept (remoteAddr : Addr)
  /-- A task sees the end of its connection, or an error. -/
  | leave (task : Nat)
  /-- A task sends its notification and ends. -/
  | notify (task : Nat)
  /-- A task panics and ends, without a notification. -/
  | panic (task : Nat)
  /-- The actor takes a notification from the channel. -/
  | closed
  | disconnectPeer (addr : Addr)
  | shutdown

namespace BmpActor

variable {Addr : Type} [DecidableEq Addr]

def new : BmpActor Addr := ⟨[], ∅, [], false⟩

variable (s : BmpActor Addr)

/-- The task of an address is taken out and aborted. -/
def abortPeer (addr : Addr) : BmpActor Addr :=
  match s.connectionTasks.lookup addr with
  | none => s
  | some task =>
    { s with
      tasks := s.tasks.modify task ConnectionTask.abort
      connectionTasks := s.connectionTasks.erase addr }

def accept (remoteAddr : Addr) : BmpActor Addr :=
  let s := s.abortPeer remoteAddr
  { s with
    tasks := s.tasks ++ [⟨remoteAddr, .running, false⟩]
    connectionTasks := s.connectionTasks.insert remoteAddr s.tasks.length }

def setPhase (id : Nat) (phase : TaskPhase) : BmpActor Addr :=
  { s with tasks := s.tasks.modify id fun task => { task with phase := phase } }

/-- Into the channel, unless it is full or nobody listens any more. -/
def trySend (addr : Addr) : BmpActor Addr :=
  if s.stopped = false ∧ s.connectionClosed.length < closedChannelSize then
    { s with connectionClosed := s.connectionClosed ++ [addr] }
  else s

def getConnectedPeers : List Addr := s.connectionTasks.keys

/-- All tasks that are kept are aborted, and the actor returns. -/
def shutdown : BmpActor Addr :=
  { s with
    tasks := s.connectionTasks.entries.foldl
      (fun tasks entry => tasks.modify entry.2 ConnectionTask.abort) s.tasks
    connectionTasks := ∅
    stopped := true }

/-- A step of a task that is in a phase. -/
def inPhase (id : Nat) (phase : TaskPhase) (f : ConnectionTask Addr → BmpActor Addr) :
    Option (BmpActor Addr) :=
  match s.tasks[id]? with
  | none => none
  | some task => if task.phase = phase then some (f task) else none

def step : TaskAction Addr → Option (BmpActor Addr)
  | .accept remoteAddr => if s.stopped then none else some (s.accept remoteAddr)
  | .leave id => s.inPhase id .running fun _ => s.setPhase id .leaving
  | .notify id =>
    s.inPhase id .leaving fun task => (s.setPhase id .finished).trySend task.remoteAddr
  | .panic id => s.inPhase id .running fun _ => s.setPhase id .finished
  | .closed =>
    if s.stopped then none
    else match s.connectionClosed with
      | [] => none
      | addr :: rest =>
        some { s with
          connectionClosed := rest
          connectionTasks := s.connectionTasks.erase addr }
  | .disconnectPeer addr => if s.stopped then none else some (s.abortPeer addr)
  | .shutdown => if s.stopped then none else some s.shutdown

/-- The notifications that are in the channel are handled. -/
def drained : Option (BmpActor Addr) :=
  run step s (s.connectionClosed.map fun _ => .closed)

/-- What is asked of the actor in every state. -/
structure KeepsTrack (s : BmpActor Addr) : Prop where
  registered : ∀ id task, s.tasks[id]? = some task → task.Live →
    s.connectionTasks.lookup task.remoteAddr = some id
  listed : ∀ task ∈ s.tasks, task.Live → task.remoteAddr ∈ s.getConnectedPeers
  disconnects : ∀ (id : Nat) (task task' : ConnectionTask Addr), s.tasks[id]? = some task →
    (s.abortPeer task.remoteAddr).tasks[id]? = some task' → ¬ task'.Live
  shutsDown : ∀ task ∈ s.shutdown.tasks, ¬ task.Live
  /-- The entries of tasks that have finished go with the notifications in the channel. -/
  cleansUp : s.stopped = false → ∃ s', s.drained = some s' ∧
    ∀ addr id task, s'.connectionTasks.lookup addr = some id → s'.tasks[id]? = some task →
      task.phase ≠ .finished

/-- A notification that is handled finds no entry or that of a task that has finished; one that
is sent finds room in the channel, or is not needed; and a task that panics needs none. -/
def Proper (s : BmpActor Addr) : TaskAction Addr → Prop
  | .closed => ∀ addr ∈ s.connectionClosed.head?, ∀ id ∈ s.connectionTasks.lookup addr,
      ∀ task ∈ s.tasks[id]?, task.phase = .finished
  | .notify id => ∀ task ∈ s.tasks[id]?, s.connectionTasks.lookup task.remoteAddr = some id →
      s.connectionClosed.length < closedChannelSize ∨ task.remoteAddr ∈ s.connectionClosed
  | .panic id => ∀ task ∈ s.tasks[id]?, s.connectionTasks.lookup task.remoteAddr = some id →
      task.remoteAddr ∈ s.connectionClosed
  | .accept _ | .leave _ | .disconnectPeer _ | .shutdown => True

/-! ## States -/

/-- What is kept under an address is a task of the address that was not aborted, and a stopped
actor keeps nothing. -/
structure WellKept (s : BmpActor Addr) : Prop where
  task : ∀ addr id, s.connectionTasks.lookup addr = some id → ∃ task, s.tasks[id]? = some task ∧
    task.remoteAddr = addr ∧ task.aborted = false
  stopped : s.stopped = true → s.connectionTasks = ∅

/-- Live tasks are kept, and those that are kept and have finished will be removed. -/
structure Tracked (s : BmpActor Addr) : Prop where
  live : ∀ id task, s.tasks[id]? = some task → task.Live →
    s.connectionTasks.lookup task.remoteAddr = some id
  told : ∀ addr id task, s.connectionTasks.lookup addr = some id → s.tasks[id]? = some task →
    task.phase = .finished → addr ∈ s.connectionClosed

variable {s s' : BmpActor Addr} {addr : Addr}
variable (s)

theorem abortPeer_lookup (addr a : Addr) :
    (s.abortPeer addr).connectionTasks.lookup a =
      if a = addr then none else s.connectionTasks.lookup a := by
  unfold abortPeer
  cases h : s.connectionTasks.lookup addr with
  | none =>
    dsimp only
    split
    · rename_i ha
      rw [ha]
      exact h
    · rfl
  | some id => exact lookup_erase_ite _ _ _

theorem abortPeer_task (addr : Addr) (id : Nat) :
    (s.abortPeer addr).tasks[id]? = (s.tasks[id]?).map fun task =>
      if s.connectionTasks.lookup addr = some id then task.abort else task := by
  unfold abortPeer
  cases h : s.connectionTasks.lookup addr with
  | none => simp
  | some id' =>
    rw [getElem?_modify]
    by_cases hid : id' = id
    · simp [hid]
    · simp [hid]

@[simp] theorem abortPeer_closed (addr : Addr) :
    (s.abortPeer addr).connectionClosed = s.connectionClosed := by
  unfold abortPeer
  split <;> rfl

@[simp] theorem abortPeer_stopped (addr : Addr) : (s.abortPeer addr).stopped = s.stopped := by
  unfold abortPeer
  split <;> rfl

variable {s}
variable {task : ConnectionTask Addr} {id : Nat}

/-- A task that is kept under another address is not touched. -/
theorem WellKept.abortPeer_other (h : WellKept s) {a : Addr} (ha : a ≠ addr)
    (hkept : s.connectionTasks.lookup a = some id) :
    (s.abortPeer addr).tasks[id]? = s.tasks[id]? := by
  obtain ⟨task, htask, hown, -⟩ := h.task a id hkept
  rw [abortPeer_task, htask, map_some, if_neg]
  intro haddr
  obtain ⟨task', htask', hown', -⟩ := h.task addr id haddr
  rw [htask] at htask'
  cases htask'
  exact ha (hown.symm.trans hown')

theorem WellKept.abortPeer (h : WellKept s) (addr : Addr) : WellKept (s.abortPeer addr) := by
  refine ⟨fun a id hkept => ?_, fun hstopped => ?_⟩
  · rw [abortPeer_lookup] at hkept
    split at hkept
    · cases hkept
    · rename_i ha
      rw [h.abortPeer_other ha hkept]
      exact h.task a id hkept
  · rw [abortPeer_stopped] at hstopped
    have hempty := h.stopped hstopped
    unfold BmpActor.abortPeer
    rw [hempty]
    exact hempty

theorem Tracked.abortPeer (hkept : WellKept s) (h : Tracked s) (addr : Addr) :
    Tracked (s.abortPeer addr) := by
  refine ⟨fun id task htask hlive => ?_, fun a id task hlookup htask hfinished => ?_⟩
  · rw [abortPeer_task] at htask
    obtain ⟨old, hold, rfl⟩ := map_eq_some_iff.mp htask
    split at hlive
    · exact absurd hlive old.not_live_abort
    · rename_i hother
      rw [if_neg hother, abortPeer_lookup]
      have hregistered := h.live id old hold hlive
      rw [if_neg]
      · exact hregistered
      · intro ha
        exact hother (ha ▸ hregistered)
  · rw [abortPeer_lookup] at hlookup
    split at hlookup
    · cases hlookup
    · rename_i ha
      rw [hkept.abortPeer_other ha hlookup] at htask
      rw [abortPeer_closed]
      exact h.told a id task hlookup htask hfinished

omit [DecidableEq Addr] in
theorem getElem?_spawned (tasks : List (ConnectionTask Addr)) (task : ConnectionTask Addr) (id : Nat) :
    (tasks ++ [task])[id]? = if id = tasks.length then some task else tasks[id]? := by
  rcases lt_trichotomy id tasks.length with hlt | rfl | hgt
  · rw [getElem?_append_left hlt, if_neg (by omega)]
  · simp
  · rw [if_neg (by omega), getElem?_eq_none (by simp; omega), getElem?_eq_none (by omega)]

theorem WellKept.accept (h : WellKept s) (hrun : s.stopped = false) (addr : Addr) :
    WellKept (s.accept addr) := by
  have habort := h.abortPeer addr
  refine ⟨fun a id hkept => ?_, fun hstopped => ?_⟩
  · change ((s.abortPeer addr).connectionTasks.insert addr _).lookup a = some id at hkept
    show ∃ task, ((s.abortPeer addr).tasks ++ [_])[id]? = some task ∧ _
    rw [lookup_insert_ite] at hkept
    rw [getElem?_spawned]
    split at hkept
    · rename_i ha
      cases hkept
      exact ⟨_, if_pos rfl, ha.symm, rfl⟩
    · obtain ⟨task, htask, hown⟩ := habort.task a id hkept
      have hlt := (List.getElem?_eq_some_iff.mp htask).1
      exact ⟨task, by rw [if_neg (by omega), htask], hown⟩
  · have hsame : (s.accept addr).stopped = s.stopped := abortPeer_stopped s addr
    rw [hsame, hrun] at hstopped
    cases hstopped

theorem Tracked.accept (hkept : WellKept s) (h : Tracked s) (addr : Addr) :
    Tracked (s.accept addr) := by
  have habort := h.abortPeer hkept addr
  have hgone : (s.abortPeer addr).connectionTasks.lookup addr = none := by
    rw [abortPeer_lookup, if_pos rfl]
  refine ⟨fun id task htask hlive => ?_, fun a id task hlookup htask hfinished => ?_⟩
  · change ((s.abortPeer addr).tasks ++ [_])[id]? = some task at htask
    show ((s.abortPeer addr).connectionTasks.insert addr _).lookup _ = some id
    rw [getElem?_spawned] at htask
    rw [lookup_insert_ite]
    split at htask
    · rename_i hid
      cases htask
      rw [if_pos rfl, hid]
    · have hregistered := habort.live id task htask hlive
      rw [if_neg]
      · exact hregistered
      · intro ha
        rw [ha, hgone] at hregistered
        cases hregistered
  · change ((s.abortPeer addr).connectionTasks.insert addr _).lookup a = some id at hlookup
    change ((s.abortPeer addr).tasks ++ [_])[id]? = some task at htask
    rw [lookup_insert_ite] at hlookup
    rw [getElem?_spawned] at htask
    split at hlookup
    · cases hlookup
      rw [if_pos rfl] at htask
      cases htask
      cases hfinished
    · obtain ⟨old, hold, -⟩ := (hkept.abortPeer addr).task a id hlookup
      have hlt := (List.getElem?_eq_some_iff.mp hold).1
      rw [if_neg (by omega)] at htask
      exact habort.told a id task hlookup htask hfinished

omit [DecidableEq Addr] in
theorem setPhase_task (s : BmpActor Addr) (id : Nat) (phase : TaskPhase) (j : Nat) :
    (s.setPhase id phase).tasks[j]? = (s.tasks[j]?).map fun task =>
      if j = id then { task with phase := phase } else task := by
  rw [setPhase, getElem?_modify]
  by_cases hj : id = j
  · simp [hj]
  · simp [hj, Ne.symm hj]

theorem WellKept.setPhase (h : WellKept s) (id : Nat) (phase : TaskPhase) :
    WellKept (s.setPhase id phase) := by
  refine ⟨fun a j hkept => ?_, h.stopped⟩
  obtain ⟨task, htask, hown, haborted⟩ := h.task a j hkept
  rw [setPhase_task, htask]
  refine ⟨_, rfl, ?_, ?_⟩
  · split <;> exact hown
  · split <;> exact haborted

theorem WellKept.trySend (h : WellKept s) (addr : Addr) : WellKept (s.trySend addr) := by
  unfold BmpActor.trySend
  split
  · exact ⟨h.task, h.stopped⟩
  · exact h

theorem Tracked.leave (h : Tracked s) (htask : s.tasks[id]? = some task)
    (hrunning : task.phase = .running) : Tracked (s.setPhase id .leaving) := by
  refine ⟨fun j task' htask' hlive => ?_, fun a j task' hlookup htask' hfinished => ?_⟩
  · rw [setPhase_task] at htask'
    obtain ⟨old, hold, rfl⟩ := map_eq_some_iff.mp htask'
    split at hlive
    · rename_i hj
      rw [hj, htask] at hold
      cases hold
      rw [if_pos hj, hj]
      exact h.live id task htask ⟨by rw [hrunning]; nofun, hlive.2⟩
    · rename_i hj
      rw [if_neg hj]
      exact h.live j old hold hlive
  · rw [setPhase_task] at htask'
    obtain ⟨old, hold, rfl⟩ := map_eq_some_iff.mp htask'
    split at hfinished
    · cases hfinished
    · exact h.told a j old hlookup hold hfinished

omit [DecidableEq Addr] in
theorem trySend_closed (s : BmpActor Addr) (addr a : Addr) :
    a ∈ (s.trySend addr).connectionClosed ↔ a ∈ s.connectionClosed ∨
      (a = addr ∧ s.stopped = false ∧ s.connectionClosed.length < closedChannelSize) := by
  unfold trySend
  split
  · rename_i hroom
    simp only [mem_append, mem_singleton, hroom, and_true]
  · rename_i hroom
    simp only [hroom, and_false, or_false]

/-- A task that is kept belongs to an actor that runs. -/
theorem WellKept.running (h : WellKept s) (hlookup : s.connectionTasks.lookup addr = some id) :
    s.stopped = false := by
  cases hstopped : s.stopped with
  | false => rfl
  | true =>
    rw [h.stopped hstopped] at hlookup
    cases hlookup

/-- A task that ends is told of, or not kept. -/
theorem tracked_finished_iff (hkept : WellKept s) (h : Tracked s) (htask : s.tasks[id]? = some task)
    {queue : List Addr} (hqueue : s.connectionClosed ⊆ queue) :
    Tracked { s.setPhase id .finished with connectionClosed := queue } ↔
      (s.connectionTasks.lookup task.remoteAddr = some id → task.remoteAddr ∈ queue) := by
  constructor
  · intro htracked hlookup
    exact htracked.told task.remoteAddr id { task with phase := .finished } hlookup
      (by rw [setPhase_task, htask]; simp) rfl
  · intro htold
    refine ⟨fun j task' htask' hlive => ?_, fun a j task' hlookup htask' hfinished => ?_⟩
    · rw [setPhase_task] at htask'
      obtain ⟨old, hold, rfl⟩ := map_eq_some_iff.mp htask'
      split at hlive
      · exact absurd rfl hlive.1
      · rename_i hj
        rw [if_neg hj]
        exact h.live j old hold hlive
    · rw [setPhase_task] at htask'
      obtain ⟨old, hold, rfl⟩ := map_eq_some_iff.mp htask'
      split at hfinished
      · rename_i hj
        subst hj
        -- the task itself is kept under its own address
        obtain ⟨kept, hkeptTask, rfl, -⟩ := hkept.task a j hlookup
        rw [htask] at hkeptTask
        cases hkeptTask
        exact htold hlookup
      · exact hqueue (h.told a j old hlookup hold hfinished)

theorem tracked_notify_iff (hkept : WellKept s) (h : Tracked s) (htask : s.tasks[id]? = some task) :
    Tracked ((s.setPhase id .finished).trySend task.remoteAddr) ↔
      (s.connectionTasks.lookup task.remoteAddr = some id →
        s.connectionClosed.length < closedChannelSize ∨ task.remoteAddr ∈ s.connectionClosed) := by
  have hsent := trySend_closed (s.setPhase id .finished) task.remoteAddr
  have hsame : (s.setPhase id .finished).trySend task.remoteAddr = { s.setPhase id .finished with
      connectionClosed :=
        ((s.setPhase id .finished).trySend task.remoteAddr).connectionClosed } := by
    unfold trySend
    split <;> rfl
  rw [hsame, tracked_finished_iff hkept h htask fun a ha => (hsent a).mpr (.inl ha), hsent]
  refine imp_congr_right fun hlookup => ?_
  rw [or_comm]
  exact or_congr_left ⟨fun hroom => hroom.2.2, fun hroom => ⟨rfl, hkept.running hlookup, hroom⟩⟩

theorem WellKept.closed (h : WellKept s) (addr : Addr) (rest : List Addr) :
    WellKept { s with connectionClosed := rest, connectionTasks := s.connectionTasks.erase addr } := by
  refine ⟨fun a id hkept => ?_, fun hstopped => ?_⟩
  · change (s.connectionTasks.erase addr).lookup a = some id at hkept
    rw [lookup_erase_ite] at hkept
    split at hkept
    · cases hkept
    · exact h.task a id hkept
  · show s.connectionTasks.erase addr = ∅
    rw [h.stopped hstopped]
    rfl

/-- A notification takes away the entry of a task that has finished, or none. -/
theorem tracked_closed_iff (hkept : WellKept s) (h : Tracked s) {rest : List Addr}
    (hclosed : s.connectionClosed = addr :: rest) :
    Tracked { s with connectionClosed := rest, connectionTasks := s.connectionTasks.erase addr } ↔
      ∀ id ∈ s.connectionTasks.lookup addr, ∀ task ∈ s.tasks[id]?, task.phase = .finished := by
  constructor
  · intro htracked id hid task htask
    by_contra hphase
    obtain ⟨task', htask', hown, haborted⟩ := hkept.task addr id hid
    rw [mem_def.mp htask] at htask'
    cases htask'
    have hlost := htracked.live id task htask ⟨hphase, haborted⟩
    change (s.connectionTasks.erase addr).lookup task.remoteAddr = some id at hlost
    rw [lookup_erase_ite, if_pos hown] at hlost
    cases hlost
  · intro hproper
    refine ⟨fun id task htask hlive => ?_, fun a id task hlookup htask hfinished => ?_⟩
    · show (s.connectionTasks.erase addr).lookup task.remoteAddr = some id
      have hregistered := h.live id task htask hlive
      rw [lookup_erase_ite, if_neg]
      · exact hregistered
      · intro ha
        rw [ha] at hregistered
        exact hlive.1 (hproper id hregistered task htask)
    · change (s.connectionTasks.erase addr).lookup a = some id at hlookup
      rw [lookup_erase_ite] at hlookup
      split at hlookup
      · cases hlookup
      · rename_i ha
        have htold := h.told a id task hlookup htask hfinished
        rw [hclosed] at htold
        exact (mem_cons.mp htold).resolve_left ha

omit [DecidableEq Addr] in
theorem shutdown_task (entries : List ((_ : Addr) × Nat)) (tasks : List (ConnectionTask Addr))
    (id : Nat) {task' : ConnectionTask Addr}
    (h : (entries.foldl (fun tasks entry => tasks.modify entry.2 ConnectionTask.abort) tasks)[id]? =
      some task') (hlive : task'.Live) :
    tasks[id]? = some task' ∧ ∀ entry ∈ entries, entry.2 ≠ id := by
  induction entries generalizing tasks with
  | nil => exact ⟨h, nofun⟩
  | cons entry entries ih =>
    obtain ⟨hmodified, hothers⟩ := ih _ h
    rw [getElem?_modify] at hmodified
    obtain ⟨old, hold, rfl⟩ := map_eq_some_iff.mp hmodified
    by_cases hid : entry.2 = id
    · rw [if_pos hid] at hlive
      exact absurd hlive old.not_live_abort
    · rw [if_neg hid]
      refine ⟨hold, ?_⟩
      rintro entry' (_ | ⟨_, hmem⟩)
      · exact hid
      · exact hothers entry' hmem

/-- No live task is left when all that are kept are aborted. -/
theorem Tracked.not_live_shutdown (h : Tracked s) (htask : s.shutdown.tasks[id]? = some task) :
    ¬ task.Live := by
  intro hlive
  obtain ⟨hold, hothers⟩ := shutdown_task _ _ id htask hlive
  have hregistered := h.live id task hold hlive
  exact hothers _ (AList.mem_lookup_iff.mp hregistered) rfl

theorem WellKept.shutdown (s : BmpActor Addr) : WellKept s.shutdown :=
  ⟨nofun, fun _ => rfl⟩

theorem Tracked.shutdown (h : Tracked s) : Tracked s.shutdown :=
  ⟨fun _ _ htask hlive => absurd hlive (h.not_live_shutdown htask), nofun⟩

/-! ## What the actor answers -/

/-- With the notifications go the entries of their addresses. -/
theorem drained_eq (hrun : s.stopped = false) :
    s.drained = some { s with
      connectionClosed := []
      connectionTasks := s.connectionClosed.foldl (fun m addr => m.erase addr) s.connectionTasks } := by
  unfold drained
  generalize hqueue : s.connectionClosed = queue
  induction queue generalizing s with
  | nil =>
    rw [map_nil, Stepwise.run, foldl_nil, ← hqueue]
  | cons addr queue ih =>
    have hstep : s.step .closed = some { s with
        connectionClosed := queue, connectionTasks := s.connectionTasks.erase addr } := by
      rw [step, hrun, hqueue]
      rfl
    rw [map_cons, Stepwise.run, hstep, bind_some, foldl_cons]
    exact @ih { s with
      connectionClosed := queue, connectionTasks := s.connectionTasks.erase addr } hrun rfl

theorem keepsTrack_iff (hkept : WellKept s) : s.KeepsTrack ↔ Tracked s := by
  constructor
  · intro h
    refine ⟨h.registered, fun addr id task hlookup htask hfinished => ?_⟩
    have hrun := hkept.running hlookup
    obtain ⟨s', hdrained, hclean⟩ := h.cleansUp hrun
    rw [drained_eq hrun] at hdrained
    cases hdrained
    by_contra hmem
    refine hclean addr id task ?_ htask hfinished
    show (s.connectionClosed.foldl _ s.connectionTasks).lookup addr = some id
    rw [lookup_foldl_erase, if_neg hmem]
    exact hlookup
  · intro h
    refine ⟨h.live, fun task htask hlive => ?_, fun id task task' htask htask' hlive => ?_,
      fun task htask => ?_, fun hrun => ⟨_, drained_eq hrun, fun addr id task hlookup htask hfinished => ?_⟩⟩
    · obtain ⟨id, hid⟩ := mem_iff_getElem?.mp htask
      have hregistered := h.live id task hid hlive
      exact AList.lookup_isSome.mp (by rw [hregistered]; rfl)
    · have hregistered := (h.abortPeer hkept task.remoteAddr).live id task' htask' hlive
      have hown : task'.remoteAddr = task.remoteAddr := by
        rw [abortPeer_task, htask] at htask'
        cases htask'
        split <;> rfl
      rw [abortPeer_lookup, if_pos hown] at hregistered
      cases hregistered
    · obtain ⟨id, hid⟩ := mem_iff_getElem?.mp htask
      exact h.not_live_shutdown hid
    · change (s.connectionClosed.foldl _ s.connectionTasks).lookup addr = some id at hlookup
      rw [lookup_foldl_erase] at hlookup
      split at hlookup
      · cases hlookup
      · rename_i hmem
        exact hmem (h.told addr id task hlookup htask hfinished)

/-! ## Runs -/

/-- What each action does where it is possible. -/
inductive Steps (s : BmpActor Addr) : TaskAction Addr → BmpActor Addr → Prop
  | accept (hrun : s.stopped = false) (addr : Addr) : Steps s (.accept addr) (s.accept addr)
  | leave {id : Nat} {task : ConnectionTask Addr} (htask : s.tasks[id]? = some task)
      (hrunning : task.phase = .running) : Steps s (.leave id) (s.setPhase id .leaving)
  | notify {id : Nat} {task : ConnectionTask Addr} (htask : s.tasks[id]? = some task) :
      Steps s (.notify id) ((s.setPhase id .finished).trySend task.remoteAddr)
  | panic {id : Nat} {task : ConnectionTask Addr} (htask : s.tasks[id]? = some task) :
      Steps s (.panic id) (s.setPhase id .finished)
  | closed {addr : Addr} {rest : List Addr} (hclosed : s.connectionClosed = addr :: rest) :
      Steps s .closed
        { s with connectionClosed := rest, connectionTasks := s.connectionTasks.erase addr }
  | disconnectPeer (addr : Addr) : Steps s (.disconnectPeer addr) (s.abortPeer addr)
  | shutdown : Steps s .shutdown s.shutdown

omit [DecidableEq Addr] in
theorem inPhase_eq_some {phase : TaskPhase} {f : ConnectionTask Addr → BmpActor Addr}
    (h : s.inPhase id phase f = some s') :
    ∃ task, s.tasks[id]? = some task ∧ task.phase = phase ∧ f task = s' := by
  unfold inPhase at h
  split at h
  · cases h
  · obtain ⟨hphase, ⟨⟩⟩ := ite_none_right_eq_some.mp h
    exact ⟨_, ‹_›, hphase, rfl⟩

variable {action : TaskAction Addr}

theorem steps_of_step (hstep : s.step action = some s') : Steps s action s' := by
  cases action with
  | accept addr =>
    obtain ⟨hrun, ⟨⟩⟩ := ite_none_left_eq_some.mp hstep
    exact .accept (Bool.eq_false_iff.mpr hrun) addr
  | leave id =>
    obtain ⟨task, htask, hrunning, ⟨⟩⟩ := inPhase_eq_some hstep
    exact .leave htask hrunning
  | notify id =>
    obtain ⟨task, htask, -, ⟨⟩⟩ := inPhase_eq_some hstep
    exact .notify htask
  | panic id =>
    obtain ⟨task, htask, -, ⟨⟩⟩ := inPhase_eq_some hstep
    exact .panic htask
  | closed =>
    obtain ⟨-, hstep⟩ := ite_none_left_eq_some.mp hstep
    split at hstep
    · cases hstep
    · cases hstep
      exact .closed ‹_›
  | disconnectPeer addr =>
    obtain ⟨-, ⟨⟩⟩ := ite_none_left_eq_some.mp hstep
    exact .disconnectPeer addr
  | shutdown =>
    obtain ⟨-, ⟨⟩⟩ := ite_none_left_eq_some.mp hstep
    exact .shutdown

theorem WellKept.step (h : WellKept s) (hstep : s.step action = some s') : WellKept s' := by
  cases steps_of_step hstep with
  | accept hrun addr => exact h.accept hrun addr
  | leave => exact h.setPhase _ .leaving
  | notify => exact (h.setPhase _ .finished).trySend _
  | panic => exact h.setPhase _ .finished
  | closed => exact h.closed _ _
  | disconnectPeer addr => exact h.abortPeer addr
  | shutdown => exact WellKept.shutdown s

/-- Where all tasks are tracked, a step keeps it so exactly if it is proper. -/
theorem tracked_step_iff (hkept : WellKept s) (h : Tracked s) (hstep : s.step action = some s') :
    Tracked s' ↔ s.Proper action := by
  cases steps_of_step hstep with
  | accept _ addr => exact iff_of_true (h.accept hkept addr) trivial
  | leave htask hrunning => exact iff_of_true (h.leave htask hrunning) trivial
  | notify htask =>
    rw [tracked_notify_iff hkept h htask, Proper, htask]
    simp only [mem_def, Option.some.injEq, forall_eq']
  | panic htask =>
    have hiff := tracked_finished_iff hkept h htask (List.Subset.refl _)
    rw [Proper, htask]
    simp only [mem_def, Option.some.injEq, forall_eq']
    exact hiff
  | closed hclosed =>
    rw [tracked_closed_iff hkept h hclosed, Proper, hclosed, head?_cons]
    simp only [mem_def, Option.some.injEq, forall_eq']
  | disconnectPeer addr => exact iff_of_true (h.abortPeer hkept addr) trivial
  | shutdown => exact iff_of_true h.shutdown trivial

/-- The actor keeps track of its connections along exactly those runs whose steps are all
proper. -/
theorem connections_tracked_iff (actions : List (TaskAction Addr)) :
    Along step (fun _ _ s' => s'.KeepsTrack) new actions ↔
      Along step (fun s action _ => s.Proper action) new actions := by
  have hnew : WellKept (new : BmpActor Addr) ∧ Tracked (new : BmpActor Addr) :=
    ⟨⟨nofun, fun _ => rfl⟩, ⟨fun id task htask _ => by simp [new] at htask, nofun⟩⟩
  refine along_iff (fun s => WellKept s ∧ Tracked s) ?_ ?_ hnew actions
  · intro s action s' h hstep
    rw [keepsTrack_iff (h.1.step hstep)]
    exact tracked_step_iff h.1 h.2 hstep
  · intro s action s' h hstep hproper
    exact ⟨h.1.step hstep, (tracked_step_iff h.1 h.2 hstep).mpr hproper⟩

/-- A connection ends while the next one from its address is accepted. -/
def reconnected : List (TaskAction Unit) :=
  [.accept (), .leave 0, .accept (), .notify 0, .closed]

/-- The notification of the first task takes away the entry of the second. -/
theorem reconnected_untracked :
    ¬ Along step (fun _ _ s' => s'.KeepsTrack) (new : BmpActor Unit) reconnected := by
  intro h
  obtain ⟨-, h⟩ := h _ rfl
  obtain ⟨-, h⟩ := h _ rfl
  obtain ⟨-, h⟩ := h _ rfl
  obtain ⟨-, h⟩ := h _ rfl
  obtain ⟨htrack, -⟩ := h _ rfl
  have hregistered := htrack.registered 1 ⟨(), .running, false⟩ rfl ⟨nofun, rfl⟩
  cases hregistered

end BmpActor

end NetCalyx.Bmp
