import NetCalyx.Bmp.ConnectionTasks
import NetCalyx.Channels.Broadcast
import Mathlib.Order.Monotone.Basic

/-!
# The subscribers of the BMP actor

The actor keeps the map of its subscribers and changes it by two commands. Each connection task has
a map of its own, at first the one that the actor had when it accepted the connection, and takes
the changes from a broadcast channel that holds the last sixteen of them. It does so only between
messages: while a message is sent to the subscribers, one after the other, changes queue up, and
those that the channel no longer holds are missed.

Each change is a whole map. So a task that has taken all there is has the map of the actor, however
much it has missed, and the maps it has had on the way are in the order of the commands
(`subscribers_converge`).
-/

namespace NetCalyx.Bmp
open Collections Channels Stepwise List

abbrev SubscriberId := BitVec 32

/-- The senders of each subscriber. -/
abbrev Subscribers (Sender : Type) := Map SubscriberId (List Sender)

/-- What a connection task works with. -/
structure SubscribedTask (Sender : Type) where
  currentSubscribers : Subscribers Sender
  /-- The place of the receiver in the channel, until it is dropped. -/
  subscribersRx : Option Nat
  /-- The subscribers that still get the message in hand. -/
  sending : Option (List (List Sender))

namespace SubscribedTask

variable {Sender : Type}

/-- A change is taken from the channel. To have missed some changes nothing is done. -/
def update (subscribersTx : Broadcast (Subscribers Sender)) (task : SubscribedTask Sender) :
    Option (SubscribedTask Sender) :=
  match task.subscribersRx, task.sending with
  | some next, none =>
    match subscribersTx.recv next with
    | (next, .value new) => some { task with subscribersRx := some next, currentSubscribers := new }
    | (next, .lagged _) => some { task with subscribersRx := some next }
    | (_, .empty) => none
  | _, _ => none

/-- A message has come in. -/
def message (task : SubscribedTask Sender) : Option (SubscribedTask Sender) :=
  match task.subscribersRx, task.sending with
  | some _, none =>
    some { task with sending := some (task.currentSubscribers.entries.map (·.2)) }
  | _, _ => none

/-- The message goes to one of the senders of the next subscriber. To choose among no senders is a
remainder by zero, and the task panics. -/
def sendToSubscribers (task : SubscribedTask Sender) : Option (SubscribedTask Sender) :=
  match task.subscribersRx, task.sending with
  | some _, some [] => some { task with sending := none }
  | some _, some ([] :: _) => some { task with subscribersRx := none }
  | some _, some (_ :: left) => some { task with sending := some left }
  | _, _ => none

end SubscribedTask

structure SubscribedActor (Addr Sender : Type) where
  actor : BmpActor Addr
  nextSubscriberId : SubscriberId
  subscribers : Subscribers Sender
  subscribersTx : Broadcast (Subscribers Sender)
  /-- By the same numbers as the tasks of the actor. -/
  tasks : List (SubscribedTask Sender)

inductive SubscriberAction (Addr Sender : Type) where
  /-- Connections come and go. -/
  | connection (action : TaskAction Addr)
  | subscribe (senders : List Sender)
  | unsubscribe (subscriberId : SubscriberId)
  | update (task : Nat)
  | message (task : Nat)
  | send (task : Nat)

namespace SubscribedActor

variable {Addr Sender : Type} [DecidableEq Addr]

def new : SubscribedActor Addr Sender := ⟨.new, 0, ∅, ⟨16, []⟩, []⟩

variable (s : SubscribedActor Addr Sender)

/-- Without receivers the channel does not take a value. -/
def broadcast : Broadcast (Subscribers Sender) :=
  if s.tasks.any (·.subscribersRx.isSome) then s.subscribersTx.send s.subscribers
  else s.subscribersTx

/-- The actor behind the command, and the id of the new subscriber. -/
def handleSubscribe (senders : List Sender) : SubscribedActor Addr Sender × SubscriberId :=
  let subscriberId := s.nextSubscriberId
  let s := { s with
    nextSubscriberId := subscriberId + 1
    subscribers := s.subscribers.insert subscriberId senders }
  ({ s with subscribersTx := s.broadcast }, subscriberId)

/-- The actor behind the command, and the id if there was such a subscriber. -/
def handleUnsubscribe (subscriberId : SubscriberId) :
    SubscribedActor Addr Sender × Option SubscriberId :=
  let removed := s.subscribers.lookup subscriberId
  let s := { s with subscribers := s.subscribers.erase subscriberId }
  ({ s with subscribersTx := s.broadcast }, removed.map fun _ => subscriberId)

/-- A task that has finished drops its receiver. -/
def dropFinished (actor : BmpActor Addr) (id : Nat) (task : SubscribedTask Sender) :
    SubscribedTask Sender :=
  if (actor.tasks[id]?).any (·.phase = .finished) then { task with subscribersRx := none } else task

/-- The task of an accepted connection starts with the map of the actor. -/
def spawned : TaskAction Addr → List (SubscribedTask Sender)
  | .accept _ => [⟨s.subscribers, some s.subscribersTx.subscribe, none⟩]
  | _ => []

/-- A task leaves its loop between messages, and not after a panic, which ends it. -/
def mayTake : TaskAction Addr → Bool
  | .leave id => (s.tasks[id]?).any fun task => task.subscribersRx.isSome && task.sending.isNone
  | .panic id => (s.tasks[id]?).any fun task => task.subscribersRx.isNone
  | _ => true

/-- A step of a task that is in its loop. -/
def inTask (id : Nat) (f : SubscribedTask Sender → Option (SubscribedTask Sender)) :
    Option (SubscribedActor Addr Sender) :=
  if (s.actor.tasks[id]?).any (·.phase = .running) then
    (s.tasks[id]?.bind f).map fun task => { s with tasks := s.tasks.set id task }
  else none

def step (s : SubscribedActor Addr Sender) :
    SubscriberAction Addr Sender → Option (SubscribedActor Addr Sender)
  | .connection action =>
    if s.mayTake action then
      (s.actor.step action).map fun actor =>
        { s with
          actor := actor
          tasks := s.tasks.mapIdx (dropFinished actor) ++ s.spawned action }
    else none
  | .subscribe senders =>
    if s.actor.stopped then none else some (s.handleSubscribe senders).1
  | .unsubscribe subscriberId =>
    if s.actor.stopped then none else some (s.handleUnsubscribe subscriberId).1
  | .update id => s.inTask id (·.update s.subscribersTx)
  | .message id => s.inTask id SubscribedTask.message
  | .send id => s.inTask id SubscribedTask.sendToSubscribers

/-! ## What the commands mean -/

def isCommand : SubscriberAction Addr Sender → Bool
  | .subscribe _ | .unsubscribe _ => true
  | _ => false

variable (actions : List (SubscriberAction Addr Sender))

/-- The commands of a run. -/
def commands : List (SubscriberAction Addr Sender) :=
  actions.filter isCommand

/-- The next id and the subscribers behind a command. -/
def command (registered : SubscriberId × Subscribers Sender) :
    SubscriberAction Addr Sender → SubscriberId × Subscribers Sender
  | .subscribe senders => (registered.1 + 1, registered.2.insert registered.1 senders)
  | .unsubscribe subscriberId => (registered.1, registered.2.erase subscriberId)
  | _ => registered

def registeredAfter : SubscriberId × Subscribers Sender :=
  (commands actions).foldl command (0, ∅)

/-- The subscribers behind the first commands of a run. -/
def subscribersAfter (count : Nat) : Subscribers Sender :=
  (((commands actions).take count).foldl command (0, ∅)).2

/-- The receiver of a task gets nothing more. -/
def Drained (task : SubscribedTask Sender) : Prop :=
  ∃ next, task.subscribersRx = some next ∧ (s.subscribersTx.recv next).2 = .empty

/-! ## Tasks -/

variable {version : Nat → Subscribers Sender} {count : Nat}

/-- A task uses the map behind the command `k`, and its receiver has those behind later ones. -/
structure Uses (version : Nat → Subscribers Sender) (count : Nat)
    (b : Broadcast (Subscribers Sender)) (task : SubscribedTask Sender) (k : Nat) : Prop where
  map : task.currentSubscribers = version k
  le : k ≤ count
  receiver : ∀ next, task.subscribersRx = some next → Follows version count b next k

namespace Uses

variable {b : Broadcast (Subscribers Sender)} {task task' : SubscribedTask Sender} {k : Nat}
variable (h : Uses version count b task k)
include h

theorem update (hsize : 0 < b.size) (hupdate : task.update b = some task') :
    ∃ k', k ≤ k' ∧ Uses version count b task' k' := by
  unfold SubscribedTask.update at hupdate
  split at hupdate
  · rename_i next hrx _
    have hfollows := h.receiver next hrx
    by_cases hlagged : next < b.oldest
    · rw [Broadcast.recv_lagged hlagged] at hupdate
      cases hupdate
      refine ⟨k, le_refl _, h.map, h.le, ?_⟩
      rintro _ ⟨⟩
      exact hfollows.recv_lagged hsize hlagged
    · cases ha : b.sent[next]? with
      | none =>
        rw [Broadcast.recv_empty hlagged ha] at hupdate
        cases hupdate
      | some new =>
        rw [Broadcast.recv_value hlagged ha] at hupdate
        cases hupdate
        obtain ⟨k', hle, hnew, hfollows'⟩ := hfollows.recv_value ha
        refine ⟨k', hle, hnew, hfollows'.le_count, ?_⟩
        rintro _ ⟨⟩
        exact hfollows'
  · cases hupdate

theorem message (hmessage : task.message = some task') : Uses version count b task' k := by
  unfold SubscribedTask.message at hmessage
  split at hmessage
  · cases hmessage
    exact ⟨h.map, h.le, h.receiver⟩
  · cases hmessage

theorem dropped : Uses version count b { task with subscribersRx := none } k :=
  ⟨h.map, h.le, nofun⟩

theorem sendToSubscribers (hsend : task.sendToSubscribers = some task') :
    Uses version count b task' k := by
  unfold SubscribedTask.sendToSubscribers at hsend
  split at hsend
  · cases hsend
    exact ⟨h.map, h.le, h.receiver⟩
  · cases hsend
    exact h.dropped
  · cases hsend
    exact ⟨h.map, h.le, h.receiver⟩
  · cases hsend

end Uses

/-! ## Steps -/

variable {s s' : SubscribedActor Addr Sender}

/-- The actor has the map behind all commands so far. -/
structure Registered (version : Nat → Subscribers Sender) (count : Nat)
    (s : SubscribedActor Addr Sender) : Prop where
  subscribers : s.subscribers = version count
  sent_le : s.subscribersTx.sent.length ≤ count
  size : 0 < s.subscribersTx.size

/-- A step that has nothing to do with the map of the actor. -/
def SameMap (s s' : SubscribedActor Addr Sender) : Prop :=
  (s'.nextSubscriberId, s'.subscribers, s'.subscribersTx) =
    (s.nextSubscriberId, s.subscribers, s.subscribersTx)

/-- The task of a number, if there is one yet, uses the map behind the command `k`. -/
structure TaskUses (version : Nat → Subscribers Sender) (count : Nat)
    (s : SubscribedActor Addr Sender) (id k : Nat) : Prop where
  le : k ≤ count
  uses : ∀ task, s.tasks[id]? = some task → Uses version count s.subscribersTx task k

omit [DecidableEq Addr] in
theorem taskUses_inTask {id id' k : Nat}
    {f : SubscribedTask Sender → Option (SubscribedTask Sender)} (h : TaskUses version count s id k)
    (hf : ∀ task task', Uses version count s.subscribersTx task k → f task = some task' →
      ∃ k', k ≤ k' ∧ Uses version count s.subscribersTx task' k')
    (hstep : s.inTask id' f = some s') :
    SameMap s s' ∧ ∃ k', k ≤ k' ∧ TaskUses version count s' id k' := by
  unfold inTask at hstep
  split at hstep
  · obtain ⟨task', htask', rfl⟩ := Option.map_eq_some_iff.mp hstep
    obtain ⟨task, htask, hf'⟩ := Option.bind_eq_some_iff.mp htask'
    refine ⟨rfl, ?_⟩
    by_cases hid : id' = id
    · subst hid
      obtain ⟨k', hle, huses⟩ := hf task task' (h.uses task htask) hf'
      refine ⟨k', hle, huses.le, fun other hother => ?_⟩
      rw [List.getElem?_set_self (List.getElem?_eq_some_iff.mp htask).1] at hother
      cases hother
      exact huses
    · refine ⟨k, le_refl _, h.le, fun other hother => ?_⟩
      rw [getElem?_set_ne hid] at hother
      exact h.uses other hother
  · cases hstep

theorem taskUses_connection {action : TaskAction Addr} {id k : Nat} (hreg : Registered version count s)
    (h : TaskUses version count s id k) (hstep : s.step (.connection action) = some s') :
    SameMap s s' ∧ ∃ k', k ≤ k' ∧ TaskUses version count s' id k' := by
  simp only [step] at hstep
  split at hstep
  · obtain ⟨actor, -, rfl⟩ := Option.map_eq_some_iff.mp hstep
    refine ⟨rfl, ?_⟩
    by_cases hid : id < s.tasks.length
    · -- a task that was there before
      refine ⟨k, le_refl _, h.le, fun task htask => ?_⟩
      rw [getElem?_append_left (by rwa [length_mapIdx]), getElem?_mapIdx] at htask
      obtain ⟨old, hold, rfl⟩ := Option.map_eq_some_iff.mp htask
      unfold dropFinished
      split
      · exact (h.uses old hold).dropped
      · exact h.uses old hold
    · -- the task of a connection that is accepted
      refine ⟨count, h.le, le_refl _, fun task htask => ?_⟩
      rw [getElem?_append_right (by rw [length_mapIdx]; omega)] at htask
      have hmem := mem_of_getElem? htask
      cases action with
      | accept =>
        obtain rfl := mem_singleton.mp hmem
        refine ⟨hreg.subscribers, le_refl _, ?_⟩
        rintro _ ⟨⟩
        exact .subscribe hreg.sent_le
      | _ => cases hmem
  · cases hstep

omit [DecidableEq Addr] in
/-- A change that is broadcast to all receivers. -/
theorem taskUses_broadcast {id k : Nat} (h : TaskUses version count s id k)
    (hreg : Registered version count s) {registered : SubscriberId × Subscribers Sender}
    (hversion : registered.2 = version (count + 1))
    (hs' : s' = { s with nextSubscriberId := registered.1, subscribers := registered.2 }) :
    Registered version (count + 1) { s' with subscribersTx := s'.broadcast } ∧
      TaskUses version (count + 1) { s' with subscribersTx := s'.broadcast } id k := by
  subst hs'
  unfold broadcast
  split
  · rename_i hany
    dsimp only
    rw [hversion]
    refine ⟨⟨rfl, ?_, hreg.size⟩, h.le.trans (Nat.le_succ _), fun task htask => ?_⟩
    · exact length_append.trans_le (Nat.succ_le_succ hreg.sent_le)
    · obtain ⟨hmap, hle, hreceiver⟩ := h.uses task htask
      exact ⟨hmap, hle.trans (Nat.le_succ _), fun next hnext => (hreceiver next hnext).send⟩
  · rename_i hany
    refine ⟨⟨hversion, hreg.sent_le.trans (Nat.le_succ _), hreg.size⟩, h.le.trans (Nat.le_succ _),
      fun task htask => ?_⟩
    obtain ⟨hmap, hle, -⟩ := h.uses task htask
    refine ⟨hmap, hle.trans (Nat.le_succ _), fun next hnext => ?_⟩
    -- this task would be a receiver
    exact absurd (any_eq_true.mpr ⟨task, mem_of_getElem? htask, by rw [hnext]; rfl⟩) hany

/-! ## Runs -/

section Runs

variable {actions done rest : List (SubscriberAction Addr Sender)} {a : SubscriberAction Addr Sender}
  {id k : Nat}

variable (done rest)

omit [DecidableEq Addr] in
theorem commands_append : commands (done ++ rest) = commands done ++ commands rest :=
  filter_append ..

omit [DecidableEq Addr] in
theorem subscribersAfter_append :
    subscribersAfter (done ++ rest) (commands done).length = (registeredAfter done).2 := by
  rw [subscribersAfter, commands_append, take_left' rfl, registeredAfter]

variable {done rest}

/-- The state behind the actions `done` of a run. -/
structure Reached (actions done : List (SubscriberAction Addr Sender))
    (s : SubscribedActor Addr Sender) (id k : Nat) : Prop where
  registered : (s.nextSubscriberId, s.subscribers) = registeredAfter done
  actor : Registered (subscribersAfter actions) (commands done).length s
  task : TaskUses (subscribersAfter actions) (commands done).length s id k

omit [DecidableEq Addr] in
theorem Reached.other (h : Reached actions done s id k) (ha : commands [a] = [])
    (hstep : SameMap s s' ∧
      ∃ k', k ≤ k' ∧ TaskUses (subscribersAfter actions) (commands done).length s' id k') :
    ∃ k', k ≤ k' ∧ Reached actions (done ++ [a]) s' id k' := by
  obtain ⟨hsame, k', hle, htask⟩ := hstep
  simp only [SameMap, Prod.mk.injEq] at hsame
  obtain ⟨hid, hsubscribers, htx⟩ := hsame
  have hcommands : commands (done ++ [a]) = commands done := by
    rw [commands_append, ha, append_nil]
  obtain ⟨hmap, hsent, hsize⟩ := h.actor
  refine ⟨k', hle, ?_, hcommands ▸ ⟨hsubscribers.trans hmap, htx ▸ hsent, htx ▸ hsize⟩,
    hcommands ▸ htask⟩
  rw [hid, hsubscribers, h.registered, registeredAfter, registeredAfter, hcommands]

omit [DecidableEq Addr] in
theorem Reached.command (h : Reached actions done s id k) (ha : commands [a] = [a])
    (hactions : done ++ [a] ++ rest = actions) {changed : SubscribedActor Addr Sender}
    (hchanged : changed =
      { s with
        nextSubscriberId := (command (s.nextSubscriberId, s.subscribers) a).1
        subscribers := (command (s.nextSubscriberId, s.subscribers) a).2 }) :
    Reached actions (done ++ [a]) { changed with subscribersTx := changed.broadcast } id k := by
  have hlength : (commands (done ++ [a])).length = (commands done).length + 1 := by
    rw [commands_append, ha, length_append, length_singleton]
  have hregistered : registeredAfter (done ++ [a]) =
      SubscribedActor.command (s.nextSubscriberId, s.subscribers) a := by
    rw [registeredAfter, commands_append, ha, foldl_append, h.registered]
    rfl
  have hversion : (registeredAfter (done ++ [a])).2 =
      subscribersAfter actions ((commands done).length + 1) := by
    rw [← hactions, ← hlength, subscribersAfter_append]
  rw [← hregistered] at hchanged
  obtain ⟨hactor, htask⟩ := taskUses_broadcast h.task h.actor hversion hchanged
  refine ⟨?_, hlength ▸ hactor, hlength ▸ htask⟩
  rw [hchanged]

theorem Reached.step (h : Reached actions done s id k) (hactions : done ++ [a] ++ rest = actions)
    (hstep : s.step a = some s') : ∃ k', k ≤ k' ∧ Reached actions (done ++ [a]) s' id k' := by
  cases a with
  | connection action => exact h.other rfl (taskUses_connection h.actor h.task hstep)
  | subscribe senders | unsubscribe subscriberId =>
    simp only [SubscribedActor.step] at hstep
    split at hstep
    · cases hstep
    · cases hstep
      exact ⟨k, le_refl _, h.command rfl hactions rfl⟩
  | update =>
    refine h.other rfl (taskUses_inTask h.task (fun task task' huses hupdate => ?_) hstep)
    exact huses.update h.actor.size hupdate
  | message =>
    refine h.other rfl (taskUses_inTask h.task (fun task task' huses hmessage => ?_) hstep)
    exact ⟨k, le_refl _, huses.message hmessage⟩
  | send =>
    refine h.other rfl (taskUses_inTask h.task (fun task task' huses hsend => ?_) hstep)
    exact ⟨k, le_refl _, huses.sendToSubscribers hsend⟩

theorem Reached.run (h : Reached actions done s id k) (hactions : done ++ rest = actions) :
    ∃ f : Nat → Nat, f 0 = k ∧ Monotone f ∧ ∀ i t,
      run SubscribedActor.step s (rest.take i) = some t →
        Reached actions (done ++ rest.take i) t id (f i) := by
  induction rest generalizing s done k with
  | nil =>
    refine ⟨fun _ => k, rfl, monotone_const, fun i t ht => ?_⟩
    rw [take_nil] at ht ⊢
    cases ht
    rwa [append_nil]
  | cons a rest ih =>
    have hstart : Reached actions (done ++ (a :: rest).take 0) s id k := by
      rwa [take_zero, append_nil]
    cases hnext : s.step a with
    | none =>
      refine ⟨fun _ => k, rfl, monotone_const, fun i t ht => ?_⟩
      cases i with
      | zero =>
        cases ht
        exact hstart
      | succ i =>
        rw [take_succ_cons, Stepwise.run, hnext] at ht
        cases ht
    | some s' =>
      have hactions' : done ++ [a] ++ rest = actions := by rw [← hactions]; simp
      obtain ⟨k', hle, hreached⟩ := h.step hactions' hnext
      obtain ⟨f, hf, hmono, hrun⟩ := ih hreached hactions'
      refine ⟨fun i => i.casesOn k f, rfl, monotone_nat_of_le_succ fun i => ?_, fun i t ht => ?_⟩
      · cases i with
        | zero => exact hle.trans hf.ge
        | succ i => exact hmono (Nat.le_succ i)
      · cases i with
        | zero =>
          cases ht
          exact hstart
        | succ i =>
          rw [take_succ_cons, Stepwise.run, hnext] at ht
          rw [take_succ_cons, append_cons]
          exact hrun i t ht

omit [DecidableEq Addr] in
theorem reached_new (actions : List (SubscriberAction Addr Sender)) (id : Nat) :
    Reached actions [] new id 0 :=
  ⟨rfl, ⟨rfl, le_refl _, Nat.succ_pos _⟩, le_refl _, nofun⟩

/-- A task in its loop that only takes changes has taken all of them at some time. -/
theorem drains {task : SubscribedTask Sender} {next : Nat}
    (hrunning : (s.actor.tasks[id]?).any (·.phase = .running) = true)
    (htask : s.tasks[id]? = some task) (hrx : task.subscribersRx = some next)
    (hsending : task.sending = none) :
    ∃ n t task', run step s (List.replicate n (.update id)) = some t ∧
      t.tasks[id]? = some task' ∧ t.Drained task' := by
  induction hleft : s.subscribersTx.sent.length - next using Nat.strong_induction_on
    generalizing s task next with
  | _ left ih =>
    -- one more change, after which there is less to take
    have hmore : ∀ task' next', task.update s.subscribersTx = some task' → next < next' →
        next < s.subscribersTx.sent.length → task'.subscribersRx = some next' →
        task'.sending = none → ∃ n t task', run step s (List.replicate n (.update id)) = some t ∧
          t.tasks[id]? = some task' ∧ t.Drained task' := by
      intro task' next' hupdate hnext hlt hrx' hsending'
      have hstep : s.step (.update id) = some { s with tasks := s.tasks.set id task' } := by
        rw [step, inTask, if_pos hrunning, htask, Option.bind_some, hupdate]
        rfl
      obtain ⟨n, t, hrun⟩ := ih (s.subscribersTx.sent.length - next') (by omega)
        (s := { s with tasks := s.tasks.set id task' }) hrunning
        (List.getElem?_set_self (List.getElem?_eq_some_iff.mp htask).1) hrx' hsending' rfl
      refine ⟨n + 1, t, ?_⟩
      rw [replicate_succ, run, hstep]
      exact hrun
    by_cases hlagged : next < s.subscribersTx.oldest
    · refine hmore { task with subscribersRx := some s.subscribersTx.oldest } _ ?_ hlagged
        (hlagged.trans_le (Nat.sub_le _ _)) rfl hsending
      simp only [SubscribedTask.update, hrx, hsending, Broadcast.recv_lagged hlagged]
    · cases ha : s.subscribersTx.sent[next]? with
      | none => exact ⟨0, s, task, rfl, htask, next, hrx, by rw [Broadcast.recv_empty hlagged ha]⟩
      | some changed =>
        refine hmore { task with subscribersRx := some (next + 1), currentSubscribers := changed } _
          ?_ (Nat.lt_succ_self _) (List.getElem?_eq_some_iff.mp ha).1 rfl hsending
        simp only [SubscribedTask.update, hrx, hsending, Broadcast.recv_value hlagged ha]

/-- What is asked of the task with the number `id` in every run. -/
structure Converges (actions : List (SubscriberAction Addr Sender)) (id : Nat) : Prop where
  /-- A task that has drained its receiver has the map of the actor, which is the one behind all
  commands. -/
  drained : ∀ s task, run step new actions = some s → s.tasks[id]? = some task →
    s.Drained task → task.currentSubscribers = s.subscribers ∧
      s.subscribers = subscribersAfter actions (commands actions).length
  /-- A task that waits in its loop can drain its receiver. -/
  drains : ∀ s task, run step new actions = some s → s.tasks[id]? = some task →
    (s.actor.tasks[id]?).any (·.phase = .running) = true → task.subscribersRx.isSome = true →
    task.sending = none → ∃ n t task', run step s (List.replicate n (.update id)) = some t ∧
      t.tasks[id]? = some task' ∧ t.Drained task'
  /-- After `i` actions it uses the map behind the first `f i` commands. -/
  ordered : ∃ f : Nat → Nat, Monotone f ∧ ∀ i s task, run step new (actions.take i) = some s →
    s.tasks[id]? = some task → f i ≤ (commands (actions.take i)).length ∧
      task.currentSubscribers = subscribersAfter actions (f i)

theorem subscribers_converge (actions : List (SubscriberAction Addr Sender)) (id : Nat) :
    Converges actions id := by
  obtain ⟨f, -, hmono, hreached⟩ := (reached_new actions id).run (nil_append actions)
  refine ⟨fun s task hrun htask hdrained => ?_, fun s task _ htask hrunning hrx hsending => ?_,
    f, hmono, fun i s task hrun htask => ?_⟩
  · have h := hreached actions.length s (by rwa [take_length])
    rw [take_length, nil_append] at h
    obtain ⟨next, hrx, hempty⟩ := hdrained
    have huses := h.task.uses task htask
    have hlast := (huses.receiver next hrx).eq_count_of_empty hempty
    exact ⟨huses.map.trans (hlast ▸ h.actor.subscribers.symm), h.actor.subscribers⟩
  · obtain ⟨next, hnext⟩ := Option.isSome_iff_exists.mp hrx
    exact drains hrunning htask hnext hsending
  · have huses := (hreached i s hrun).task.uses task htask
    exact ⟨huses.le, huses.map⟩

end Runs

end SubscribedActor

end NetCalyx.Bmp
