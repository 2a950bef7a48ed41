import NetCalyx.YangPush.Answers

/-!
# One fetch at a time

The cache actor should have one worker for each subscription that requesters wait for, and none
for others. The map of requesters is all that it knows of its workers, and it takes subscriptions
out of the map while their workers run: when the requesters have closed their channels, and when
another fetch has served them. A worker that panics leaves its subscription in the map.
`deduplicated_iff` says exactly which turns keep the map and the workers together.
-/

namespace NetCalyx.YangPush.CacheActor
open Collections Netconf Wire Option

variable {δ : Type} [DecidableEq δ] {same : YangLibrary → YangLibrary → Bool} {empty : δ}
  {s s' : CacheActor δ} {event : Event δ}

/-- Each subscription that is waited for has one worker, and no other one has any. -/
structure Deduplicated (s : CacheActor δ) : Prop where
  single : ∀ key, s.workersQueue.count key ≤ 1
  pending : ∀ key, (s.pendingRequests.lookup key).isSome ↔ key ∈ s.workersQueue

/-- A one-shot fetch serves nobody else; a worker ends with a result, which serves those who wait
for it and nobody else; and a cleanup leaves someone for every worker to serve. -/
def Undisturbed (empty : δ) (s : CacheActor δ) : Event δ → CacheActor δ → Prop
  | .request (.bySubscriptionInfoOneShot info) _ fetched, _ =>
    s.schemaCache.cache.getBySubscriptionInfo info = none →
      ∀ key, Serves empty key (fetched.getD (.error info)) → s.pendingRequests.lookup key = none
  | .request (.bySubscriptionIdOneShot peerIp id) _ fetched, _ =>
    s.schemaCache.cache.getBySubscriptionId peerIp id = none →
      ∀ key, Serves empty key (fetched.getD (.error (.newEmpty empty peerIp id))) →
        s.pendingRequests.lookup key = none
  | .request _ _ _, _ => True
  | .worker index result, _ =>
    ∀ key, s.workersQueue[index]? = some key → ∃ fetched, result = some fetched ∧
      Serves empty key fetched ∧
      ∀ other, Serves empty other fetched → other ≠ key → s.pendingRequests.lookup other = none
  | .cleanup isClosed, _ =>
    ∀ key senders, s.pendingRequests.lookup key = some senders →
      ∃ requester ∈ senders, isClosed requester = false

/-! ## The effect of each turn on the map -/

variable {key : SubscriptionInfo δ}

theorem lookup_of_serves {fetched : FetcherResult δ} (h : Serves empty key fetched) :
    (s.processWorkerResult same empty (some fetched)).pendingRequests.lookup key = none := by
  cases fetched with
  | error info =>
    rw [show key = info from h]
    exact AList.lookup_erase _ _
  | ok result =>
    obtain ⟨info, lib, schemas⟩ := result
    change ((s.pendingRequests.erase info).erase (.newEmpty empty info.peerIp info.id)).lookup
      key = none
    rw [lookup_erase_ite, lookup_erase_ite]
    rcases h with rfl | rfl <;> simp

theorem lookup_of_not_serves {fetched : FetcherResult δ} (h : ¬ Serves empty key fetched) :
    (s.processWorkerResult same empty (some fetched)).pendingRequests.lookup key =
      s.pendingRequests.lookup key := by
  cases fetched with
  | error info => exact AList.lookup_erase_ne h
  | ok result =>
    obtain ⟨info, lib, schemas⟩ := result
    obtain ⟨hinfo, hplaceholder⟩ := not_or.mp h
    change ((s.pendingRequests.erase info).erase (.newEmpty empty info.peerIp info.id)).lookup
      key = _
    rw [AList.lookup_erase_ne hplaceholder, AList.lookup_erase_ne hinfo]

theorem workersQueue_processWorkerResult (result : Option (FetcherResult δ)) :
    (s.processWorkerResult same empty result).workersQueue = s.workersQueue := by
  rcases result with _ | _ | _ <;> rfl

/-- The end of a fetch serves nobody. -/
theorem isSome_processWorkerResult_iff (fetched : FetcherResult δ) :
    (∀ key, ((s.processWorkerResult same empty (some fetched)).pendingRequests.lookup key).isSome ↔
        (s.pendingRequests.lookup key).isSome) ↔
      ∀ key, Serves empty key fetched → s.pendingRequests.lookup key = none := by
  constructor
  · intro h key hserves
    have hkey := h key
    rw [lookup_of_serves hserves, isSome_none] at hkey
    rw [← not_isSome_iff_eq_none, ← hkey]
    exact Bool.false_ne_true
  · intro h key
    by_cases hserves : Serves empty key fetched
    · rw [lookup_of_serves hserves, h key hserves]
    · rw [lookup_of_not_serves hserves]

/-- Nobody is waited for by nobody. -/
def Filled (s : CacheActor δ) : Prop :=
  ∀ key senders, s.pendingRequests.lookup key = some senders → senders ≠ []

/-- The workers stay; so must the subscriptions that are waited for. -/
theorem Deduplicated.iff_of_workersQueue (h : Deduplicated s)
    (hworkers : s'.workersQueue = s.workersQueue) :
    Deduplicated s' ↔ ∀ key, (s'.pendingRequests.lookup key).isSome ↔
      (s.pendingRequests.lookup key).isSome := by
  constructor
  · intro h' key
    rw [h'.pending, hworkers, h.pending]
  · intro hsame
    refine ⟨?_, fun key => ?_⟩
    · rw [hworkers]
      exact h.single
    · rw [hsame, hworkers]
      exact h.pending key

theorem Filled.waiting_eq_nil (h : Filled s) (hkey : s.waiting key = []) :
    s.pendingRequests.lookup key = none := by
  cases hlookup : s.pendingRequests.lookup key with
  | none => rfl
  | some senders =>
    rw [waiting, hlookup] at hkey
    exact absurd hkey (h key senders hlookup)

theorem Filled.processWorkerResult (h : Filled s) (result : Option (FetcherResult δ)) :
    Filled (s.processWorkerResult same empty result) := by
  cases result with
  | none => exact h
  | some fetched =>
    intro key senders hlookup
    by_cases hserves : Serves empty key fetched
    · rw [lookup_of_serves hserves] at hlookup
      cases hlookup
    · rw [lookup_of_not_serves hserves] at hlookup
      exact h key senders hlookup

/-- A lookup that misses starts a worker if nobody waits yet. -/
theorem Deduplicated.enqueue (h : Deduplicated s) (hfilled : Filled s) (key : SubscriptionInfo δ)
    (requester : Nat) (started : Bool) :
    Deduplicated (s.enqueue key requester started) ∧ Filled (s.enqueue key requester started) := by
  have hfilled' : Filled { s with
      pendingRequests := s.pendingRequests.insert key (s.waiting key ++ [requester]) } := by
    intro other senders hlookup
    rw [lookup_insert_ite] at hlookup
    split at hlookup
    · rw [← Option.some.inj hlookup]
      exact List.append_ne_nil_of_right_ne_nil _ (List.cons_ne_nil _ _)
    · exact hfilled other senders hlookup
  unfold CacheActor.enqueue
  simp only [List.isEmpty_iff]
  split
  · rename_i hnobody
    have hnone := hfilled.waiting_eq_nil hnobody
    have hnew : key ∉ s.workersQueue := by
      rw [← h.pending, hnone]
      exact Bool.false_ne_true
    split
    · refine ⟨⟨fun other => ?_, fun other => ?_⟩, hfilled'⟩
      · rw [List.count_append, List.count_singleton]
        by_cases heq : key = other
        · subst heq
          rw [List.count_eq_zero.mpr hnew, if_pos (beq_self_eq_true key)]
        · rw [if_neg (by simpa using heq)]
          exact h.single other
      · rw [lookup_insert_ite, List.mem_append, List.mem_singleton]
        split
        · rename_i heq
          exact iff_of_true rfl (.inr heq)
        · rename_i hne
          rw [h.pending, or_iff_left hne]
    · -- The worker has not started in time; the requester is dropped again.
      have hsame (other : SubscriptionInfo δ) :
          ((s.pendingRequests.insert key (s.waiting key ++ [requester])).erase key).lookup other =
            s.pendingRequests.lookup other := by
        rw [lookup_erase_ite, lookup_insert_ite]
        split
        · rename_i heq
          rw [heq, hnone]
        · rfl
      refine ⟨(h.iff_of_workersQueue (by rfl)).mpr fun other => ?_, fun other senders hlookup => ?_⟩
      · rw [hsame]
      · rw [hsame] at hlookup
        exact hfilled other senders hlookup
  · rename_i hbusy
    refine ⟨(h.iff_of_workersQueue (by rfl)).mpr fun other => ?_, hfilled'⟩
    rw [lookup_insert_ite]
    split
    · rename_i heq
      subst heq
      refine iff_of_true rfl ?_
      rw [← ne_none_iff_isSome]
      intro hnone
      rw [waiting, hnone] at hbusy
      exact hbusy rfl
    · exact Iff.rfl

/-! ## The effect of each turn on the workers -/

theorem lookup_cleanupClosedSenders (isClosed : Nat → Bool)
    (key : SubscriptionInfo δ) :
    (s.cleanupClosedSenders isClosed).pendingRequests.lookup key =
      ((s.pendingRequests.lookup key).map (List.filter fun requester => !isClosed requester)).filter
        (fun senders => !senders.isEmpty) := by
  rw [cleanupClosedSenders, lookup_retain, lookup_mapValues]

variable (h : Deduplicated s)
include h

theorem Deduplicated.cleanup_iff (isClosed : Nat → Bool) :
    Deduplicated (s.cleanupClosedSenders isClosed) ↔
      ∀ key senders, s.pendingRequests.lookup key = some senders →
        ∃ requester ∈ senders, isClosed requester = false := by
  refine (h.iff_of_workersQueue (by rfl)).trans (forall_congr' fun key => ?_)
  rw [lookup_cleanupClosedSenders]
  cases s.pendingRequests.lookup key with
  | none => simp
  | some senders => simp [filter_some, List.filter_eq_nil_iff]

/-- The worker is gone, and all others stay. -/
theorem Deduplicated.mem_eraseIdx {index : Nat} (hkey : s.workersQueue[index]? = some key)
    (other : SubscriptionInfo δ) :
    other ∈ s.workersQueue.eraseIdx index ↔ other ≠ key ∧ other ∈ s.workersQueue := by
  obtain ⟨hlt, hget⟩ := List.getElem?_eq_some_iff.mp hkey
  have hnodup : s.workersQueue.Nodup := List.nodup_iff_count_le_one.mpr h.single
  rw [← hnodup.erase_getElem index hlt, hget, hnodup.mem_erase_iff]

theorem Deduplicated.worker_iff {index : Nat} (hkey : s.workersQueue[index]? = some key)
    (result : Option (FetcherResult δ)) :
    Deduplicated ({ s with workersQueue := s.workersQueue.eraseIdx index }.processWorkerResult same
        empty result) ↔
      ∃ fetched, result = some fetched ∧ Serves empty key fetched ∧
        ∀ other, Serves empty other fetched → other ≠ key →
          s.pendingRequests.lookup other = none := by
  have hmem : key ∈ s.workersQueue := List.mem_of_getElem? hkey
  have hwaited : (s.pendingRequests.lookup key).isSome := (h.pending key).mpr hmem
  -- Only the pending subscriptions matter: no worker is added.
  have hiff : Deduplicated ({ s with workersQueue := s.workersQueue.eraseIdx index
      }.processWorkerResult same empty result) ↔
      ∀ other, ((s.processWorkerResult same empty result).pendingRequests.lookup other).isSome ↔
        other ≠ key ∧ (s.pendingRequests.lookup other).isSome := by
    have hworkers : ({ s with workersQueue := s.workersQueue.eraseIdx index }.processWorkerResult
        same empty result).workersQueue = s.workersQueue.eraseIdx index :=
      workersQueue_processWorkerResult result
    have hpending : ({ s with workersQueue := s.workersQueue.eraseIdx index }.processWorkerResult
        same empty result).pendingRequests =
          (s.processWorkerResult same empty result).pendingRequests := by
      rcases result with _ | _ | _ <;> rfl
    constructor
    · intro h' other
      rw [← hpending, h'.pending, hworkers, h.mem_eraseIdx hkey, h.pending]
    · intro hothers
      refine ⟨fun other => ?_, fun other => ?_⟩
      · rw [hworkers]
        exact ((List.eraseIdx_sublist _ _).count_le other).trans (h.single other)
      · rw [hpending, hothers, hworkers, h.mem_eraseIdx hkey, h.pending]
  rw [hiff]
  cases result with
  | none =>
    refine iff_of_false (fun hothers => ?_) (fun ⟨_, hnone, _⟩ => nomatch hnone)
    exact ((hothers key).mp hwaited).1 rfl
  | some fetched =>
    constructor
    · intro hothers
      refine ⟨fetched, rfl, ?_, fun other hserves hne => ?_⟩
      · by_contra hnot
        have hkey' := hothers key
        rw [lookup_of_not_serves hnot] at hkey'
        exact (hkey'.mp hwaited).1 rfl
      · have hother := hothers other
        rw [lookup_of_serves hserves, isSome_none] at hother
        rw [← not_isSome_iff_eq_none]
        exact fun hsome => Bool.false_ne_true (hother.mpr ⟨hne, hsome⟩)
    · rintro ⟨_, ⟨⟩, hserves, hnobody⟩ other
      by_cases hother : Serves empty other fetched
      · rw [lookup_of_serves hother]
        refine iff_of_false Bool.false_ne_true fun ⟨hne, hsome⟩ => ?_
        rw [hnobody other hother hne] at hsome
        cases hsome
      · have hne : other ≠ key := fun heq => hother (heq ▸ hserves)
        rw [lookup_of_not_serves hother, and_iff_right hne]

/-- A one-shot fetch has no worker. -/
theorem Deduplicated.oneShot_iff (fetched : FetcherResult δ) :
    Deduplicated (s.processWorkerResult same empty (some fetched)) ↔
      ∀ key, Serves empty key fetched → s.pendingRequests.lookup key = none :=
  (h.iff_of_workersQueue (workersQueue_processWorkerResult _)).trans
    (isSome_processWorkerResult_iff fetched)

omit h

theorem filled_cleanup (s : CacheActor δ) (isClosed : Nat → Bool) :
    Filled (s.cleanupClosedSenders isClosed) := by
  intro key senders hlookup
  rw [lookup_cleanupClosedSenders] at hlookup
  simpa using (filter_eq_some_iff.mp hlookup).2

/-! ## Turns and runs -/

theorem Deduplicated.request_iff (h : Deduplicated s) (hfilled : Filled s)
    (command : CacheLookupCommand δ) (started : Bool) (fetched : Option (FetcherResult δ)) :
    Filled (s.processRequest same empty command started fetched) ∧
      (Deduplicated (s.processRequest same empty command started fetched) ↔
        Undisturbed empty s (.request command started fetched)
          (s.processRequest same empty command started fetched)) := by
  have hs : Deduplicated { s with requests := s.requests ++ [command] } := ⟨h.single, h.pending⟩
  have hf : Filled { s with requests := s.requests ++ [command] } := hfilled
  have henqueue (key : SubscriptionInfo δ) := hs.enqueue hf key s.requests.length started
  cases command with
  | bySubscriptionInfo info =>
    unfold processRequest
    simp only
    split
    · exact ⟨hf, iff_of_true ⟨hs.single, hs.pending⟩ trivial⟩
    · exact ⟨(henqueue info).2, iff_of_true (henqueue info).1 trivial⟩
  | bySubscriptionInfoOneShot info =>
    unfold processRequest
    simp only
    cases hhit : s.schemaCache.cache.getBySubscriptionInfo info with
    | some ref =>
      refine ⟨hf, iff_of_true ⟨hs.single, hs.pending⟩ fun hmiss => ?_⟩
      rw [hhit] at hmiss
      cases hmiss
    | none =>
      refine ⟨hf.processWorkerResult _, ?_⟩
      have hiff : Deduplicated ({ s with
          requests := s.requests ++ [CacheLookupCommand.bySubscriptionInfoOneShot info] }.processWorkerResult same
            empty (some (fetched.getD (.error info)))) ↔ _ := hs.oneShot_iff _
      exact Iff.trans ⟨fun h' => ⟨h'.single, h'.pending⟩, fun h' => ⟨h'.single, h'.pending⟩⟩
        (hiff.trans ⟨fun h' _ => h', fun h' => h' hhit⟩)
  | bySubscriptionId peerIp id =>
    unfold processRequest
    simp only
    split
    · exact ⟨hf, iff_of_true ⟨hs.single, hs.pending⟩ trivial⟩
    · exact ⟨(henqueue _).2, iff_of_true (henqueue _).1 trivial⟩
  | bySubscriptionIdOneShot peerIp id =>
    unfold processRequest
    simp only
    cases hhit : s.schemaCache.cache.getBySubscriptionId peerIp id with
    | some hit =>
      refine ⟨hf, iff_of_true ⟨hs.single, hs.pending⟩ fun hmiss => ?_⟩
      rw [hhit] at hmiss
      cases hmiss
    | none =>
      refine ⟨hf.processWorkerResult _, ?_⟩
      exact (hs.oneShot_iff _).trans ⟨fun h' _ => h', fun h' => h' hhit⟩
  | byContentId contentId | byContentIdOneShot contentId =>
    exact ⟨hf, iff_of_true ⟨hs.single, hs.pending⟩ trivial⟩

theorem Deduplicated.step_iff (h : Deduplicated s) (hfilled : Filled s)
    (hstep : s.step same empty event = some s') :
    Filled s' ∧ (Deduplicated s' ↔ Undisturbed empty s event s') := by
  cases event with
  | request command started fetched =>
    cases hstep
    exact h.request_iff hfilled command started fetched
  | worker index result =>
    unfold step at hstep
    simp only at hstep
    split at hstep
    · rename_i hlt
      cases hstep
      have hkey : s.workersQueue[index]? = some s.workersQueue[index] :=
        List.getElem?_eq_getElem hlt
      have hf : Filled { s with workersQueue := s.workersQueue.eraseIdx index } := hfilled
      refine ⟨hf.processWorkerResult result, (h.worker_iff hkey result).trans ?_⟩
      constructor
      · intro hserves key hkey'
        rw [hkey] at hkey'
        exact Option.some.inj hkey' ▸ hserves
      · exact fun hserves => hserves _ hkey
    · cases hstep
  | cleanup isClosed =>
    cases hstep
    exact ⟨filled_cleanup s isClosed, h.cleanup_iff isClosed⟩

/-- In a run of the actor there is always one worker for each subscription that is waited for and
none for others if and only if no turn of it takes a subscription from the map whose worker still
runs, or leaves one there whose worker has ended. -/
theorem deduplicated_iff (same : YangLibrary → YangLibrary → Bool) (empty : δ) (store : Store δ)
    (events : List (Event δ)) :
    Stepwise.Along (step same empty) (fun _ _ s' => Deduplicated s') (new store) events ↔
      Stepwise.Along (step same empty) (Undisturbed empty) (new store) events := by
  apply Stepwise.along_iff fun s => Deduplicated s ∧ Filled s
  · intro s event s' h hstep
    exact (h.1.step_iff h.2 hstep).2
  · intro s event s' h hstep hundisturbed
    obtain ⟨hfilled, hiff⟩ := h.1.step_iff h.2 hstep
    exact ⟨hiff.mpr hundisturbed, hfilled⟩
  · exact ⟨⟨fun _ => Nat.zero_le 1, fun _ => iff_of_false Bool.false_ne_true List.not_mem_nil⟩,
      fun _ _ h => nomatch h⟩

/-- A requester goes away and its subscription is cleaned up; the next requester starts a second
worker beside the first one. When both have panicked, the second requester is still waited for. -/
theorem second_worker_started :
    (∃ s, Stepwise.run (step (fun _ _ => true) ()) (new ⟨YangLibraryCache.new, ∅⟩)
        [.request (.bySubscriptionInfo (subscription 7 "reported")) true none,
          .cleanup (fun _ => true),
          .request (.bySubscriptionInfo (subscription 7 "reported")) true none] = some s ∧
      s.workersQueue.count (subscription 7 "reported") = 2) ∧
    ∃ s, Stepwise.run (step (fun _ _ => true) ()) (new ⟨YangLibraryCache.new, ∅⟩)
        [.request (.bySubscriptionInfo (subscription 7 "reported")) true none,
          .cleanup (fun _ => true),
          .request (.bySubscriptionInfo (subscription 7 "reported")) true none,
          .worker 0 none, .worker 0 none] = some s ∧
      s.workersQueue = [] ∧ s.waiting (subscription 7 "reported") = [1] :=
  ⟨⟨_, rfl, by decide⟩, _, rfl, rfl, rfl⟩

end NetCalyx.YangPush.CacheActor
