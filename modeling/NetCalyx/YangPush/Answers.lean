import NetCalyx.YangPush.CacheActor
import NetCalyx.YangPush.Indexes

/-!
# Answers to lookups

A lookup should get one response, which says what the cache holds then. This is not so of all
lookups: a one-shot lookup by id that misses gets none, and neither does a requester whose fetch
does not start in time, or whose worker panics. `answers_every_lookup` says of the runs in which
nothing of this happens that every lookup has one response or waits for a fetch that is still
running, that the end of a fetch answers all who wait for it, and that all responses are right.
-/

namespace NetCalyx.YangPush
open Collections Netconf Wire List

variable {δ : Type} [DecidableEq δ]

namespace CacheActor

/-! ## What the actor should do -/

/-- What the cache holds for the lookup. -/
def Right (cache : YangLibraryCache δ) : CacheLookupCommand δ → Response δ → Prop
  | .bySubscriptionInfo info, .subscription r | .bySubscriptionInfoOneShot info, .subscription r =>
    r.subscriptionInfo = info ∧ r.yangLibRef = cache.getBySubscriptionInfo info
  | .bySubscriptionId peerIp id, .subscription r
  | .bySubscriptionIdOneShot peerIp id, .subscription r =>
    r.subscriptionInfo.key = (peerIp, id) ∧
      r.yangLibRef = (cache.getBySubscriptionId peerIp id).bind (·.2)
  | .byContentId contentId, .content contentId' ref
  | .byContentIdOneShot contentId, .content contentId' ref =>
    contentId' = contentId ∧ ref = cache.getByContentId contentId
  | _, _ => False

/-- The new responses are right. -/
def Answers (s s' : CacheActor δ) : Prop :=
  ∃ new, s'.responses = s.responses ++ new ∧ ∀ r ∈ new, ∃ command,
    s'.requests[r.1]? = some command ∧ Right s'.schemaCache.cache command r.2

/-- The responses of a turn are right, and the end of a fetch answers all who wait for it. -/
def Responds (s : CacheActor δ) (event : Event δ) (s' : CacheActor δ) : Prop :=
  Answers s s' ∧
  match event with
  | .worker index _ => ∀ key, s.workersQueue[index]? = some key →
      ∀ requester ∈ s.waiting key, requester ∈ s'.responses.map (·.1)
  | _ => True

/-- The subscriptions that are served when a fetch ends. -/
def Serves (empty : δ) (key : SubscriptionInfo δ) : FetcherResult δ → Prop
  | .error info => key = info
  | .ok (info, _, _) => key = info ∨ key = .newEmpty empty info.peerIp info.id

/-- A fetch starts in time; a one-shot lookup by id finds what it looks for; nobody looks up a
placeholder; a worker somebody waits for ends with a result for the subscription that it was started
for; and no requester goes away. -/
def Careful (empty : δ) (s : CacheActor δ) : Event δ → CacheActor δ → Prop
  | .request (.bySubscriptionInfo info) started _, _ =>
    s.schemaCache.cache.getBySubscriptionInfo info = none →
      info ≠ .newEmpty empty info.peerIp info.id ∧ (s.waiting info = [] → started = true)
  | .request (.bySubscriptionId peerIp id) started _, _ =>
    s.schemaCache.cache.getBySubscriptionId peerIp id = none →
      s.waiting (.newEmpty empty peerIp id) = [] → started = true
  | .request (.bySubscriptionIdOneShot peerIp id) _ _, _ =>
    s.schemaCache.cache.getBySubscriptionId peerIp id ≠ none
  | .request _ _ _, _ => True
  | .worker index result, _ =>
    ∀ key, s.workersQueue[index]? = some key → s.waiting key ≠ [] →
      ∃ fetched, result = some fetched ∧ Serves empty key fetched
  | .cleanup isClosed, _ => ∀ requester, isClosed requester = false

/-! ## Invariants -/

/-- All who wait. -/
def allWaiting (s : CacheActor δ) : List Nat := contents (fun _ requesters => requesters)
  s.pendingRequests

/-- Why a lookup waits under a key: the cache does not hold what it looks for. -/
def Waits (empty : δ) (cache : YangLibraryCache δ) (key : SubscriptionInfo δ) :
    CacheLookupCommand δ → Prop
  | .bySubscriptionInfo info =>
    key = info ∧ info ≠ .newEmpty empty info.peerIp info.id ∧
      cache.getBySubscriptionInfo info = none
  | .bySubscriptionId peerIp id =>
    key = .newEmpty empty peerIp id ∧ cache.bySubscriptionId.lookup (peerIp, id) = none
  | _ => False

/-- The subscriptions that are stored are known by their ids. -/
def Filed (cache : YangLibraryCache δ) : Prop :=
  ∀ info, (cache.getBySubscriptionInfo info).isSome →
    (cache.bySubscriptionId.lookup info.key).isSome

/-- Every lookup is answered or waits, apart from those in hand; it waits for a fetch. -/
structure Invariant (empty : δ) (hand : List Nat) (s : CacheActor δ) : Prop where
  accounted : (s.responses.map (·.1) ++ s.allWaiting ++ hand).Perm (List.range s.requests.length)
  asked : ∀ key, ∀ requester ∈ s.waiting key, ∃ command,
    s.requests[requester]? = some command ∧ Waits empty s.schemaCache.cache key command
  fetching : ∀ key, s.waiting key ≠ [] → key ∈ s.workersQueue
  filed : Filed s.schemaCache.cache

variable {same : YangLibrary → YangLibrary → Bool} {empty : δ} {s : CacheActor δ}
  {hand : List Nat}

theorem invariant_new {store : Store δ} (h : Filed store.cache) :
    Invariant empty [] (new store) :=
  ⟨List.Perm.refl _, fun _ _ h => by simp [waiting, new] at h,
    fun _ h => by simp [waiting, new] at h, h⟩

variable {info key : SubscriptionInfo δ} {ref : Option YangLibraryReference}
  {command : CacheLookupCommand δ} {requester : Nat}

theorem mem_allWaiting : requester ∈ s.allWaiting ↔ ∃ key, requester ∈ s.waiting key := by
  rw [allWaiting, mem_contents]
  refine exists_congr fun key => ?_
  rw [waiting]
  cases s.pendingRequests.lookup key <;> simp

/-! ## Answering those who wait for a subscription -/

/-- All who wait for a subscription get a response. -/
def serve (s : CacheActor δ) (key : SubscriptionInfo δ) (response : Response δ) : CacheActor δ :=
  { s with pendingRequests := s.pendingRequests.erase key }.send (s.waiting key) response

theorem waiting_serve (key : SubscriptionInfo δ) (response : Response δ)
    (other : SubscriptionInfo δ) :
    (s.serve key response).waiting other = if other = key then [] else s.waiting other := by
  change ((s.pendingRequests.erase key).lookup other).getD [] = _
  rw [lookup_erase_ite]
  split <;> rfl

theorem Invariant.serve (h : Invariant empty hand s) (key : SubscriptionInfo δ)
    (response : Response δ) : Invariant empty hand (s.serve key response) := by
  refine ⟨?_, fun other requester hrequester => ?_, fun other hother => ?_, h.filed⟩
  · have hcontents := contents_erase (fun _ requesters => requesters) s.pendingRequests key
    have hwaiting : ((s.pendingRequests.lookup key).map fun requesters => requesters).getD [] =
        s.waiting key := by
      rw [Option.map_id']
      rfl
    rw [hwaiting] at hcontents
    refine List.Perm.trans (List.Perm.append_right hand ?_) h.accounted
    have hresponses : (s.serve key response).responses.map (·.1) =
        s.responses.map (·.1) ++ s.waiting key := by
      simp [CacheActor.serve, send, Function.comp_def]
    rw [hresponses, append_assoc]
    exact hcontents.symm.append_left _
  · rw [waiting_serve] at hrequester
    split at hrequester
    · cases hrequester
    · exact h.asked other requester hrequester
  · rw [waiting_serve] at hother
    split at hother
    · exact absurd rfl hother
    · exact h.fetching other hother

theorem processWorkerResult_error (info : SubscriptionInfo δ) :
    s.processWorkerResult same empty (some (.error info)) = s.serve info (.ofRef info none) := rfl

theorem processWorkerResult_ok (info : SubscriptionInfo δ) (lib : YangLibrary)
    (schemas : Map String String) :
    s.processWorkerResult same empty (some (.ok (info, lib, schemas))) =
      { (s.serve info (.ofRef info (stored same s.schemaCache info lib schemas).1)).serve
          (.newEmpty empty info.peerIp info.id)
          (.ofRef info (stored same s.schemaCache info lib schemas).1) with
        schemaCache := (stored same s.schemaCache info lib schemas).2 } := by
  simp only [processWorkerResult, serve, send, waiting, map_append, append_assoc]

/-! ## The end of a fetch -/

/-- A put stores the subscription under itself and its id, unless it is stored already. -/
theorem put_cases {store store' : Store δ} {lib : YangLibrary} {schemas : Map String String}
    {ref : YangLibraryReference}
    (h : store.putYangLibrary same info lib schemas = .ok (ref, store')) :
    (store' = store ∧ (store.cache.getBySubscriptionInfo info).isSome) ∨
    ((∀ other, store'.cache.getBySubscriptionInfo other =
        if other = info then some ref else store.cache.getBySubscriptionInfo other) ∧
      ∀ key, store'.cache.bySubscriptionId.lookup key =
        if key = info.key then some info else store.cache.bySubscriptionId.lookup key) := by
  rcases Store.putYangLibrary_ok h with ⟨-, hknown, hsame⟩ | ⟨-, -, hcache, -⟩ | ⟨-, -, hcache, -⟩
  · exact .inl ⟨hsame, hknown⟩
  · rw [hcache]
    exact .inr ⟨fun other => lookup_insert_ite _ _ _ _, fun key => lookup_insert_ite _ _ _ _⟩
  · rw [hcache]
    exact .inr ⟨fun other => lookup_insert_ite _ _ _ _, fun key => lookup_insert_ite _ _ _ _⟩

/-- What the put leaves behind is told to those who wait, and leaves all others waiting. -/
structure StoredSpec (before after : YangLibraryCache δ) (info : SubscriptionInfo δ)
    (ref : Option YangLibraryReference) : Prop where
  filed : Filed after
  byInfo : before.getBySubscriptionInfo info = none → after.getBySubscriptionInfo info = ref
  byId : before.bySubscriptionId.lookup info.key = none →
    (after.getBySubscriptionId info.peerIp info.id).bind (·.2) = ref
  otherInfos : ∀ other, other ≠ info →
    after.getBySubscriptionInfo other = before.getBySubscriptionInfo other
  otherIds : ∀ key, key ≠ info.key →
    after.bySubscriptionId.lookup key = before.bySubscriptionId.lookup key

theorem storedSpec_none {cache : YangLibraryCache δ} (h : Filed cache)
    (info : SubscriptionInfo δ) : StoredSpec cache cache info none := by
  refine ⟨h, fun hnone => hnone, fun hnone => ?_, fun _ _ => rfl, fun _ _ => rfl⟩
  change ((cache.bySubscriptionId.lookup info.key).map _).bind _ = none
  rw [hnone]
  rfl

variable (same)

theorem stored_spec {store : Store δ} (h : Filed store.cache) (info : SubscriptionInfo δ)
    (lib : YangLibrary) (schemas : Map String String) :
    StoredSpec store.cache (stored same store info lib schemas).2.cache info
      (stored same store info lib schemas).1 := by
  rw [stored]
  cases hput : store.putYangLibrary same info lib schemas with
  | error e => exact storedSpec_none h info
  | ok result =>
    obtain ⟨ref, store'⟩ := result
    rcases put_cases hput with ⟨rfl, hknown⟩ | ⟨hinfos, hids⟩
    · refine ⟨h, fun hnone => ?_, fun hnone => ?_, fun _ _ => rfl, fun _ _ => rfl⟩
      · rw [hnone] at hknown
        cases hknown
      · have hid := h info hknown
        rw [hnone] at hid
        cases hid
    · refine ⟨fun other hother => ?_, fun _ => ?_, fun _ => ?_, fun other hne => ?_,
        fun key hne => ?_⟩
      · change (store'.cache.bySubscriptionId.lookup other.key).isSome
        rw [hids]
        split
        · rfl
        · rename_i hne
          have hinfo : other ≠ info := fun heq => hne (congrArg SubscriptionInfo.key heq)
          change (store'.cache.getBySubscriptionInfo other).isSome at hother
          rw [hinfos, if_neg hinfo] at hother
          exact h other hother
      · exact (hinfos info).trans (if_pos rfl)
      · change ((store'.cache.bySubscriptionId.lookup info.key).map _).bind _ = some ref
        rw [hids, if_pos rfl]
        exact (hinfos info).trans (if_pos rfl)
      · exact (hinfos other).trans (if_neg hne)
      · exact (hids key).trans (if_neg hne)

/-- What is told to those who wait for the subscription, or for its id, is right. -/
theorem Waits.right {before after : YangLibraryCache δ} (h : Waits empty before key command)
    (hspec : StoredSpec before after info ref)
    (hkey : key = info ∨ key = .newEmpty empty info.peerIp info.id) :
    Right after command (.ofRef info ref) := by
  cases command with
  | bySubscriptionInfo info' =>
    obtain ⟨rfl, hreal, hnone⟩ := h
    rcases hkey with rfl | rfl
    · exact ⟨rfl, (hspec.byInfo hnone).symm⟩
    · exact absurd rfl hreal
  | bySubscriptionId peerIp id =>
    obtain ⟨rfl, hnone⟩ := h
    have hid : info.key = (peerIp, id) := by
      rcases hkey with heq | heq
      · rw [← heq]
        rfl
      · exact congrArg SubscriptionInfo.key heq.symm
    obtain ⟨rfl, rfl⟩ := Prod.mk.inj hid
    exact ⟨rfl, (hspec.byId hnone).symm⟩
  | _ => cases h

theorem Invariant.store (h : Invariant empty hand s) {store : Store δ}
    (hspec : StoredSpec s.schemaCache.cache store.cache info ref)
    (hserved : ∀ key, key = info ∨ key = .newEmpty empty info.peerIp info.id → s.waiting key = []) :
    Invariant empty hand { s with schemaCache := store } := by
  refine ⟨h.accounted, fun key requester hrequester => ?_, h.fetching, hspec.filed⟩
  obtain ⟨command, hcommand, hwaits⟩ := h.asked key requester hrequester
  refine ⟨command, hcommand, ?_⟩
  have hother : ¬ (key = info ∨ key = .newEmpty empty info.peerIp info.id) := by
    intro hkey
    have hmem : requester ∈ s.waiting key := hrequester
    rw [hserved key hkey] at hmem
    cases hmem
  cases command with
  | bySubscriptionInfo info' =>
    obtain ⟨rfl, hreal, hnone⟩ := hwaits
    exact ⟨rfl, hreal, (hspec.otherInfos _ fun heq => hother (.inl heq)).trans hnone⟩
  | bySubscriptionId peerIp id =>
    obtain ⟨rfl, hnone⟩ := hwaits
    refine ⟨rfl, (hspec.otherIds _ fun heq => hother (.inr ?_)).trans hnone⟩
    obtain ⟨rfl, rfl⟩ := Prod.mk.inj heq
    rfl
  | _ => cases hwaits

theorem processWorkerResult_spec (h : Invariant empty hand s) (fetched : FetcherResult δ) :
    Invariant empty hand (s.processWorkerResult same empty (some fetched)) ∧
      Answers s (s.processWorkerResult same empty (some fetched)) ∧
      ∀ key, Serves empty key fetched ∨ s.waiting key = [] →
        (s.processWorkerResult same empty (some fetched)).waiting key = [] ∧
        ∀ requester ∈ s.waiting key,
          requester ∈ (s.processWorkerResult same empty (some fetched)).responses.map (·.1) := by
  cases fetched with
  | error info =>
    rw [processWorkerResult_error]
    refine ⟨h.serve info _, ⟨_, rfl, fun r hr => ?_⟩, ?_⟩
    · obtain ⟨requester, hrequester, rfl⟩ := mem_map.mp hr
      obtain ⟨command, hcommand, hwaits⟩ := h.asked info requester hrequester
      exact ⟨command, hcommand, hwaits.right (storedSpec_none h.filed info) (.inl rfl)⟩
    · rintro key (rfl | hnone)
      · refine ⟨by rw [waiting_serve, if_pos rfl], fun requester hrequester => ?_⟩
        simp [serve, send, hrequester]
      · rw [waiting_serve, hnone, ite_self]
        exact ⟨rfl, nofun⟩
  | ok result =>
    obtain ⟨info, lib, schemas⟩ := result
    rw [processWorkerResult_ok]
    have hspec := stored_spec same h.filed info lib schemas
    generalize stored same s.schemaCache info lib schemas = after at hspec ⊢
    have hserve := (h.serve info (.ofRef info after.1)).serve
      (.newEmpty empty info.peerIp info.id) (.ofRef info after.1)
    have hwaiting (key : SubscriptionInfo δ)
        (hkey : (key = info ∨ key = .newEmpty empty info.peerIp info.id) ∨ s.waiting key = []) :
        ((s.serve info (.ofRef info after.1)).serve (.newEmpty empty info.peerIp info.id)
          (.ofRef info after.1)).waiting key = [] := by
      rw [waiting_serve, waiting_serve]
      rcases hkey with (rfl | rfl) | hnone
      · rw [if_pos rfl, ite_self]
      · rw [if_pos rfl]
      · rw [hnone, ite_self, ite_self]
    -- Those who are served wait under the subscription or under its placeholder.
    have hmem (requester : Nat) :
        requester ∈ s.waiting info ++ (s.serve info (.ofRef info after.1)).waiting
          (.newEmpty empty info.peerIp info.id) ↔
        ∃ key, (key = info ∨ key = .newEmpty empty info.peerIp info.id) ∧
          requester ∈ s.waiting key := by
      rw [mem_append, waiting_serve]
      by_cases heq : SubscriptionInfo.newEmpty empty info.peerIp info.id = info
      · simp [heq]
      · simp [heq]
    have hresponses : ((s.serve info (.ofRef info after.1)).serve
        (.newEmpty empty info.peerIp info.id) (.ofRef info after.1)).responses =
          s.responses ++ (s.waiting info ++ (s.serve info (.ofRef info after.1)).waiting
            (.newEmpty empty info.peerIp info.id)).map (·, .ofRef info after.1) := by
      rw [map_append, ← append_assoc]
      rfl
    refine ⟨hserve.store hspec fun key hkey => hwaiting key (.inl hkey),
      ⟨_, hresponses, fun r hr => ?_⟩,
      fun key hkey => ⟨hwaiting key hkey, fun requester hrequester => ?_⟩⟩
    · obtain ⟨requester, hrequester, rfl⟩ := mem_map.mp hr
      obtain ⟨key, hkey, hrequester⟩ := (hmem requester).mp hrequester
      obtain ⟨command, hcommand, hwaits⟩ := h.asked key requester hrequester
      exact ⟨command, hcommand, hwaits.right hspec hkey⟩
    · replace hkey := hkey.resolve_right (ne_nil_of_mem hrequester)
      change requester ∈ List.map (·.1) (CacheActor.responses _)
      rw [hresponses, map_append, mem_append, map_map]
      exact .inr (mem_map.mpr ⟨requester, (hmem requester).mpr ⟨key, hkey, hrequester⟩, rfl⟩)

variable {same}

/-! ## Lookups -/

/-- A lookup that has just come in. -/
theorem Invariant.request (h : Invariant empty [] s) (command : CacheLookupCommand δ) :
    Invariant empty [s.requests.length] { s with requests := s.requests ++ [command] } := by
  refine ⟨?_, fun key requester hrequester => ?_, h.fetching, h.filed⟩
  · rw [length_append, length_singleton, range_succ]
    have haccounted := h.accounted
    rw [append_nil] at haccounted
    exact haccounted.append_right _
  · obtain ⟨command', hcommand, hwaits⟩ := h.asked key requester hrequester
    refine ⟨command', ?_, hwaits⟩
    obtain ⟨hlt, -⟩ := List.getElem?_eq_some_iff.mp hcommand
    exact (List.getElem?_append_left hlt).trans hcommand

theorem Invariant.send (h : Invariant empty [requester] s) (response : Response δ) :
    Invariant empty [] (s.send [requester] response) := by
  refine ⟨?_, h.asked, h.fetching, h.filed⟩
  refine List.Perm.trans ?_ h.accounted
  rw [CacheActor.send, map_append, append_nil, append_assoc, append_assoc]
  exact perm_append_comm.append_left _

theorem enqueue_eq {started : Bool} (hstarted : s.waiting key = [] → started = true) :
    s.enqueue key requester started =
      { s with
        pendingRequests := s.pendingRequests.insert key (s.waiting key ++ [requester])
        workersQueue :=
          if s.waiting key = [] then s.workersQueue ++ [key] else s.workersQueue } := by
  unfold enqueue
  simp only [List.isEmpty_iff]
  split
  · rename_i hempty
    rw [if_pos (hstarted hempty)]
  · rfl

/-- A lookup that the cache cannot answer waits for a fetch. -/
theorem Invariant.enqueue (h : Invariant empty [requester] s) {started : Bool}
    (hcommand : s.requests[requester]? = some command)
    (hwaits : Waits empty s.schemaCache.cache key command)
    (hstarted : s.waiting key = [] → started = true) :
    Invariant empty [] (s.enqueue key requester started) ∧
      Answers s (s.enqueue key requester started) := by
  rw [enqueue_eq hstarted]
  have hwaiting (other : SubscriptionInfo δ) :
      ((s.pendingRequests.insert key (s.waiting key ++ [requester])).lookup other).getD [] =
        if other = key then s.waiting key ++ [requester] else s.waiting other := by
    rw [lookup_insert_ite]
    split <;> rfl
  refine ⟨⟨?_, fun other requester' hmem => ?_, fun other hne => ?_, h.filed⟩,
    [], (append_nil _).symm, fun _ hr => absurd hr not_mem_nil⟩
  · have hcontents := contents_erase (fun _ requesters => requesters) s.pendingRequests key
    rw [Option.map_id'] at hcontents
    refine List.Perm.trans ?_ h.accounted
    rw [allWaiting, contents_insert, append_nil, append_assoc (s.waiting key),
      append_assoc]
    refine List.Perm.append_left _ ?_
    have hmiddle := (perm_append_comm_assoc (s.waiting key) [requester]
      (contents (fun _ requesters => requesters) (s.pendingRequests.erase key))).trans
        perm_append_comm
    exact hmiddle.trans (hcontents.symm.append_right _)
  · rw [waiting, hwaiting] at hmem
    split at hmem
    · rename_i heq
      subst heq
      rcases mem_append.mp hmem with hold | hnew
      · exact h.asked other requester' hold
      · rw [mem_singleton.mp hnew]
        exact ⟨command, hcommand, hwaits⟩
    · exact h.asked other requester' hmem
  · rw [waiting, hwaiting] at hne
    simp only
    split at hne
    · rename_i heq
      subst heq
      split
      · exact mem_append_right _ (mem_singleton.mpr rfl)
      · rename_i hbusy
        exact h.fetching other hbusy
    · have hmem := h.fetching other hne
      split
      · exact mem_append_left _ hmem
      · exact hmem

variable {s' : CacheActor δ}

theorem Answers.send {response : Response δ} (h : Answers s s') (command : CacheLookupCommand δ)
    (hcommand : s'.requests[requester]? = some command)
    (hright : Right s'.schemaCache.cache command response) :
    Answers s (s'.send [requester] response) := by
  obtain ⟨new, hnew, hnewRight⟩ := h
  refine ⟨new ++ [(requester, response)], ?_, fun r hr => ?_⟩
  · rw [← append_assoc, ← hnew]
    rfl
  · rcases mem_append.mp hr with hold | hlast
    · exact hnewRight r hold
    · rw [mem_singleton.mp hlast]
      exact ⟨command, hcommand, hright⟩

theorem requests_processWorkerResult (fetched : FetcherResult δ) :
    (s.processWorkerResult same empty (some fetched)).requests = s.requests := by
  cases fetched with
  | error info => rfl
  | ok result => rw [processWorkerResult_ok]; rfl

/-- What is found by the id of a subscription. -/
theorem hit_right {cache : YangLibraryCache δ} {peerIp : IpAddr} {id : Nat}
    (hhit : cache.getBySubscriptionId peerIp id = some (info, ref)) :
    info.key = (peerIp, id) ∧ ref = (cache.getBySubscriptionId peerIp id).bind (·.2) := by
  obtain ⟨info', hlookup, heq⟩ := Option.map_eq_some_iff.mp hhit
  cases heq
  refine ⟨YangLibraryCache.key_of_lookup hlookup, ?_⟩
  rw [hhit]
  rfl

theorem processRequest_spec (same : YangLibrary → YangLibrary → Bool) (h : Invariant empty [] s)
    {started : Bool} {fetched : Option (FetcherResult δ)}
    (hcareful : Careful empty s (.request command started fetched) s') :
    Invariant empty [] (s.processRequest same empty command started fetched) ∧
      Answers s (s.processRequest same empty command started fetched) := by
  have hrequest := h.request command
  have hcommand : (s.requests ++ [command])[s.requests.length]? = some command := by simp
  have hnone : Answers s { s with requests := s.requests ++ [command] } :=
    ⟨[], (append_nil _).symm, fun _ hr => absurd hr not_mem_nil⟩
  unfold processRequest
  simp only
  cases command with
  | bySubscriptionInfo info =>
    simp only
    split
    · rename_i ref hhit
      exact ⟨hrequest.send _, hnone.send _ hcommand ⟨rfl, hhit.symm⟩⟩
    · rename_i hmiss
      obtain ⟨hreal, hstarted⟩ := hcareful hmiss
      exact hrequest.enqueue hcommand ⟨rfl, hreal, hmiss⟩ hstarted
  | bySubscriptionInfoOneShot info =>
    simp only
    split
    · exact ⟨hrequest.send _, hnone.send _ hcommand ⟨rfl, rfl⟩⟩
    · obtain ⟨hinvariant, hanswers, -⟩ :=
        processWorkerResult_spec same hrequest (fetched.getD (.error info))
      refine ⟨hinvariant.send _,
        hanswers.send (.bySubscriptionInfoOneShot info) ?_ ⟨rfl, rfl⟩⟩
      rw [requests_processWorkerResult]
      exact hcommand
  | bySubscriptionId peerIp id =>
    simp only
    split
    · rename_i info ref hhit
      exact ⟨hrequest.send _, hnone.send _ hcommand (hit_right hhit)⟩
    · rename_i hmiss
      refine hrequest.enqueue hcommand ⟨rfl, ?_⟩ (hcareful hmiss)
      exact Option.map_eq_none_iff.mp hmiss
  | bySubscriptionIdOneShot peerIp id =>
    simp only
    split
    · rename_i info ref hhit
      exact ⟨hrequest.send _, hnone.send _ hcommand (hit_right hhit)⟩
    · rename_i hmiss
      exact absurd hmiss hcareful
  | byContentId contentId | byContentIdOneShot contentId =>
    exact ⟨hrequest.send _, hnone.send _ hcommand ⟨rfl, rfl⟩⟩

/-! ## Turns -/

/-- Nobody is cleaned up while all requesters are there. -/
theorem cleanup_spec (h : Invariant empty [] s) {isClosed : Nat → Bool}
    (hopen : ∀ requester, isClosed requester = false) :
    Invariant empty [] (s.cleanupClosedSenders isClosed) ∧
      Answers s (s.cleanupClosedSenders isClosed) := by
  have hall : (List.filter fun requester => !isClosed requester) = id := by
    funext requesters
    exact filter_eq_self.mpr fun requester _ => by simp [hopen]
  have hsame : mapValues (id : List Nat → List Nat) s.pendingRequests = s.pendingRequests :=
    AList.ext (map_id' _)
  have hpending : (s.cleanupClosedSenders isClosed).pendingRequests =
      retain (fun _ senders => !senders.isEmpty) s.pendingRequests := by
    rw [cleanupClosedSenders, hall, hsame]
  have hwaiting (key : SubscriptionInfo δ) :
      (s.cleanupClosedSenders isClosed).waiting key = s.waiting key := by
    rw [waiting, hpending, lookup_retain, waiting]
    cases hlookup : s.pendingRequests.lookup key with
    | none => rfl
    | some senders =>
      rw [Option.filter_some]
      cases senders <;> rfl
  refine ⟨⟨?_, fun key requester hmem => ?_, fun key hne => ?_, h.filed⟩,
    [], (append_nil _).symm, fun _ hr => absurd hr not_mem_nil⟩
  · have hcontents := contents_retain (fun _ requesters => requesters)
      (fun _ senders => !senders.isEmpty) s.pendingRequests
    have hnil : contents (fun _ requesters => requesters)
        (retain (fun _ senders => !!senders.isEmpty) s.pendingRequests) = [] := by
      refine flatMap_eq_nil_iff.mpr fun entry hentry => ?_
      simpa using (mem_filter.mp hentry).2
    rw [hnil, append_nil, ← hpending] at hcontents
    exact ((hcontents.append_left _).append_right _).trans h.accounted
  · rw [hwaiting] at hmem
    exact h.asked key requester hmem
  · rw [hwaiting] at hne
    exact h.fetching key hne

theorem processWorkerResult_withQueue (queue : List (SubscriptionInfo δ))
    (fetched : FetcherResult δ) :
    processWorkerResult same empty { s with workersQueue := queue } (some fetched) =
      { s.processWorkerResult same empty (some fetched) with workersQueue := queue } := by
  cases fetched with
  | error info => rfl
  | ok result =>
    rw [processWorkerResult_ok, processWorkerResult_ok]
    rfl

omit [DecidableEq δ] in
/-- Those who wait for another fetch still do when one has ended. -/
theorem mem_others {queue : List (SubscriptionInfo δ)} {other : SubscriptionInfo δ} {index : Nat}
    (hkey : queue[index]? = some key) (hmem : other ∈ queue) (hne : other ≠ key) :
    other ∈ queue.eraseIdx index := by
  obtain ⟨i, hi⟩ := mem_iff_getElem?.mp hmem
  refine mem_eraseIdx_iff_getElem?.mpr ⟨i, fun heq => hne ?_, hi⟩
  rw [heq, hkey] at hi
  exact (Option.some.inj hi).symm

theorem Invariant.step (h : Invariant empty [] s) {event : Event δ}
    (hstep : s.step same empty event = some s') (hcareful : Careful empty s event s') :
    Invariant empty [] s' ∧ Responds s event s' := by
  cases event with
  | request command started fetched =>
    cases hstep
    obtain ⟨hinvariant, hanswers⟩ := processRequest_spec same h hcareful
    exact ⟨hinvariant, hanswers, trivial⟩
  | cleanup isClosed =>
    cases hstep
    obtain ⟨hinvariant, hanswers⟩ := cleanup_spec h hcareful
    exact ⟨hinvariant, hanswers, trivial⟩
  | worker index result =>
    unfold CacheActor.step at hstep
    simp only at hstep
    split at hstep
    · rename_i hlt
      have hkey : s.workersQueue[index]? = some (s.workersQueue.get ⟨index, hlt⟩) :=
        getElem?_eq_getElem hlt
      generalize s.workersQueue.get ⟨index, hlt⟩ = key at hkey
      cases result with
      | none =>
        have hnone : s.waiting key = [] := by
          by_contra hne
          obtain ⟨_, ⟨⟩, -⟩ := hcareful key hkey hne
        cases hstep
        refine ⟨⟨h.accounted, h.asked, fun other hne => ?_, h.filed⟩,
          ⟨[], (append_nil _).symm, nofun⟩, fun key' hkey' => ?_⟩
        · refine mem_others hkey (h.fetching other hne) ?_
          rintro rfl
          exact hne hnone
        · rw [hkey] at hkey'
          cases hkey'
          rw [hnone]
          exact nofun
      | some fetched =>
        have hserves : Serves empty key fetched ∨ s.waiting key = [] := by
          refine or_iff_not_imp_right.mpr fun hne => ?_
          obtain ⟨_, ⟨⟩, hserves⟩ := hcareful key hkey hne
          exact hserves
        obtain ⟨hinvariant, hanswers, hserved⟩ := processWorkerResult_spec same h fetched
        have hqueue := @processWorkerResult_withQueue _ _ same empty s s.workersQueue fetched
        rw [processWorkerResult_withQueue] at hstep
        cases hstep
        refine ⟨⟨hinvariant.accounted, hinvariant.asked, fun other hne => ?_, hinvariant.filed⟩,
          hanswers, fun key' hkey' => ?_⟩
        · have hfetching := hinvariant.fetching other hne
          rw [hqueue] at hfetching
          refine mem_others hkey hfetching ?_
          rintro rfl
          exact hne (hserved other hserves).1
        · rw [hkey] at hkey'
          cases hkey'
          exact (hserved key hserves).2
    · cases hstep

/-- In a run of careful turns all responses are right, the end of a fetch answers all who wait for
it, and a lookup has one response unless it waits for a fetch that is still running. -/
theorem answers_every_lookup (same : YangLibrary → YangLibrary → Bool) (empty : δ) (store : Store δ)
    (events : List (Event δ)) (hfiled : Filed store.cache)
    (hcareful : Stepwise.Along (step same empty) (Careful empty) (new store) events) :
    Stepwise.Along (step same empty) Responds (new store) events ∧
      ∀ s, Stepwise.run (step same empty) (new store) events = some s →
        ∀ requester < s.requests.length,
          (s.responses.map (·.1)).count requester = 1 ∨
            (s.responses.map (·.1)).count requester = 0 ∧
              ∃ key ∈ s.workersQueue, requester ∈ s.waiting key := by
  constructor
  · apply Stepwise.along_of_along (Invariant empty []) _ (invariant_new hfiled) hcareful
    exact fun _ _ _ h hstep hgood => h.step hstep hgood
  · intro s hrun requester hlt
    have h : Invariant empty [] s :=
      Stepwise.run_keeps (Invariant empty []) (fun _ _ _ h hstep hgood => (h.step hstep hgood).1)
        (invariant_new hfiled) hrun hcareful
    have haccounted := h.accounted
    rw [append_nil] at haccounted
    have hcount := haccounted.count_eq requester
    rw [count_append, nodup_range.count, if_pos (mem_range.mpr hlt)] at hcount
    rcases Nat.eq_zero_or_pos (s.allWaiting.count requester) with hzero | hpos
    · exact .inl (by omega)
    · obtain ⟨key, hmem⟩ := mem_allWaiting.mp (count_pos_iff.mp hpos)
      exact .inr ⟨by omega, key, h.fetching key (ne_nil_of_mem hmem), hmem⟩

theorem filed_new : Filed (YangLibraryCache.new : YangLibraryCache δ) :=
  fun _ h => nomatch h

/-- A lookup that misses, and the end of its fetch. -/
theorem fetched_lookup_answered :
    ∃ s, Stepwise.run (step (fun _ _ => true) ()) (new ⟨YangLibraryCache.new, ∅⟩)
        [.request (.bySubscriptionInfo (subscription 7 "reported")) true none,
          .worker 0 (some (.ok (subscription 7 "reported", emptyLibrary "fetched", ∅)))] = some s ∧
      ((s.responses.map (·.1)).count 0 = 1 ∨ (s.responses.map (·.1)).count 0 = 0 ∧
        ∃ key ∈ s.workersQueue, 0 ∈ s.waiting key) := by
  refine ⟨_, rfl, (answers_every_lookup (fun _ _ => true) () ⟨YangLibraryCache.new, ∅⟩
    [.request (.bySubscriptionInfo (subscription 7 "reported")) true none,
      .worker 0 (some (.ok (subscription 7 "reported", emptyLibrary "fetched", ∅)))]
    filed_new ?_).2 _ rfl 0 (by decide)⟩
  rintro s₁ ⟨⟩
  refine ⟨fun _ => ⟨by decide, fun _ => rfl⟩, ?_⟩
  rintro s₂ ⟨⟩
  refine ⟨?_, trivial⟩
  rintro key ⟨⟩ -
  exact ⟨_, rfl, .inl rfl⟩

/-- A one-shot lookup by id that misses is not answered, although the library has been fetched and
stored. -/
theorem one_shot_by_id_unanswered :
    ∃ s, Stepwise.run (step (fun _ _ => true) ()) (new ⟨YangLibraryCache.new, ∅⟩)
        [.request (.bySubscriptionIdOneShot (.v4 0) 7) true
          (some (.ok (subscription 7 "reported", emptyLibrary "fetched", ∅)))] = some s ∧
      (s.schemaCache.cache.getBySubscriptionId (.v4 0) 7).isSome ∧
      s.requests.length = 1 ∧ s.workersQueue = [] ∧
      (s.responses.map (·.1)).count 0 = 0 :=
  ⟨_, rfl, rfl, rfl, rfl, rfl⟩

end CacheActor

end NetCalyx.YangPush
