import NetCalyx.YangPush.Storage

/-!
# The cache actor

The actor answers lookups of YANG libraries from its cache. On a miss it has the library fetched
from the device; the requesters wait meanwhile, in `pendingRequests`, under the subscription that
is being fetched. All that wait for the same subscription share one fetch. A lookup by the id of
a subscription waits under a placeholder for it. A one-shot lookup waits for its own fetch, and
the actor with it.

Requesters are known by the numbers of their lookups. How fetches end is not up to the actor: a
fetch may not start in time, it may fail, and its worker may panic.
-/

namespace NetCalyx.YangPush
open Collections Netconf Wire

variable {δ : Type}

inductive CacheLookupCommand (δ : Type) where
  | bySubscriptionInfo (info : SubscriptionInfo δ)
  | bySubscriptionInfoOneShot (info : SubscriptionInfo δ)
  | bySubscriptionId (peerIp : IpAddr) (id : Nat)
  | bySubscriptionIdOneShot (peerIp : IpAddr) (id : Nat)
  | byContentId (contentId : String)
  | byContentIdOneShot (contentId : String)

structure CacheResponse (δ : Type) where
  cachedContentId : Option String
  subscriptionInfo : SubscriptionInfo δ
  yangLibRef : Option YangLibraryReference

inductive Response (δ : Type) where
  | subscription (response : CacheResponse δ)
  | content (contentId : String) (yangLibRef : Option YangLibraryReference)

def Response.ofRef (info : SubscriptionInfo δ) (ref : Option YangLibraryReference) : Response δ :=
  .subscription ⟨ref.map (·.contentId), info, ref⟩

/-- The subscription that was fetched, with its library and the texts of the modules, or the one
that could not be fetched. -/
abbrev FetcherResult (δ : Type) :=
  Except (SubscriptionInfo δ) (SubscriptionInfo δ × YangLibrary × Map String String)

/-- The state of the actor, with the lookups it has received and the responses it has sent. A
worker is known by the subscription that it was started for. -/
structure CacheActor (δ : Type) where
  schemaCache : Store δ
  pendingRequests : Map (SubscriptionInfo δ) (List Nat)
  workersQueue : List (SubscriptionInfo δ)
  requests : List (CacheLookupCommand δ)
  responses : List (Nat × Response δ)

namespace CacheActor

def new (store : Store δ) : CacheActor δ := ⟨store, ∅, [], [], []⟩

variable [DecidableEq δ] (same : YangLibrary → YangLibrary → Bool) (empty : δ) (s : CacheActor δ)

/-- Those who wait for a subscription. -/
def waiting (key : SubscriptionInfo δ) : List Nat := (s.pendingRequests.lookup key).getD []

def send (requesters : List Nat) (response : Response δ) : CacheActor δ :=
  { s with responses := s.responses ++ requesters.map (·, response) }

/-- The reference to a library that could be stored, and the store. -/
def stored (store : Store δ) (info : SubscriptionInfo δ) (lib : YangLibrary)
    (schemas : Map String String) : Option YangLibraryReference × Store δ :=
  match store.putYangLibrary same info lib schemas with
  | .ok (ref, store) => (some ref, store)
  | .error _ => (none, store)

/-- A worker that panicked has no result; whoever waits for it is left to wait. -/
def processWorkerResult : Option (FetcherResult δ) → CacheActor δ
  | none => s
  | some (.error info) =>
    { s with pendingRequests := s.pendingRequests.erase info }.send (s.waiting info)
      (.ofRef info none)
  | some (.ok (info, lib, schemas)) =>
    let (ref, store) := stored same s.schemaCache info lib schemas
    let placeholder := SubscriptionInfo.newEmpty empty info.peerIp info.id
    let pending := s.pendingRequests.erase info
    let senders := s.waiting info ++ (pending.lookup placeholder).getD []
    { s with schemaCache := store, pendingRequests := pending.erase placeholder }.send senders
      (.ofRef info ref)

/-- The first requester starts a fetch. If it does not start in time, the requester is dropped. -/
def enqueue (key : SubscriptionInfo δ) (requester : Nat) (started : Bool) : CacheActor δ :=
  let entry := s.waiting key
  let pending := s.pendingRequests.insert key (entry ++ [requester])
  if entry.isEmpty then
    if started then { s with pendingRequests := pending, workersQueue := s.workersQueue ++ [key] }
    else { s with pendingRequests := pending.erase key }
  else { s with pendingRequests := pending }

/-- `started` is whether a fetch starts in time, and `fetched` what a one-shot fetch gives if it
ends in time. -/
def processRequest (command : CacheLookupCommand δ) (started : Bool)
    (fetched : Option (FetcherResult δ)) : CacheActor δ :=
  let requester := s.requests.length
  let s := { s with requests := s.requests ++ [command] }
  match command with
  | .bySubscriptionInfo info =>
    match s.schemaCache.cache.getBySubscriptionInfo info with
    | some ref => s.send [requester] (.ofRef info (some ref))
    | none => s.enqueue info requester started
  | .bySubscriptionInfoOneShot info =>
    let s :=
      match s.schemaCache.cache.getBySubscriptionInfo info with
      | some _ => s
      | none => s.processWorkerResult same empty (some (fetched.getD (.error info)))
    s.send [requester] (.ofRef info (s.schemaCache.cache.getBySubscriptionInfo info))
  | .bySubscriptionId peerIp id =>
    match s.schemaCache.cache.getBySubscriptionId peerIp id with
    | some (info, ref) => s.send [requester] (.ofRef info ref)
    | none => s.enqueue (.newEmpty empty peerIp id) requester started
  | .bySubscriptionIdOneShot peerIp id =>
    match s.schemaCache.cache.getBySubscriptionId peerIp id with
    | some (info, ref) => s.send [requester] (.ofRef info ref)
    | none =>
      s.processWorkerResult same empty (some (fetched.getD (.error (.newEmpty empty peerIp id))))
  | .byContentId contentId | .byContentIdOneShot contentId =>
    s.send [requester] (.content contentId (s.schemaCache.cache.getByContentId contentId))

def cleanupClosedSenders (isClosed : Nat → Bool) : CacheActor δ :=
  { s with
    pendingRequests := retain (fun _ senders => !senders.isEmpty)
      (mapValues (List.filter fun requester => !isClosed requester) s.pendingRequests) }

inductive Event (δ : Type) where
  | request (command : CacheLookupCommand δ) (started : Bool) (fetched : Option (FetcherResult δ))
  | worker (index : Nat) (result : Option (FetcherResult δ))
  | cleanup (isClosed : Nat → Bool)

/-- A turn of the loop: a lookup, the end of one of the workers, or a cleanup. -/
def step : Event δ → Option (CacheActor δ)
  | .request command started fetched =>
    some (s.processRequest same empty command started fetched)
  | .worker index result =>
    if index < s.workersQueue.length then
      some ({ s with workersQueue := s.workersQueue.eraseIdx index }.processWorkerResult same empty
        result)
    else none
  | .cleanup isClosed => some (s.cleanupClosedSenders isClosed)

end CacheActor

end NetCalyx.YangPush
