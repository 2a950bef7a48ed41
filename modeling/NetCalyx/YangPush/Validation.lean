import NetCalyx.YangPush.CacheActor

/-!
# The validation actor

Packets of YANG-Push subscriptions come in and are sent on to the next actor. The first packet of
a subscription makes the actor ask the cache for the YANG library. Until the cache responds, the
packets of the subscription are held in a buffer; then they go to a queue, `pendingPackets`, and
are handled once more. A packet is dropped when it cannot be decoded or validated, when it says
too little, or when a buffer is full.

The loop takes a response of the cache first, then a packet of the queue, and a new packet only
when the queue is empty. The actor stops when one of its channels is closed; a step that stops it
has no next state.

What packets say, how they are validated and how the context for that is loaded are parameters.
-/

namespace NetCalyx.YangPush
open Collections Wire

/-! ## Packets -/

/-- The contents of a notification. One that tells of a subscription that was started or modified
has the content id and the rest of the subscription if it gives the versions of the modules. -/
inductive NotificationVariant (δ : Type) where
  | subscriptionStartedModified (id : Nat) (info : Option (String × δ))
  | other (id : Nat)

namespace NotificationVariant

variable {δ : Type}

def subscriptionId : NotificationVariant δ → Nat
  | subscriptionStartedModified id _ | other id => id

def isStartedModified : NotificationVariant δ → Bool
  | subscriptionStartedModified _ _ => true
  | other _ => false

end NotificationVariant

/-- The limits of the buffers, and the code that the actor calls. A packet that can be decoded
need not have contents. -/
structure Environment (δ γ μ : Type) where
  peer : μ → IpAddr
  decode : μ → Option (Option (NotificationVariant δ))
  context : YangLibraryReference → Option γ
  validates : γ → μ → Bool
  empty : δ
  maxBufferedPacketsPerSubscription : Nat
  maxBufferedPacketsPerPeer : Nat

inductive DropReason where
  | decodeError
  | bufferFullSubscription
  | bufferFullPeer
  | validationFailed
  | incompleteSubscriptionStarted
  | noSubscriptionId

structure ValidatedNotification (δ μ : Type) where
  cachedContentId : Option String
  subscriptionInfo : SubscriptionInfo δ
  packet : μ

variable {δ γ μ : Type}

/-! ## Subscriptions -/

structure CachedSubscription (δ γ μ : Type) where
  cachedContentId : Option String
  subscriptionInfo : SubscriptionInfo δ
  yangCtx : Option γ
  bufferedPackets : List μ
  schemaFetchPending : Bool

def CachedSubscription.new (info : SubscriptionInfo δ) : CachedSubscription δ γ μ :=
  ⟨none, info, none, [], false⟩

abbrev Subscriptions (δ γ μ : Type) := Map Nat (CachedSubscription δ γ μ)

namespace Subscriptions

variable (subscriptions : Subscriptions δ γ μ) (id : Nat)

/-- The packets of all buffers. -/
def held : List μ := contents (fun _ s => s.bufferedPackets) subscriptions

def buffer : List μ := ((subscriptions.lookup id).map (·.bufferedPackets)).getD []

theorem held_erase : (held subscriptions).Perm (buffer subscriptions id ++
    held (subscriptions.erase id)) :=
  contents_erase _ subscriptions id

theorem held_insert (s : CachedSubscription δ γ μ) :
    held (subscriptions.insert id s) = s.bufferedPackets ++ held (subscriptions.erase id) :=
  contents_insert _ subscriptions id s

end Subscriptions

/-- The subscriptions of a device, and how many packets their buffers hold. -/
structure CachedPeerSubscriptions (δ γ μ : Type) where
  subscriptions : Subscriptions δ γ μ
  totalBuffered : Nat
  counted : totalBuffered = subscriptions.held.length

namespace CachedPeerSubscriptions

variable (p : CachedPeerSubscriptions δ γ μ)

def default : CachedPeerSubscriptions δ γ μ := ⟨∅, 0, rfl⟩

theorem counted_erase (id : Nat) :
    p.totalBuffered = (p.subscriptions.buffer id).length +
      (Subscriptions.held (p.subscriptions.erase id)).length := by
  rw [p.counted, (p.subscriptions.held_erase id).length_eq, List.length_append]

/-- Another subscription under an id, with the new number of packets. -/
def put (id : Nat) (s : CachedSubscription δ γ μ) (total : Nat)
    (htotal : total + (p.subscriptions.buffer id).length =
      p.totalBuffered + s.bufferedPackets.length) : CachedPeerSubscriptions δ γ μ where
  subscriptions := p.subscriptions.insert id s
  totalBuffered := total
  counted := by
    have hbefore := p.counted_erase id
    rw [Subscriptions.held_insert, List.length_append]
    omega

def remove (id : Nat) : CachedPeerSubscriptions δ γ μ where
  subscriptions := p.subscriptions.erase id
  totalBuffered := p.totalBuffered - (p.subscriptions.buffer id).length
  counted := by
    have hbefore := p.counted_erase id
    omega

variable (info : SubscriptionInfo δ)

/-- The subscription, or else a new one. -/
def orNew : CachedSubscription δ γ μ :=
  (p.subscriptions.lookup info.id).getD (.new info)

theorem orNew_bufferedPackets :
    (p.orNew info).bufferedPackets = p.subscriptions.buffer info.id := by
  rw [orNew, Subscriptions.buffer]
  cases p.subscriptions.lookup info.id <;> rfl

def orInsert : CachedPeerSubscriptions δ γ μ :=
  p.put info.id (p.orNew info) p.totalBuffered (by rw [orNew_bufferedPackets])

def markPending : CachedPeerSubscriptions δ γ μ :=
  p.put info.id { p.orNew info with schemaFetchPending := true } p.totalBuffered
    (by rw [orNew_bufferedPackets])

def push (packet : μ) : CachedPeerSubscriptions δ γ μ :=
  p.put info.id
    { p.orNew info with bufferedPackets := (p.orNew info).bufferedPackets ++ [packet] }
    (p.totalBuffered + 1) (by
      rw [List.length_append, orNew_bufferedPackets, List.length_singleton]
      omega)

/-- The subscription as the cache knows it, with its buffer taken away. -/
def resolve (cachedContentId : Option String) (yangCtx : Option γ) :
    CachedPeerSubscriptions δ γ μ :=
  p.put info.id ⟨cachedContentId, info, yangCtx, [], false⟩
    (p.totalBuffered - (p.subscriptions.buffer info.id).length) (by
      have hbefore := p.counted_erase info.id
      rw [List.length_nil]
      omega)

end CachedPeerSubscriptions

abbrev PeerCache (δ γ μ : Type) := Map IpAddr (CachedPeerSubscriptions δ γ μ)

namespace PeerCache

variable (cache : PeerCache δ γ μ) (peer : IpAddr)

def find (id : Nat) : Option (CachedSubscription δ γ μ) :=
  (cache.lookup peer).bind (·.subscriptions.lookup id)

def orDefault : CachedPeerSubscriptions δ γ μ := (cache.lookup peer).getD .default

variable [DecidableEq δ]

/-- A subscription that has changed is removed, and the device with its last subscription. -/
def checkSubscriptionNew (info : SubscriptionInfo δ) : PeerCache δ γ μ :=
  match cache.lookup peer with
  | none => cache
  | some p =>
    if (p.subscriptions.lookup info.id).map (·.subscriptionInfo) = some info then cache
    else if (p.remove info.id).subscriptions.entries.isEmpty then cache.erase peer
    else cache.insert peer (p.remove info.id)

/-- What is known of a subscription: nothing, or the content id of its library if it has one. -/
def cachedContentId (id : Nat) (info : SubscriptionInfo δ) : Option (Option String) :=
  ((cache.find peer id).filter (·.subscriptionInfo = info)).map (·.cachedContentId)

def buildSubscriptionInfo (id : Nat) (built : Option (String × δ)) : Option (SubscriptionInfo δ) :=
  built.map fun (contentId, details) => ⟨peer, id, contentId, details⟩

/-- The subscription that a notification tells of, or the one with its id. -/
def getSubscriptionInfo : Option (NotificationVariant δ) →
    Option (SubscriptionInfo δ × Option (Option String)) × PeerCache δ γ μ
  | none => (none, cache)
  | some (.subscriptionStartedModified id built) =>
    match buildSubscriptionInfo peer id built with
    | none => (none, cache)
    | some info =>
      let cache := cache.checkSubscriptionNew peer info
      (some (info, cache.cachedContentId peer id info), cache)
  | some (.other id) =>
    match cache.find peer id with
    | none => (none, cache)
    | some s =>
      (some (s.subscriptionInfo, cache.cachedContentId peer id s.subscriptionInfo), cache)

end PeerCache

/-! ## The actor -/

/-- The state of the actor, with what it has received, asked for, sent and dropped. -/
structure ValidationActor (δ γ μ : Type) where
  peerCache : PeerCache δ γ μ
  pendingPackets : List μ
  lookups : List (CacheLookupCommand δ)
  received : List μ
  forwarded : List (ValidatedNotification δ μ)
  dropped : List (μ × DropReason)

/-- Whether the channels to the cache and to the next actor are open. -/
structure Channels where
  cache : Bool
  next : Bool

namespace ValidationActor

variable (env : Environment δ γ μ) (a : ValidationActor δ γ μ)

def new : ValidationActor δ γ μ := ⟨∅, [], [], [], [], []⟩

def drop (packet : μ) (reason : DropReason) : ValidationActor δ γ μ :=
  { a with dropped := a.dropped ++ [(packet, reason)] }

def bufferPacket (info : SubscriptionInfo δ) (packet : μ) : ValidationActor δ γ μ :=
  let peer := env.peer packet
  let p := a.peerCache.orDefault peer
  if env.maxBufferedPacketsPerSubscription ≤ (p.subscriptions.buffer info.id).length then
    { a with peerCache := a.peerCache.insert peer p }.drop packet .bufferFullSubscription
  else if env.maxBufferedPacketsPerPeer ≤ p.totalBuffered then
    { a with peerCache := a.peerCache.insert peer p }.drop packet .bufferFullPeer
  else { a with peerCache := a.peerCache.insert peer (p.push info packet) }

variable (channels : Channels)

/-- Asks the cache for the library of a subscription and buffers the packet. -/
def requestSchemas (info : SubscriptionInfo δ) (lookup : CacheLookupCommand δ) (packet : μ) :
    Option (ValidationActor δ γ μ) :=
  let peer := env.peer packet
  if channels.cache then
    some ({ a with
      peerCache := a.peerCache.insert peer ((a.peerCache.orDefault peer).markPending info)
      lookups := a.lookups ++ [lookup] }.bufferPacket env info packet)
  else none

variable [DecidableEq δ]

/-- The subscription of a packet that can be handled now. Any other packet is buffered or dropped
here. -/
def extractSubscriptionInfo (packet : μ) (notification : Option (NotificationVariant δ)) :
    Option (Option (SubscriptionInfo δ) × ValidationActor δ γ μ) :=
  let peer := env.peer packet
  let inFlight := (notification.filter (·.isStartedModified)).bind fun n =>
    (a.peerCache.find peer n.subscriptionId).filter (·.schemaFetchPending)
  match inFlight with
  | some s => some (none, a.bufferPacket env s.subscriptionInfo packet)
  | none =>
    match a.peerCache.getSubscriptionInfo peer notification with
    | (some (info, known), cache) =>
      let a := { a with peerCache := cache }
      match known with
      | some (some _) => some (some info, a)
      | some none =>
        if ((cache.find peer info.id).map (·.schemaFetchPending)).getD false then
          some (none, a.bufferPacket env info packet)
        else some (some info, a)
      | none =>
        (a.requestSchemas env channels info (.bySubscriptionInfo info) packet).map (none, ·)
    | (none, cache) =>
      let a := { a with peerCache := cache }
      match notification with
      | some (.subscriptionStartedModified _ _) =>
        some (none, a.drop packet .incompleteSubscriptionStarted)
      | some (.other id) =>
        (a.requestSchemas env channels (.newEmpty env.empty peer id)
          (.bySubscriptionId peer id) packet).map (none, ·)
      | none => some (none, a.drop packet .noSubscriptionId)

/-- The content id of the library that a packet is valid for, `none` if there is nothing to
validate it with; no result if it is not valid. -/
def validateMessage (s : CachedSubscription δ γ μ) (info : SubscriptionInfo δ) (packet : μ) :
    Option (Option String) :=
  match s.cachedContentId, s.yangCtx with
  | some contentId, some ctx =>
    if info.isEmpty then some none
    else if env.validates ctx packet then some (some contentId)
    else none
  | _, _ => some none

def processUdpNotifMsg (packet : μ) : Option (ValidationActor δ γ μ) :=
  match env.decode packet with
  | none => some (a.drop packet .decodeError)
  | some notification =>
    match a.extractSubscriptionInfo env channels packet notification with
    | none => none
    | some (none, a) => some a
    | some (some info, a) =>
      let peer := env.peer packet
      let p := a.peerCache.orDefault peer
      let a := { a with peerCache := a.peerCache.insert peer (p.orInsert info) }
      match validateMessage env (p.orNew info) info packet with
      | none => some (a.drop packet .validationFailed)
      | some contentId =>
        if channels.next then
          some { a with forwarded := a.forwarded ++ [⟨contentId, info, packet⟩] }
        else none

/-- A response for a subscription that is not there is ignored. -/
def processCacheResponse (response : CacheResponse δ) : ValidationActor δ γ μ :=
  let info := response.subscriptionInfo
  match a.peerCache.lookup info.peerIp with
  | none => a
  | some p =>
    match p.subscriptions.lookup info.id with
    | none => a
    | some s =>
      let resolved :=
        match response.yangLibRef with
        | some ref => p.resolve info response.cachedContentId (env.context ref)
        | none => p.resolve info none none
      { a with
        peerCache := a.peerCache.insert info.peerIp resolved
        pendingPackets := a.pendingPackets ++ s.bufferedPackets }

inductive Event (δ μ : Type) where
  | response (response : CacheResponse δ)
  | pending (channels : Channels)
  | packet (packet : μ) (channels : Channels)

end ValidationActor

/-- A turn of the loop. -/
def ValidationActor.step [DecidableEq δ] (env : Environment δ γ μ) (a : ValidationActor δ γ μ) :
    Event δ μ → Option (ValidationActor δ γ μ)
  | .response response => some (a.processCacheResponse env response)
  | .pending channels =>
    match a.pendingPackets with
    | [] => none
    | packet :: rest =>
      { a with pendingPackets := rest }.processUdpNotifMsg env channels packet
  | .packet packet channels =>
    if a.pendingPackets.isEmpty then
      { a with received := a.received ++ [packet] }.processUdpNotifMsg env channels packet
    else none

end NetCalyx.YangPush
