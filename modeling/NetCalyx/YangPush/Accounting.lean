import NetCalyx.YangPush.Delivery

/-!
# What the buffers of the validation actor hold

A device is counted as having as many packets as its subscriptions have. The count is carried
along by every handler, and it is right by construction: `CachedPeerSubscriptions` cannot be built
with another one. What is left are the limits. `Fits` holds of a device without subscriptions, and
every change of a device keeps it; a packet is pushed only where there is room for it.
-/

namespace NetCalyx.YangPush
open Collections Wire PeerCache

variable {δ γ μ : Type} {env : Environment δ γ μ}

/-! ## One device -/

namespace CachedPeerSubscriptions

variable {p : CachedPeerSubscriptions δ γ μ}

/-- The buffers of a device are within their limits. -/
structure Fits (env : Environment δ γ μ) (p : CachedPeerSubscriptions δ γ μ) : Prop where
  peer : p.totalBuffered ≤ env.maxBufferedPacketsPerPeer
  subscription : ∀ id, (p.subscriptions.buffer id).length ≤ env.maxBufferedPacketsPerSubscription

theorem fits_default : Fits env (default : CachedPeerSubscriptions δ γ μ) :=
  ⟨Nat.zero_le _, fun _ => Nat.zero_le _⟩

variable (h : Fits env p)
include h

theorem Fits.put {id : Nat} {s : CachedSubscription δ γ μ} {total : Nat}
    {htotal : total + (p.subscriptions.buffer id).length = p.totalBuffered + s.bufferedPackets.length}
    (hpeer : total ≤ env.maxBufferedPacketsPerPeer)
    (hs : s.bufferedPackets.length ≤ env.maxBufferedPacketsPerSubscription) :
    Fits env (p.put id s total htotal) := by
  refine ⟨hpeer, fun id' => ?_⟩
  rw [CachedPeerSubscriptions.put, Subscriptions.buffer, lookup_insert_ite]
  split
  · exact hs
  · exact h.subscription id'

variable (info : SubscriptionInfo δ)

theorem Fits.orNew :
    (p.orNew info).bufferedPackets.length ≤ env.maxBufferedPacketsPerSubscription := by
  rw [orNew_bufferedPackets]
  exact h.subscription info.id

theorem Fits.orInsert : Fits env (p.orInsert info) :=
  h.put h.peer (h.orNew info)

theorem Fits.markPending : Fits env (p.markPending info) :=
  h.put h.peer (h.orNew info)

/-- A packet is pushed where there is room. -/
theorem Fits.push {info : SubscriptionInfo δ} {packet : μ}
    (hroom : (p.subscriptions.buffer info.id).length < env.maxBufferedPacketsPerSubscription)
    (hpeer : p.totalBuffered < env.maxBufferedPacketsPerPeer) : Fits env (p.push info packet) := by
  apply h.put hpeer
  rw [List.length_append, orNew_bufferedPackets]
  exact hroom

theorem Fits.resolve (cachedContentId : Option String) (yangCtx : Option γ) :
    Fits env (p.resolve info cachedContentId yangCtx) :=
  h.put ((Nat.sub_le _ _).trans h.peer) (Nat.zero_le _)

theorem Fits.remove (id : Nat) : Fits env (p.remove id) := by
  refine ⟨(Nat.sub_le _ _).trans h.peer, fun id' => ?_⟩
  rw [CachedPeerSubscriptions.remove, Subscriptions.buffer, lookup_erase_ite]
  split
  · exact Nat.zero_le _
  · exact h.subscription id'

end CachedPeerSubscriptions

/-! ## All devices -/

/-- The buffers of every device are within their limits. -/
def PeerCache.Within (env : Environment δ γ μ) (cache : PeerCache δ γ μ) : Prop :=
  ∀ peer p, cache.lookup peer = some p → p.Fits env

namespace PeerCache

variable {cache : PeerCache δ γ μ} {peer : IpAddr} {p : CachedPeerSubscriptions δ γ μ}

theorem Within.orDefault (h : Within env cache) (peer : IpAddr) :
    (cache.orDefault peer).Fits env := by
  rw [PeerCache.orDefault]
  cases hlookup : cache.lookup peer with
  | none => exact CachedPeerSubscriptions.fits_default
  | some p => exact h peer p hlookup

theorem Within.insert (h : Within env cache) (hp : p.Fits env) :
    Within env (cache.insert peer p) := by
  intro peer' p' hlookup
  rw [lookup_insert_ite] at hlookup
  split at hlookup
  · exact Option.some.inj hlookup ▸ hp
  · exact h peer' p' hlookup

theorem Within.erase (h : Within env cache) (peer : IpAddr) : Within env (cache.erase peer) := by
  intro peer' p' hlookup
  rw [lookup_erase_ite] at hlookup
  split at hlookup
  · cases hlookup
  · exact h peer' p' hlookup

variable [DecidableEq δ]

theorem Within.checkSubscriptionNew (h : Within env cache) (peer : IpAddr)
    (info : SubscriptionInfo δ) : Within env (cache.checkSubscriptionNew peer info) := by
  unfold PeerCache.checkSubscriptionNew
  split
  · exact h
  · rename_i p hlookup
    split
    · exact h
    · split
      · exact h.erase peer
      · exact h.insert ((h peer p hlookup).remove info.id)

theorem Within.getSubscriptionInfo (h : Within env cache) (peer : IpAddr)
    (notification : Option (NotificationVariant δ)) :
    Within env (cache.getSubscriptionInfo peer notification).2 := by
  unfold PeerCache.getSubscriptionInfo
  split
  · exact h
  · split
    · exact h
    · exact h.checkSubscriptionNew peer _
  · split <;> exact h

end PeerCache

/-! ## The actor -/

namespace ValidationActor

variable {a a' : ValidationActor δ γ μ} {packet : μ} {channels : Channels}

theorem within_bufferPacket (h : Within env a.peerCache) (info : SubscriptionInfo δ) (packet : μ) :
    Within env (a.bufferPacket env info packet).peerCache := by
  have hp := h.orDefault (env.peer packet)
  unfold bufferPacket
  dsimp only
  split
  · exact h.insert hp
  · rename_i hroom
    split
    · exact h.insert hp
    · rename_i hpeer
      exact h.insert (hp.push (Nat.not_le.mp hroom) (Nat.not_le.mp hpeer))

theorem within_requestSchemas (h : Within env a.peerCache) {info : SubscriptionInfo δ}
    {lookup : CacheLookupCommand δ}
    (hstep : a.requestSchemas env channels info lookup packet = some a') :
    Within env a'.peerCache := by
  unfold requestSchemas at hstep
  dsimp only at hstep
  split at hstep
  · cases hstep
    exact within_bufferPacket (h.insert ((h.orDefault _).markPending info)) info packet
  · cases hstep

variable [DecidableEq δ]
variable (h : Within env a.peerCache)
include h

theorem within_extractSubscriptionInfo {notification : Option (NotificationVariant δ)}
    {found : Option (SubscriptionInfo δ)}
    (hstep : a.extractSubscriptionInfo env channels packet notification = some (found, a')) :
    Within env a'.peerCache := by
  have hcache := h.getSubscriptionInfo (env.peer packet) notification
  unfold extractSubscriptionInfo at hstep
  dsimp only at hstep
  split at hstep
  · cases hstep
    exact within_bufferPacket h _ packet
  · split at hstep
    · rename_i info known cache hinfo
      rw [hinfo] at hcache
      split at hstep
      · cases hstep
        exact hcache
      · split at hstep
        · cases hstep
          exact within_bufferPacket hcache info packet
        · cases hstep
          exact hcache
      · obtain ⟨_, hrequest, heq⟩ := Option.map_eq_some_iff.mp hstep
        cases heq
        exact within_requestSchemas hcache hrequest
    · rename_i cache hinfo
      rw [hinfo] at hcache
      split at hstep
      · cases hstep
        exact hcache
      · obtain ⟨_, hrequest, heq⟩ := Option.map_eq_some_iff.mp hstep
        cases heq
        exact within_requestSchemas hcache hrequest
      · cases hstep
        exact hcache

theorem within_processUdpNotifMsg (hstep : a.processUdpNotifMsg env channels packet = some a') :
    Within env a'.peerCache := by
  unfold processUdpNotifMsg at hstep
  split at hstep
  · cases hstep
    exact h
  · split at hstep
    · cases hstep
    · rename_i hextract
      cases hstep
      exact within_extractSubscriptionInfo h hextract
    · rename_i info a₁ hextract
      have hcache := within_extractSubscriptionInfo h hextract
      have hinsert : Within env (AList.insert (env.peer packet) _ a₁.peerCache) :=
        hcache.insert ((hcache.orDefault (env.peer packet)).orInsert info)
      dsimp only at hstep
      split at hstep
      · cases hstep
        exact hinsert
      · split at hstep
        · cases hstep
          exact hinsert
        · cases hstep

omit [DecidableEq δ] in
theorem within_processCacheResponse (response : CacheResponse δ) :
    Within env (a.processCacheResponse env response).peerCache := by
  unfold processCacheResponse
  dsimp only
  split
  · exact h
  · rename_i p hlookup
    have hp := h _ p hlookup
    split
    · exact h
    · split
      · exact h.insert (hp.resolve ..)
      · exact h.insert (hp.resolve ..)

theorem within_step {event : Event δ μ} (hstep : a.step env event = some a') :
    Within env a'.peerCache := by
  cases event with
  | response response =>
    cases hstep
    exact within_processCacheResponse h response
  | pending channels =>
    unfold step at hstep
    dsimp only at hstep
    split at hstep
    · cases hstep
    · refine within_processUdpNotifMsg ?_ hstep
      exact h
  | packet packet channels =>
    unfold step at hstep
    dsimp only at hstep
    split at hstep
    · refine within_processUdpNotifMsg ?_ hstep
      exact h
    · cases hstep

omit h

/-- What is to hold of a device. The two places that subtract from the count take off the
length of a buffer, and the count is never less. -/
structure Accounted (env : Environment δ γ μ) (p : CachedPeerSubscriptions δ γ μ) : Prop where
  sum : p.totalBuffered =
    (p.subscriptions.entries.map fun entry => entry.2.bufferedPackets.length).sum
  peer : p.totalBuffered ≤ env.maxBufferedPacketsPerPeer
  subscription : ∀ id s, p.subscriptions.lookup id = some s →
    s.bufferedPackets.length ≤ env.maxBufferedPacketsPerSubscription
  pending : ∀ id s, p.subscriptions.lookup id = some s → s.bufferedPackets ≠ [] →
    s.schemaFetchPending = true
  removed : ∀ id, (p.remove id).totalBuffered + (p.subscriptions.buffer id).length =
    p.totalBuffered
  resolved : ∀ info contentId yangCtx, (p.resolve info contentId yangCtx).totalBuffered +
    (p.subscriptions.buffer info.id).length = p.totalBuffered

omit [DecidableEq δ] in
theorem accounted_of_within {cache : PeerCache δ γ μ} (hwithin : Within env cache)
    (hsound : Sound env cache) {peer : IpAddr} {p : CachedPeerSubscriptions δ γ μ}
    (hlookup : cache.lookup peer = some p) : Accounted env p := by
  have hfits := hwithin peer p hlookup
  have hless (id : Nat) : (p.subscriptions.buffer id).length ≤ p.totalBuffered :=
    (p.counted_erase id).symm ▸ Nat.le_add_right _ _
  refine ⟨?_, hfits.peer, fun id s hs => ?_, fun id s hs hne => ?_,
    fun id => Nat.sub_add_cancel (hless id), fun info _ _ => Nat.sub_add_cancel (hless info.id)⟩
  · rw [p.counted, Subscriptions.held, contents, List.length_flatMap]
  · have hbuffer := hfits.subscription id
    rwa [Subscriptions.buffer, hs] at hbuffer
  · have hfind : cache.find peer id = some s := by
      rw [find, hlookup]
      exact hs
    by_contra hpending
    exact hne ((hsound peer id s hfind).idle (by simpa using hpending))

/-- In every state the counts are right and within the limits, and only subscriptions whose
library is being fetched have packets. -/
theorem buffers_accounted (env : Environment δ γ μ) (events : List (Event δ μ))
    {a : ValidationActor δ γ μ} (hrun : Stepwise.run (step env) new events = some a) :
    ∀ peer p, a.peerCache.lookup peer = some p → Accounted env p := by
  have hconserved : Conserved env a :=
    Stepwise.run_invariant (Conserved env) (fun _ _ _ h hstep => h.step hstep)
      ⟨sound_new, List.Perm.refl _⟩ hrun
  have hwithin : Within env a.peerCache :=
    Stepwise.run_invariant (fun a => Within env a.peerCache)
      (fun _ _ _ h hstep => within_step h hstep) (fun _ _ h => by cases h) hrun
  exact fun peer p hlookup => accounted_of_within hwithin hconserved.sound hlookup

/-- The first packet of a subscription waits for its library. -/
theorem first_packet_accounted : ∃ (a : ValidationActor Unit Unit Nat)
    (p : CachedPeerSubscriptions Unit Unit Nat),
    Stepwise.run (step modifiedOnce) new [.packet 0 ⟨true, true⟩] = some a ∧
      a.peerCache.lookup (.v4 0) = some p ∧ p.totalBuffered = 1 ∧ Accounted modifiedOnce p :=
  ⟨_, _, rfl, rfl, rfl,
    buffers_accounted modifiedOnce [.packet 0 ⟨true, true⟩] rfl (.v4 0) _ rfl⟩

end ValidationActor

end NetCalyx.YangPush
