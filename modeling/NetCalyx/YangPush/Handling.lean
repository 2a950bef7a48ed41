import Mathlib.Logic.Function.Basic
import NetCalyx.YangPush.Buffers

/-!
# Turns of the validation actor

`Acted` says what handling a packet does to the buffers, to what is known of each subscription, its
`Slot`, and to the lookups: the packet is dropped; it waits for a fetch that is under way; it is
sent on, under what is known of its subscription; or it makes the actor ask the cache, and then it
waits for that fetch, if there is room.
-/

namespace NetCalyx.YangPush
open Collections Wire PeerCache Option

variable {δ γ μ : Type}

/-! ## What is known of a subscription -/

/-- What is known of a subscription, apart from its packets. -/
structure Slot (δ : Type) where
  info : SubscriptionInfo δ
  contentId : Option String
  pending : Bool

def CachedSubscription.slot (s : CachedSubscription δ γ μ) : Slot δ :=
  ⟨s.subscriptionInfo, s.cachedContentId, s.schemaFetchPending⟩

/-- What is known after a response. -/
def CacheResponse.slot (response : CacheResponse δ) : Slot δ :=
  ⟨response.subscriptionInfo,
    if response.yangLibRef.isSome then response.cachedContentId else none, false⟩

namespace PeerCache

variable {cache : PeerCache δ γ μ} {peer : IpAddr} {id : Nat}

def slot (cache : PeerCache δ γ μ) (key : IpAddr × Nat) : Option (Slot δ) :=
  (cache.find key.1 key.2).map (·.slot)

variable {info : SubscriptionInfo δ} {s : CachedSubscription δ γ μ} {lookup : CacheLookupCommand δ}

theorem slot_of_find (h : cache.find peer id = some s) : cache.slot (peer, id) = some s.slot := by
  rw [slot, h]
  rfl

theorem slot_of_find_none (h : cache.find peer id = none) : cache.slot (peer, id) = none := by
  rw [slot, h]
  rfl

variable {p : CachedPeerSubscriptions δ γ μ}

theorem slot_put (hp : p.subscriptions = (cache.orDefault peer).subscriptions.insert id s) :
    slot (cache.insert peer p) = Function.update cache.slot (peer, id) (some s.slot) := by
  funext key
  rw [slot, find_put hp, Function.update_apply]
  split <;> rfl

/-- Only the packets have changed. -/
theorem slot_put_same {s' : CachedSubscription δ γ μ} (hfind : cache.find peer id = some s)
    (hsame : s'.slot = s.slot)
    (hp : p.subscriptions = (cache.orDefault peer).subscriptions.insert id s') :
    slot (cache.insert peer p) = cache.slot := by
  rw [slot_put hp, hsame, ← slot_of_find hfind, Function.update_eq_self]

theorem slot_resolve (cache : PeerCache δ γ μ) (info : SubscriptionInfo δ)
    (cachedContentId : Option String) (yangCtx : Option γ) :
    slot (cache.insert info.peerIp
        ((cache.orDefault info.peerIp).resolve info cachedContentId yangCtx)) =
      Function.update cache.slot info.key (some ⟨info, cachedContentId, false⟩) :=
  slot_put (s := ⟨cachedContentId, info, yangCtx, [], false⟩) rfl

theorem slot_orDefault (cache : PeerCache δ γ μ) (peer : IpAddr) :
    slot (cache.insert peer (cache.orDefault peer)) = cache.slot := by
  funext key
  rw [slot, find_insert_orDefault, slot]

variable [DecidableEq δ]

theorem checkSubscriptionNew_same (hfind : cache.find peer info.id = some s)
    (hsame : s.subscriptionInfo = info) : cache.checkSubscriptionNew peer info = cache := by
  obtain ⟨p, hlookup, hs⟩ := bind_eq_some_iff.mp hfind
  rw [checkSubscriptionNew, hlookup]
  simp only
  rw [if_pos]
  rw [hs, map_some, hsame]

theorem slot_checkSubscriptionNew
    (hother : ∀ s, cache.find peer info.id = some s → s.subscriptionInfo ≠ info) :
    slot (cache.checkSubscriptionNew peer info) =
      Function.update cache.slot (peer, info.id) none := by
  have hnone : (cache.find peer info.id).filter (·.subscriptionInfo = info) = none :=
    filter_eq_none_iff.mpr fun s hs => by simpa using hother s hs
  funext key
  rw [slot, find_checkSubscriptionNew, hnone, Function.update_apply]
  split <;> rfl

end PeerCache

/-! ## What packets say -/

/-- The subscription that a notification tells of. -/
def Environment.told [DecidableEq δ] (env : Environment δ γ μ) (packet : μ) :
    Option (SubscriptionInfo δ) :=
  match env.decode packet with
  | some (some (.subscriptionStartedModified id built)) =>
    buildSubscriptionInfo (env.peer packet) id built
  | _ => none

theorem Environment.keyOf_of_told [DecidableEq δ] {env : Environment δ γ μ} {packet : μ}
    (h : env.told packet = some info) :
    env.keyOf packet = some info.key ∧ info.peerIp = env.peer packet := by
  unfold told at h
  split at h
  · rename_i id built hdecode
    obtain ⟨b, -, rfl⟩ := map_eq_some_iff.mp h
    exact ⟨keyOf_eq hdecode, rfl⟩
  · cases h

namespace ValidationActor

variable {env : Environment δ γ μ} {a : ValidationActor δ γ μ} {packet : μ}

/-! ## The subscription of a packet -/

variable [DecidableEq δ]

/-- A packet asks for a library: it tells of a subscription that is not known, or is known
otherwise; or nothing at all is known of its subscription. -/
inductive Asks (env : Environment δ γ μ) (cache : PeerCache δ γ μ) (packet : μ) :
    SubscriptionInfo δ → CacheLookupCommand δ → Prop where
  | changed {info : SubscriptionInfo δ} (htold : env.told packet = some info)
      (hother : ∀ s ∈ cache.slot info.key, s.pending = false ∧ s.info ≠ info) :
      Asks env cache packet info (.bySubscriptionInfo info)
  | unknown {id : Nat} (htold : env.told packet = none)
      (hkey : env.keyOf packet = some (env.peer packet, id))
      (hslot : cache.slot (env.peer packet, id) = none) :
      Asks env cache packet (.newEmpty env.empty (env.peer packet) id)
        (.bySubscriptionId (env.peer packet) id)

theorem Asks.key {cache : PeerCache δ γ μ} (h : Asks env cache packet info lookup) :
    env.keyOf packet = some info.key ∧ info.peerIp = env.peer packet := by
  cases h with
  | changed htold => exact Environment.keyOf_of_told htold
  | unknown _ hkey => exact ⟨hkey, rfl⟩

theorem Asks.not_pending {cache : PeerCache δ γ μ} (h : Asks env cache packet info lookup) :
    ∀ s ∈ cache.slot info.key, s.pending = false := by
  cases h with
  | changed _ hother => exact fun s hs => (hother s hs).1
  | unknown _ _ hslot =>
    intro s hs
    rw [mem_def, SubscriptionInfo.key, SubscriptionInfo.newEmpty, hslot] at hs
    cases hs

/-- The ways to extract the subscription of a packet. -/
inductive Extracted (env : Environment δ γ μ) (a : ValidationActor δ γ μ) (channels : Channels)
    (packet : μ) : Option (SubscriptionInfo δ) → ValidationActor δ γ μ → Prop where
  | dropped (reason : DropReason) : Extracted env a channels packet none (a.drop packet reason)
  | waiting {s : CachedSubscription δ γ μ}
      (hkey : env.keyOf packet = some (env.peer packet, s.subscriptionInfo.id))
      (hfind : a.peerCache.find (env.peer packet) s.subscriptionInfo.id = some s)
      (hpending : s.schemaFetchPending = true) :
      Extracted env a channels packet none (a.bufferPacket env s.subscriptionInfo packet)
  | ready {s : CachedSubscription δ γ μ}
      (hkey : env.keyOf packet = some (env.peer packet, s.subscriptionInfo.id))
      (hfind : a.peerCache.find (env.peer packet) s.subscriptionInfo.id = some s)
      (hidle : s.schemaFetchPending = false)
      (htold : ∀ info ∈ env.told packet, info = s.subscriptionInfo) :
      Extracted env a channels packet (some s.subscriptionInfo) a
  | asking {cache : PeerCache δ γ μ} {info : SubscriptionInfo δ} {lookup : CacheLookupCommand δ}
      {a' : ValidationActor δ γ μ} (hasks : Asks env a.peerCache packet info lookup)
      (hkeeps : Keeps env a.peerCache cache) (hgone : cache.find (env.peer packet) info.id = none)
      (hslot : cache.slot = Function.update a.peerCache.slot info.key none)
      (hrequest : { a with peerCache := cache }.requestSchemas env channels info lookup packet =
        some a') : Extracted env a channels packet none a'

variable {channels : Channels} {found : Option (SubscriptionInfo δ)} {a' : ValidationActor δ γ μ}
variable (hsound : Sound env a.peerCache)
include hsound

/-- A notification that tells of a subscription. It waits while a fetch is under way. -/
theorem extracted_started {id : Nat} {built : Option (String × δ)}
    (hdecode : env.decode packet = some (some (.subscriptionStartedModified id built)))
    (h : a.extractSubscriptionInfo env channels packet (some (.subscriptionStartedModified id built)) = some (found, a')) :
    Extracted env a channels packet found a' := by
  have hkey : env.keyOf packet = some (env.peer packet, id) := Environment.keyOf_eq hdecode
  have htold : env.told packet = buildSubscriptionInfo (env.peer packet) id built := by
    rw [Environment.told, hdecode]
  unfold extractSubscriptionInfo at h
  simp only [filter_some, NotificationVariant.isStartedModified, if_true,
    bind_some, NotificationVariant.subscriptionId] at h
  split at h
  · rename_i s hgate
    cases h
    obtain ⟨hfind, hpending⟩ := filter_eq_some_iff.mp hgate
    have hid := (Prod.mk.inj (hsound _ _ s hfind).keyed).2
    subst hid
    exact .waiting hkey hfind hpending
  · rename_i hgate
    have hidle : ∀ s, a.peerCache.find (env.peer packet) id = some s →
        s.schemaFetchPending = false := by
      intro s hs
      simpa using filter_eq_none_iff.mp hgate s hs
    cases built with
    | none =>
      cases h
      exact .dropped _
    | some built =>
      obtain ⟨contentId, details⟩ := built
      simp only [getSubscriptionInfo, buildSubscriptionInfo, map_some] at h htold
      by_cases hsame : ∃ s, a.peerCache.find (env.peer packet) id = some s ∧
          s.subscriptionInfo = ⟨env.peer packet, id, contentId, details⟩
      · -- The subscription has not changed.
        obtain ⟨s, hfind, hinfo⟩ := hsame
        rw [checkSubscriptionNew_same hfind hinfo, cachedContentId, hfind, filter_some,
          if_pos (decide_eq_true hinfo), map_some, map_some, getD_some,
          hidle s hfind] at h
        have hready : Extracted env a channels packet (some s.subscriptionInfo) a := by
          refine .ready (s := s) ?_ ?_ (hidle s hfind) ?_
          · rw [hinfo]
            exact hkey
          · rw [hinfo]
            exact hfind
          · intro info hmem
            rw [htold] at hmem
            rw [hinfo, Option.some.inj hmem]
        rw [hinfo] at hready
        split at h
        · cases h
          exact hready
        · cases h
          exact hready
        · rename_i hnone
          cases hnone
      · have hother : ∀ s, a.peerCache.find (env.peer packet) id = some s →
            s.subscriptionInfo ≠ ⟨env.peer packet, id, contentId, details⟩ :=
          fun s hs hinfo => hsame ⟨s, hs, hinfo⟩
        have hgone : find (a.peerCache.checkSubscriptionNew (env.peer packet)
            ⟨env.peer packet, id, contentId, details⟩) (env.peer packet) id = none := by
          rw [find_checkSubscriptionNew, if_pos rfl, filter_eq_none_iff]
          exact fun s hs => by simpa using hother s hs
        rw [cachedContentId, hgone] at h
        obtain ⟨a₁, hrequest, heq⟩ := map_eq_some_iff.mp h
        cases heq
        refine .asking (.changed htold ?_) (Keeps.checkSubscriptionNew hsound _ hidle) hgone
          (slot_checkSubscriptionNew hother) hrequest
        intro slot hslot
        obtain ⟨s, hs, rfl⟩ := map_eq_some_iff.mp hslot
        exact ⟨hidle s hs, hother s hs⟩

/-- Any other packet. It waits, too, as long as its library is not there. -/
theorem extracted_other {id : Nat} (hdecode : env.decode packet = some (some (.other id)))
    (h : a.extractSubscriptionInfo env channels packet (some (.other id)) = some (found, a')) :
    Extracted env a channels packet found a' := by
  have hkey : env.keyOf packet = some (env.peer packet, id) := Environment.keyOf_eq hdecode
  have htold : env.told packet = none := by rw [Environment.told, hdecode]
  unfold extractSubscriptionInfo at h
  simp only [filter_some, NotificationVariant.isStartedModified, Bool.false_eq_true,
    if_false, bind_none, getSubscriptionInfo] at h
  cases hfind : a.peerCache.find (env.peer packet) id with
  | none =>
    rw [hfind] at h
    obtain ⟨a₁, hrequest, heq⟩ := map_eq_some_iff.mp h
    cases heq
    have hslot := slot_of_find_none hfind
    refine .asking (.unknown htold hkey hslot) (Keeps.refl hsound) hfind ?_ hrequest
    rw [← hslot]
    exact (Function.update_eq_self _ _).symm
  | some s =>
    have hid := (Prod.mk.inj (hsound _ _ s hfind).keyed).2
    subst hid
    have hnone : ∀ info ∈ env.told packet, info = s.subscriptionInfo := by
      rw [htold]
      exact fun info hinfo => nomatch hinfo
    rw [hfind] at h
    simp only [cachedContentId, hfind, filter_some, decide_true, if_true, map_some,
      getD_some] at h
    split at h
    · -- The library is there.
      rename_i contentId hcontent
      cases h
      refine .ready hkey hfind ?_ hnone
      by_contra hpending
      rw [(hsound _ _ s hfind).waiting (by simpa using hpending)] at hcontent
      cases hcontent
    · split at h
      · rename_i hpending
        cases h
        exact .waiting hkey hfind hpending
      · rename_i hpending
        cases h
        exact .ready hkey hfind (by simpa using hpending) hnone
    · rename_i hcontent
      cases hcontent

theorem extracted_of_eq {notification : Option (NotificationVariant δ)}
    (hdecode : env.decode packet = some notification)
    (h : a.extractSubscriptionInfo env channels packet notification = some (found, a')) :
    Extracted env a channels packet found a' := by
  cases notification with
  | none =>
    cases h
    exact .dropped _
  | some n =>
    cases n with
    | subscriptionStartedModified id built => exact extracted_started hsound hdecode h
    | other id => exact extracted_other hsound hdecode h

/-! ## Buffering -/

omit [DecidableEq δ] in
/-- A packet that has to wait is buffered, or dropped if there is no room for it. -/
theorem bufferPacket_cases (hkey : env.keyOf packet = some (env.peer packet, info.id))
    (hfind : a.peerCache.find (env.peer packet) info.id = some s)
    (hpending : s.schemaFetchPending = true) :
    ∃ cache : PeerCache δ γ μ, cache.slot = a.peerCache.slot ∧
      ((Gains env a.peerCache cache (env.peer packet, info.id) packet ∧
          a.bufferPacket env info packet = { a with peerCache := cache }) ∨
        (Keeps env a.peerCache cache ∧ ∃ reason,
          a.bufferPacket env info packet = { a with peerCache := cache }.drop packet reason)) := by
  unfold bufferPacket
  simp only
  split
  · exact ⟨_, slot_orDefault _ _, .inr ⟨Keeps.orDefault hsound, _, rfl⟩⟩
  · split
    · exact ⟨_, slot_orDefault _ _, .inr ⟨Keeps.orDefault hsound, _, rfl⟩⟩
    · refine ⟨_, slot_put_same hfind ?_ rfl, .inl ⟨Gains.push hsound hfind hpending hkey, rfl⟩⟩
      rw [orNew_of_find hfind]
      rfl

omit hsound

omit [DecidableEq δ] in
/-- The cache is asked for a library, and the packet waits for it if there is room. -/
theorem requestSchemas_cases (hsound : Sound env a.peerCache)
    (hpeer : info.peerIp = env.peer packet)
    (hkey : env.keyOf packet = some (env.peer packet, info.id))
    (hfind : a.peerCache.find (env.peer packet) info.id = none)
    (h : a.requestSchemas env channels info lookup packet = some a') :
    ∃ cache : PeerCache δ γ μ,
      cache.slot = Function.update a.peerCache.slot info.key (some ⟨info, none, true⟩) ∧
      ((Gains env a.peerCache cache info.key packet ∧
          a' = { a with peerCache := cache, lookups := a.lookups ++ [lookup] }) ∨
        (Keeps env a.peerCache cache ∧ ∃ reason,
          a' = { a with peerCache := cache, lookups := a.lookups ++ [lookup] }.drop packet
            reason)) := by
  unfold requestSchemas at h
  simp only at h
  split at h
  · have hmark := Keeps.markPending hsound hpeer hfind
    have hentry : find (a.peerCache.insert (env.peer packet)
        ((a.peerCache.orDefault (env.peer packet)).markPending info)) (env.peer packet) info.id =
          some { CachedSubscription.new info with schemaFetchPending := true } := by
      rw [find_put rfl, if_pos rfl, orNew_of_find_none hfind]
    have hslot : slot (a.peerCache.insert (env.peer packet)
        ((a.peerCache.orDefault (env.peer packet)).markPending info)) =
          Function.update a.peerCache.slot info.key (some ⟨info, none, true⟩) := by
      rw [slot_put rfl, orNew_of_find_none hfind, SubscriptionInfo.key, hpeer]
      rfl
    have hinfo : info.key = (env.peer packet, info.id) := by
      rw [SubscriptionInfo.key, hpeer]
    cases h
    obtain ⟨cache, hsame, hcases⟩ := bufferPacket_cases
      (a := { a with peerCache := _, lookups := a.lookups ++ [lookup] }) hmark.sound hkey hentry rfl
    refine ⟨cache, hsame.trans hslot, ?_⟩
    rw [hinfo]
    rcases hcases with ⟨hgains, heq⟩ | ⟨hkeeps, reason, heq⟩
    · exact .inl ⟨hmark.gains hgains, heq⟩
    · exact .inr ⟨hmark.trans hkeeps, reason, heq⟩
  · cases h

/-! ## Handling a packet -/

omit [DecidableEq δ] in
/-- What is validated has the content id that is known. -/
theorem validateMessage_contentId {contentId : Option String}
    (h : validateMessage env s info packet = some contentId) :
    ∀ c ∈ contentId, s.cachedContentId = some c := by
  unfold validateMessage at h
  split at h
  · rename_i known ctx hknown _
    split at h
    · cases h
      exact fun c hc => nomatch hc
    · split at h
      · cases h
        rintro c ⟨⟩
        exact hknown
      · cases h
  · cases h
    exact fun c hc => nomatch hc

/-- A packet that can be handled now: the buffer of its subscription is empty. -/
structure Ready (env : Environment δ γ μ) (a : ValidationActor δ γ μ) (packet : μ)
    (info : SubscriptionInfo δ) (cache : PeerCache δ γ μ) : Prop where
  keeps : Keeps env a.peerCache cache
  peer : info.peerIp = env.peer packet
  key : env.keyOf packet = some (env.peer packet, info.id)
  empty : cache.buffer (env.peer packet, info.id) = []

/-- What handling a packet does. -/
inductive Acted (env : Environment δ γ μ) (a : ValidationActor δ γ μ) (packet : μ) :
    ValidationActor δ γ μ → Prop where
  | dropped {cache : PeerCache δ γ μ} (reason : DropReason) (hkeeps : Keeps env a.peerCache cache)
      (hslots : cache.slot = a.peerCache.slot) :
      Acted env a packet ({ a with peerCache := cache }.drop packet reason)
  | waits {cache : PeerCache δ γ μ} {key : IpAddr × Nat} {s : Slot δ}
      (hkey : env.keyOf packet = some key) (hslot : a.peerCache.slot key = some s)
      (hpending : s.pending = true) (hgains : Gains env a.peerCache cache key packet)
      (hslots : cache.slot = a.peerCache.slot) : Acted env a packet { a with peerCache := cache }
  | forwarded {cache : PeerCache δ γ μ} {contentId : Option String} {s : Slot δ}
      (hready : Ready env a packet s.info cache) (hslot : a.peerCache.slot s.info.key = some s)
      (hidle : s.pending = false) (htold : ∀ info ∈ env.told packet, info = s.info)
      (hcontent : ∀ c ∈ contentId, s.contentId = some c) (hslots : cache.slot = a.peerCache.slot) :
      Acted env a packet
        { a with
          peerCache := cache
          forwarded := a.forwarded ++ [⟨contentId, s.info, packet⟩] }
  | asks {cache : PeerCache δ γ μ} {info : SubscriptionInfo δ} {lookup : CacheLookupCommand δ}
      (hasks : Asks env a.peerCache packet info lookup)
      (hgains : Gains env a.peerCache cache info.key packet)
      (hslots : cache.slot =
        Function.update a.peerCache.slot info.key (some ⟨info, none, true⟩)) :
      Acted env a packet { a with peerCache := cache, lookups := a.lookups ++ [lookup] }
  | asksInVain {cache : PeerCache δ γ μ} {info : SubscriptionInfo δ}
      {lookup : CacheLookupCommand δ} (reason : DropReason)
      (hasks : Asks env a.peerCache packet info lookup) (hkeeps : Keeps env a.peerCache cache)
      (hslots : cache.slot =
        Function.update a.peerCache.slot info.key (some ⟨info, none, true⟩)) :
      Acted env a packet
        ({ a with peerCache := cache, lookups := a.lookups ++ [lookup] }.drop packet reason)

/-- A packet that cannot be handled now. -/
theorem acted_of_extracted_none (hsound : Sound env a.peerCache)
    (h : Extracted env a channels packet none a') : Acted env a packet a' := by
  cases h with
  | dropped reason => exact .dropped reason (Keeps.refl hsound) rfl
  | @waiting s hkey hfind hpending =>
    obtain ⟨cache, hslots, ⟨hgains, heq⟩ | ⟨hkeeps, reason, heq⟩⟩ :=
      bufferPacket_cases hsound hkey hfind hpending
    · rw [heq]
      exact .waits hkey (slot_of_find hfind) hpending hgains hslots
    · rw [heq]
      exact .dropped reason hkeeps hslots
  | @asking cache info lookup _ hasks hkeeps hgone hslot hrequest =>
    obtain ⟨hkey, hpeer⟩ := hasks.key
    rw [SubscriptionInfo.key, hpeer] at hkey
    obtain ⟨cache', hslots, hcases⟩ :=
      requestSchemas_cases (a := { a with peerCache := cache }) hkeeps.sound hpeer hkey hgone hrequest
    rw [hslot, Function.update_idem] at hslots
    rcases hcases with ⟨hgains, heq⟩ | ⟨hkeeps', reason, heq⟩
    · rw [heq]
      exact .asks hasks (hkeeps.gains hgains) hslots
    · rw [heq]
      exact .asksInVain reason hasks (hkeeps.trans hkeeps') hslots

theorem acted_processUdpNotifMsg (hsound : Sound env a.peerCache)
    (h : a.processUdpNotifMsg env channels packet = some a') : Acted env a packet a' := by
  unfold processUdpNotifMsg at h
  split at h
  · cases h
    exact .dropped _ (Keeps.refl hsound) rfl
  · rename_i notification hdecode
    split at h
    · cases h
    · rename_i a₁ hextract
      cases h
      exact acted_of_extracted_none hsound (extracted_of_eq hsound hdecode hextract)
    · rename_i info a₁ hextract
      cases extracted_of_eq hsound hdecode hextract with
      | @ready s hkey hfind hidle htold =>
        have hpeer := (Prod.mk.inj (hsound _ _ s hfind).keyed).1
        have horInsert : slot (a.peerCache.insert (env.peer packet)
            ((a.peerCache.orDefault (env.peer packet)).orInsert s.subscriptionInfo)) =
              a.peerCache.slot := by
          refine slot_put_same hfind ?_ rfl
          rw [orNew_of_find hfind]
        have hkeeps := Keeps.orInsert hsound hpeer
        simp only [orNew_of_find hfind] at h
        split at h
        · cases h
          exact .dropped _ hkeeps horInsert
        · rename_i contentId hvalid
          split at h
          · cases h
            refine .forwarded (s := s.slot) ⟨hkeeps, hpeer, hkey, ?_⟩ ?_ hidle htold
              (validateMessage_contentId hvalid) horInsert
            · exact (hkeeps.buffer _).trans (hsound.buffer_eq_nil hfind hidle)
            · rw [CachedSubscription.slot, SubscriptionInfo.key, hpeer]
              exact slot_of_find hfind
          · cases h

/-! ## Handling a response -/

omit [DecidableEq δ] in
/-- The buffer of the subscription goes to the queue, and the response says what is known from now
on. A response for a subscription that is not there does nothing. -/
theorem processCacheResponse_spec (hsound : Sound env a.peerCache) (response : CacheResponse δ) :
    ∃ cache : PeerCache δ γ μ, Drains env a.peerCache cache response.subscriptionInfo.key ∧
      (a.peerCache.slot response.subscriptionInfo.key = none ∧
          cache.slot = a.peerCache.slot ∨
        a.peerCache.slot response.subscriptionInfo.key ≠ none ∧
          cache.slot = Function.update a.peerCache.slot response.subscriptionInfo.key
            (some response.slot)) ∧
      a.processCacheResponse env response =
        { a with
          peerCache := cache
          pendingPackets :=
            a.pendingPackets ++ a.peerCache.buffer response.subscriptionInfo.key } := by
  have hnothing (hfind : a.peerCache.find response.subscriptionInfo.peerIp
      response.subscriptionInfo.id = none) :
      Drains env a.peerCache a.peerCache response.subscriptionInfo.key ∧
        (a.peerCache.slot response.subscriptionInfo.key = none ∧
            a.peerCache.slot = a.peerCache.slot ∨
          a.peerCache.slot response.subscriptionInfo.key ≠ none ∧
            a.peerCache.slot = Function.update a.peerCache.slot response.subscriptionInfo.key
              (some response.slot)) ∧
        a = { a with pendingPackets :=
          a.pendingPackets ++ a.peerCache.buffer response.subscriptionInfo.key } := by
    have hempty : a.peerCache.buffer response.subscriptionInfo.key = [] :=
      buffer_of_find_none hfind
    refine ⟨⟨hsound, fun other => ?_, ?_⟩, .inl ⟨slot_of_find_none hfind, rfl⟩, ?_⟩
    · split
      · rename_i heq
        rw [heq, hempty]
      · rfl
    · rw [hempty, List.nil_append]
    · rw [hempty, List.append_nil]
  unfold processCacheResponse
  simp only
  split
  · rename_i hlookup
    exact ⟨a.peerCache, hnothing (by rw [find, hlookup]; rfl)⟩
  · rename_i p hlookup
    have hp : a.peerCache.orDefault response.subscriptionInfo.peerIp = p := by
      rw [orDefault, hlookup]
      rfl
    split
    · rename_i hnone
      exact ⟨a.peerCache, hnothing (by rw [← lookup_orDefault, hp, hnone])⟩
    · rename_i s hs
      rw [← hp, lookup_orDefault] at hs
      have hbuffer : a.peerCache.buffer response.subscriptionInfo.key = s.bufferedPackets :=
        buffer_of_find hs
      have hthere : a.peerCache.slot response.subscriptionInfo.key ≠ none := by
        rw [show a.peerCache.slot response.subscriptionInfo.key = some s.slot from slot_of_find hs]
        exact some_ne_none _
      rw [hbuffer, ← hp, CacheResponse.slot]
      cases response.yangLibRef with
      | none =>
        exact ⟨_, Drains.resolve hsound _ none none, .inr ⟨hthere, slot_resolve ..⟩, rfl⟩
      | some ref =>
        exact ⟨_, Drains.resolve hsound _ response.cachedContentId (env.context ref),
          .inr ⟨hthere, slot_resolve ..⟩, rfl⟩

/-! ## A turn of the loop -/

omit [DecidableEq δ] in
theorem sound_new : Sound env (new : ValidationActor δ γ μ).peerCache :=
  fun _ _ _ h => nomatch h

/-- A response is handled, or the first packet of the queue, or a new packet if the queue is
empty. -/
theorem step_acted (hsound : Sound env a.peerCache) {event : Event δ μ}
    (hstep : a.step env event = some a') :
    (∃ response, event = .response response ∧ a' = a.processCacheResponse env response) ∨
    (∃ channels packet rest, event = .pending channels ∧ a.pendingPackets = packet :: rest ∧
      Acted env { a with pendingPackets := rest } packet a') ∨
    ∃ channels packet, event = .packet packet channels ∧ a.pendingPackets = [] ∧
      Acted env { a with received := a.received ++ [packet] } packet a' := by
  cases event with
  | response response => exact .inl ⟨response, rfl, (Option.some.inj hstep).symm⟩
  | pending channels =>
    unfold step at hstep
    simp only at hstep
    split at hstep
    · cases hstep
    · rename_i packet rest hpending
      refine .inr (.inl ⟨channels, packet, rest, rfl, hpending, ?_⟩)
      apply acted_processUdpNotifMsg _ hstep
      exact hsound
  | packet packet channels =>
    unfold step at hstep
    simp only at hstep
    split at hstep
    · rename_i hpending
      refine .inr (.inr ⟨channels, packet, rfl, List.isEmpty_iff.mp hpending, ?_⟩)
      apply acted_processUdpNotifMsg _ hstep
      exact hsound
    · cases hstep

end ValidationActor

end NetCalyx.YangPush
