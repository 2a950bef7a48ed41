import NetCalyx.YangPush.Validation

/-!
# What handling a packet does

`Handled` says it once and for all: a packet is dropped, or it goes to the end of the buffer of
its subscription, or it is sent on, and then that buffer is empty. All other buffers stay as they
are. This rests on what is true of the subscriptions in the cache, `Sound`.
-/

namespace NetCalyx.YangPush
open Collections Wire

variable {δ γ μ : Type}

/-- The device and the subscription of a packet. -/
def Environment.keyOf (env : Environment δ γ μ) (packet : μ) : Option (IpAddr × Nat) :=
  match env.decode packet with
  | some (some notification) => some (env.peer packet, notification.subscriptionId)
  | _ => none

theorem Environment.keyOf_eq {env : Environment δ γ μ} {packet : μ}
    {notification : NotificationVariant δ} (h : env.decode packet = some (some notification)) :
    env.keyOf packet = some (env.peer packet, notification.subscriptionId) := by
  rw [keyOf, h]

namespace PeerCache

/-! ## Buffers -/

/-- The packets of all buffers. -/
def held (cache : PeerCache δ γ μ) : List μ :=
  contents (fun _ p => p.subscriptions.held) cache

def buffer (cache : PeerCache δ γ μ) (key : IpAddr × Nat) : List μ :=
  ((cache.find key.1 key.2).map (·.bufferedPackets)).getD []

variable {cache : PeerCache δ γ μ} {peer : IpAddr} {id : Nat}

theorem buffer_of_find {s : CachedSubscription δ γ μ} (h : cache.find peer id = some s) :
    cache.buffer (peer, id) = s.bufferedPackets := by
  rw [buffer, h]
  rfl

theorem buffer_of_find_none (h : cache.find peer id = none) : cache.buffer (peer, id) = [] := by
  rw [buffer, h]
  rfl

@[simp] theorem lookup_orDefault (cache : PeerCache δ γ μ) (peer : IpAddr) (id : Nat) :
    (cache.orDefault peer).subscriptions.lookup id = cache.find peer id := by
  rw [orDefault, find]
  cases cache.lookup peer <;> rfl

theorem buffer_orDefault (cache : PeerCache δ γ μ) (peer : IpAddr) (id : Nat) :
    (cache.orDefault peer).subscriptions.buffer id = cache.buffer (peer, id) := by
  rw [Subscriptions.buffer, lookup_orDefault, buffer]

variable {info : SubscriptionInfo δ}

theorem orNew_of_find {s : CachedSubscription δ γ μ} (h : cache.find peer info.id = some s) :
    (cache.orDefault peer).orNew info = s := by
  rw [CachedPeerSubscriptions.orNew, lookup_orDefault, h]
  rfl

theorem orNew_of_find_none (h : cache.find peer info.id = none) :
    (cache.orDefault peer).orNew info = .new info := by
  rw [CachedPeerSubscriptions.orNew, lookup_orDefault, h]
  rfl

variable (cache)

theorem find_insert (peer peer' : IpAddr) (p : CachedPeerSubscriptions δ γ μ) (id : Nat) :
    find (cache.insert peer p) peer' id =
      if peer' = peer then p.subscriptions.lookup id else cache.find peer' id := by
  rw [find, lookup_insert_ite]
  split <;> rfl

theorem held_insert (peer : IpAddr) (p : CachedPeerSubscriptions δ γ μ) :
    held (cache.insert peer p) = p.subscriptions.held ++ held (cache.erase peer) :=
  contents_insert _ cache peer p

theorem held_orDefault (peer : IpAddr) :
    cache.held.Perm ((cache.orDefault peer).subscriptions.held ++ held (cache.erase peer)) := by
  have hperm := contents_erase (fun _ p => p.subscriptions.held) cache peer
  rw [orDefault]
  cases h : cache.lookup peer with
  | none | some p =>
    rw [h] at hperm
    exact hperm

variable {cache}

/-! ## Another subscription under an id -/

section Put

variable {s : CachedSubscription δ γ μ} {p : CachedPeerSubscriptions δ γ μ}
  (hp : p.subscriptions = (cache.orDefault peer).subscriptions.insert id s)

include hp

theorem find_put (peer' : IpAddr) (id' : Nat) :
    find (cache.insert peer p) peer' id' =
      if (peer', id') = (peer, id) then some s else cache.find peer' id' := by
  rw [find_insert, hp, lookup_insert_ite, lookup_orDefault]
  by_cases hpeer : peer' = peer <;> by_cases hid : id' = id <;> simp [hpeer, hid]

theorem buffer_put (key : IpAddr × Nat) :
    buffer (cache.insert peer p) key =
      if key = (peer, id) then s.bufferedPackets else cache.buffer key := by
  rw [buffer, find_put hp]
  split <;> rfl

/-- The old buffer goes and the new one comes. -/
theorem held_put :
    (cache.buffer (peer, id) ++ held (cache.insert peer p)).Perm
      (s.bufferedPackets ++ cache.held) := by
  have hsubs := (cache.orDefault peer).subscriptions.held_erase id
  rw [buffer_orDefault] at hsubs
  have hrest : cache.held.Perm (cache.buffer (peer, id) ++
      (Subscriptions.held ((cache.orDefault peer).subscriptions.erase id) ++
        held (cache.erase peer))) := by
    rw [← List.append_assoc]
    exact (held_orDefault cache peer).trans (hsubs.append_right _)
  rw [held_insert, hp, Subscriptions.held_insert, List.append_assoc]
  exact List.perm_append_comm_assoc .. |>.trans (hrest.symm.append_left _)

end Put

/-! ## What is true of the subscriptions -/

/-- A subscription is stored under its key. Packets are buffered only while its library is being
fetched, and until then it has none. -/
structure SoundAt (env : Environment δ γ μ) (peer : IpAddr) (id : Nat)
    (s : CachedSubscription δ γ μ) : Prop where
  keyed : s.subscriptionInfo.key = (peer, id)
  idle : s.schemaFetchPending = false → s.bufferedPackets = []
  waiting : s.schemaFetchPending = true → s.cachedContentId = none
  filed : ∀ packet ∈ s.bufferedPackets, env.keyOf packet = some (peer, id)

def Sound (env : Environment δ γ μ) (cache : PeerCache δ γ μ) : Prop :=
  ∀ peer id s, cache.find peer id = some s → SoundAt env peer id s

variable {env : Environment δ γ μ} {s : CachedSubscription δ γ μ}

/-- Nothing waits for a subscription whose library is not being fetched. -/
theorem Sound.buffer_eq_nil (h : Sound env cache) (hfind : cache.find peer id = some s)
    (hidle : s.schemaFetchPending = false) : cache.buffer (peer, id) = [] := by
  rw [buffer_of_find hfind]
  exact (h _ _ s hfind).idle hidle

theorem soundAt_new (h : info.peerIp = peer) (pending : Bool) :
    SoundAt env peer info.id
      ({ CachedSubscription.new info with schemaFetchPending := pending } :
        CachedSubscription δ γ μ) := by
  subst h
  exact ⟨rfl, fun _ => rfl, fun _ => rfl, by simp [CachedSubscription.new]⟩

variable {p : CachedPeerSubscriptions δ γ μ}

theorem Sound.put (h : Sound env cache) (hs : SoundAt env peer id s)
    (hp : p.subscriptions = (cache.orDefault peer).subscriptions.insert id s) :
    Sound env (cache.insert peer p) := by
  intro peer' id' s' hs'
  rw [find_put hp] at hs'
  split at hs'
  · rename_i heq
    obtain ⟨rfl, rfl⟩ := Prod.mk.inj heq
    exact Option.some.inj hs' ▸ hs
  · exact h peer' id' s' hs'

/-- The buffers stay as they are. -/
structure Keeps (env : Environment δ γ μ) (before after : PeerCache δ γ μ) : Prop where
  sound : Sound env after
  buffer : ∀ key, after.buffer key = before.buffer key
  held : after.held.Perm before.held

/-- A packet goes to the end of a buffer. -/
structure Gains (env : Environment δ γ μ) (before after : PeerCache δ γ μ) (key : IpAddr × Nat)
    (packet : μ) : Prop where
  sound : Sound env after
  buffer : ∀ other, after.buffer other =
    if other = key then before.buffer key ++ [packet] else before.buffer other
  held : after.held.Perm (packet :: before.held)

theorem Keeps.refl (h : Sound env cache) : Keeps env cache cache :=
  ⟨h, fun _ => rfl, List.Perm.refl _⟩

variable {c₁ c₂ c₃ : PeerCache δ γ μ}

theorem Keeps.trans (h : Keeps env c₁ c₂) (h' : Keeps env c₂ c₃) : Keeps env c₁ c₃ :=
  ⟨h'.sound, fun key => (h'.buffer key).trans (h.buffer key), h'.held.trans h.held⟩

theorem Keeps.gains {key : IpAddr × Nat} {packet : μ} (h : Keeps env c₁ c₂)
    (h' : Gains env c₂ c₃ key packet) : Gains env c₁ c₃ key packet := by
  refine ⟨h'.sound, fun other => ?_, h'.held.trans (h.held.cons packet)⟩
  rw [h'.buffer, h.buffer, h.buffer]

theorem Keeps.put (h : Sound env cache) (hs : SoundAt env peer id s)
    (hsame : s.bufferedPackets = cache.buffer (peer, id))
    (hp : p.subscriptions = (cache.orDefault peer).subscriptions.insert id s) :
    Keeps env cache (cache.insert peer p) := by
  refine ⟨h.put hs hp, fun key => ?_, ?_⟩
  · rw [buffer_put hp]
    split
    · rename_i heq
      rw [heq, hsame]
    · rfl
  · have hperm := held_put hp
    rw [hsame] at hperm
    exact (List.perm_append_left_iff _).mp hperm

/-- The subscriptions of the device as they are. -/
theorem find_insert_orDefault (cache : PeerCache δ γ μ) (peer peer' : IpAddr) (id : Nat) :
    find (cache.insert peer (cache.orDefault peer)) peer' id = cache.find peer' id := by
  rw [find_insert, lookup_orDefault]
  split
  · rename_i heq
    rw [heq]
  · rfl

variable (h : Sound env cache)
include h

theorem Keeps.orDefault : Keeps env cache (cache.insert peer (cache.orDefault peer)) := by
  refine ⟨fun peer' id s hs => h peer' id s (by rwa [find_insert_orDefault] at hs),
    fun key => ?_, ?_⟩
  · rw [PeerCache.buffer, find_insert_orDefault, PeerCache.buffer]
  · rw [held_insert]
    exact (held_orDefault cache peer).symm

theorem Keeps.orInsert (hinfo : info.peerIp = peer) :
    Keeps env cache (cache.insert peer ((cache.orDefault peer).orInsert info)) := by
  cases hfind : cache.find peer info.id with
  | none =>
    exact Keeps.put h (soundAt_new hinfo false) (buffer_of_find_none hfind).symm
      (congrArg (AList.insert info.id · _) (orNew_of_find_none hfind))
  | some s =>
    exact Keeps.put h (h _ _ s hfind) (buffer_of_find hfind).symm
      (congrArg (AList.insert info.id · _) (orNew_of_find hfind))

theorem Keeps.markPending (hinfo : info.peerIp = peer) (hfind : cache.find peer info.id = none) :
    Keeps env cache (cache.insert peer ((cache.orDefault peer).markPending info)) := by
  refine Keeps.put h (soundAt_new hinfo true) (buffer_of_find_none hfind).symm ?_
  rw [← orNew_of_find_none hfind]
  rfl

/-- Packets are buffered while a library is being fetched. -/
theorem Gains.push (hfind : cache.find peer info.id = some s)
    (hpending : s.schemaFetchPending = true) {packet : μ}
    (hkey : env.keyOf packet = some (peer, info.id)) :
    Gains env cache (cache.insert peer ((cache.orDefault peer).push info packet))
      (peer, info.id) packet := by
  have hs := h _ _ s hfind
  have hp : ((cache.orDefault peer).push info packet).subscriptions =
      (cache.orDefault peer).subscriptions.insert info.id
        { s with bufferedPackets := s.bufferedPackets ++ [packet] } := by
    rw [← orNew_of_find hfind]
    rfl
  refine ⟨Sound.put h ?_ hp, fun other => ?_, ?_⟩
  · refine ⟨hs.keyed, fun hfalse => ?_, hs.waiting, fun other hother => ?_⟩
    · rw [hpending] at hfalse
      cases hfalse
    · rcases List.mem_append.mp hother with hold | hnew
      · exact hs.filed other hold
      · rw [List.mem_singleton.mp hnew]
        exact hkey
  · rw [buffer_put hp, buffer_of_find hfind]
  · have hperm := held_put hp
    rw [buffer_of_find hfind, List.append_assoc] at hperm
    exact (List.perm_append_left_iff _).mp hperm

omit h

/-- A buffer is emptied. -/
structure Drains (env : Environment δ γ μ) (before after : PeerCache δ γ μ) (key : IpAddr × Nat) :
    Prop where
  sound : Sound env after
  buffer : ∀ other, after.buffer other = if other = key then [] else before.buffer other
  held : (before.buffer key ++ after.held).Perm before.held

theorem Drains.resolve (h : Sound env cache) (info : SubscriptionInfo δ)
    (cachedContentId : Option String) (yangCtx : Option γ) :
    Drains env cache (cache.insert info.peerIp
      ((cache.orDefault info.peerIp).resolve info cachedContentId yangCtx)) info.key := by
  have hs : SoundAt env info.peerIp info.id
      (⟨cachedContentId, info, yangCtx, [], false⟩ : CachedSubscription δ γ μ) :=
    ⟨rfl, fun _ => rfl, fun hfalse => Bool.noConfusion hfalse, by simp⟩
  have hp : ((cache.orDefault info.peerIp).resolve info cachedContentId yangCtx).subscriptions =
      (cache.orDefault info.peerIp).subscriptions.insert info.id
        ⟨cachedContentId, info, yangCtx, [], false⟩ := rfl
  exact ⟨h.put hs hp, buffer_put hp, held_put hp⟩

/-! ## Subscriptions that have changed -/

variable [DecidableEq δ]

theorem find_checkSubscriptionNew (cache : PeerCache δ γ μ) (peer : IpAddr)
    (info : SubscriptionInfo δ) (peer' : IpAddr) (id : Nat) :
    find (cache.checkSubscriptionNew peer info) peer' id =
      if (peer', id) = (peer, info.id) then
        (cache.find peer info.id).filter (·.subscriptionInfo = info)
      else cache.find peer' id := by
  rw [checkSubscriptionNew]
  cases hlookup : cache.lookup peer with
  | none =>
    have hnone : cache.find peer info.id = none := by rw [find, hlookup]; rfl
    simp only
    split
    · rename_i heq
      obtain ⟨rfl, rfl⟩ := Prod.mk.inj heq
      rw [hnone]
      rfl
    · rfl
  | some p =>
    have hfind (id : Nat) : cache.find peer id = p.subscriptions.lookup id := by
      rw [find, hlookup]
      rfl
    have hremove (id : Nat) : (p.remove info.id).subscriptions.lookup id =
        if id = info.id then none else p.subscriptions.lookup id :=
      lookup_erase_ite p.subscriptions info.id id
    simp only
    split
    · -- The subscription is the same.
      rename_i hsame
      obtain ⟨s, hs, hinfo⟩ := Option.map_eq_some_iff.mp hsame
      split
      · rename_i heq
        obtain ⟨rfl, rfl⟩ := Prod.mk.inj heq
        rw [hfind, hs, Option.filter_some, if_pos (decide_eq_true hinfo)]
      · rfl
    · rename_i hchanged
      have hfilter : (cache.find peer info.id).filter (·.subscriptionInfo = info) = none := by
        rw [hfind]
        cases hs : p.subscriptions.lookup info.id with
        | none => rfl
        | some s =>
          rw [hs, Option.map_some, Option.some.injEq] at hchanged
          simp [hchanged]
      rw [hfilter]
      split
      · -- It was the last one of the device.
        rename_i hempty
        have hnone (id : Nat) (hne : id ≠ info.id) : p.subscriptions.lookup id = none := by
          have hlast := hremove id
          rw [if_neg hne] at hlast
          rw [← hlast, AList.lookup, List.isEmpty_iff.mp hempty]
          rfl
        rw [find, lookup_erase_ite]
        by_cases hpeer : peer' = peer
        · subst hpeer
          by_cases hid : id = info.id
          · simp [hid]
          · simp [hid, hfind, hnone id hid]
        · simp [hpeer, find]
      · rw [find_insert, hremove]
        by_cases hpeer : peer' = peer
        · subst hpeer
          by_cases hid : id = info.id <;> simp [hid, hfind]
        · simp [hpeer]

theorem held_checkSubscriptionNew (cache : PeerCache δ γ μ) (peer : IpAddr)
    (info : SubscriptionInfo δ) (hempty : cache.buffer (peer, info.id) = []) :
    (held (cache.checkSubscriptionNew peer info)).Perm cache.held := by
  rw [checkSubscriptionNew]
  cases hlookup : cache.lookup peer with
  | none => exact List.Perm.refl _
  | some p =>
    have horDefault : cache.orDefault peer = p := by rw [orDefault, hlookup]; rfl
    have hbuffer := buffer_orDefault cache peer info.id
    have hsubs := p.subscriptions.held_erase info.id
    rw [horDefault, hempty] at hbuffer
    rw [hbuffer, List.nil_append] at hsubs
    have hheld := held_orDefault cache peer
    rw [horDefault] at hheld
    have hrest := hheld.trans (hsubs.append_right _)
    simp only
    split
    · exact List.Perm.refl _
    · split
      · rename_i hlast
        have hnil : Subscriptions.held (p.subscriptions.erase info.id) = [] := by
          rw [Subscriptions.held, contents]
          exact congrArg (List.flatMap _) (List.isEmpty_iff.mp hlast)
        rw [hnil, List.nil_append] at hrest
        exact hrest.symm
      · rw [held_insert]
        exact hrest.symm

/-- A subscription whose library is not being fetched has an empty buffer, so no packet is lost
with it. -/
theorem Keeps.checkSubscriptionNew (h : Sound env cache) (info : SubscriptionInfo δ)
    (hidle : ∀ s, cache.find peer info.id = some s → s.schemaFetchPending = false) :
    Keeps env cache (cache.checkSubscriptionNew peer info) := by
  have hempty : cache.buffer (peer, info.id) = [] := by
    cases hfind : cache.find peer info.id with
    | none => exact buffer_of_find_none hfind
    | some s => exact h.buffer_eq_nil hfind (hidle s hfind)
  refine ⟨fun peer' id s hs => ?_, fun key => ?_, held_checkSubscriptionNew cache peer info hempty⟩
  · rw [find_checkSubscriptionNew] at hs
    split at hs
    · rename_i heq
      obtain ⟨rfl, rfl⟩ := Prod.mk.inj heq
      exact h _ _ s (Option.eq_some_of_filter_eq_some hs)
    · exact h _ _ s hs
  · obtain ⟨peer', id⟩ := key
    rw [PeerCache.buffer, find_checkSubscriptionNew]
    split
    · rename_i heq
      rw [heq, hempty]
      cases hfind : cache.find peer info.id with
      | none => rfl
      | some s =>
        rw [buffer_of_find hfind] at hempty
        rw [Option.filter_some]
        split <;> simp [hempty]
    · rfl

end PeerCache

end NetCalyx.YangPush
