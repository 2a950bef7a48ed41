import NetCalyx.YangPush.Delivery

/-!
# Lookups and their responses

An `Exchange` is the validation actor together with the lookups that the cache has not answered
yet. The cache answers a lookup at most once and may do so at any time; what it answers is for the
device and the subscription that the lookup is for.

`one_generation`: at any time at most one lookup is open for a subscription, and it is the newest
one. So a response is never older than what it takes the place of, and a packet that is sent on
under a content id has the subscription and the content id of the last response.
-/

namespace NetCalyx.YangPush
open Collections Wire PeerCache List

variable {δ γ μ : Type}

/-! ## The lookups of a subscription -/

/-- The device and the subscription that a lookup is for. -/
def CacheLookupCommand.key : CacheLookupCommand δ → Option (IpAddr × Nat)
  | bySubscriptionInfo info | bySubscriptionInfoOneShot info => some info.key
  | bySubscriptionId peerIp id | bySubscriptionIdOneShot peerIp id => some (peerIp, id)
  | byContentId _ | byContentIdOneShot _ => none

def isFor (key : IpAddr × Nat) (lookup : CacheLookupCommand δ) : Bool := lookup.key = some key

def lookupsOf (key : IpAddr × Nat) (lookups : List (CacheLookupCommand δ)) :
    List (CacheLookupCommand δ) :=
  lookups.filter (isFor key)

section LookupsOf

variable {key other : IpAddr × Nat} {lookups : List (CacheLookupCommand δ)}
  {lookup : CacheLookupCommand δ}

theorem lookupsOf_append_same (h : lookup.key = some key) :
    lookupsOf key (lookups ++ [lookup]) = lookupsOf key lookups ++ [lookup] := by
  have hfor : isFor key lookup = true := decide_eq_true h
  rw [lookupsOf, filter_append, filter_cons_of_pos hfor, filter_nil]
  rfl

theorem lookupsOf_append_other (h : lookup.key = some key) (hne : other ≠ key) :
    lookupsOf other (lookups ++ [lookup]) = lookupsOf other lookups := by
  have hnot : ¬ isFor other lookup = true := by
    rw [isFor, h]
    simpa using Ne.symm hne
  rw [lookupsOf, filter_append, filter_cons_of_neg hnot, filter_nil, append_nil]
  rfl

/-- The first lookup for a subscription is answered. -/
theorem lookupsOf_eraseP_same (key : IpAddr × Nat) (lookups : List (CacheLookupCommand δ)) :
    lookupsOf key (lookups.eraseP (isFor key)) = (lookupsOf key lookups).tail := by
  induction lookups with
  | nil => rfl
  | cons l ls ih =>
    by_cases h : isFor key l = true
    · rw [eraseP_cons_of_pos h, lookupsOf, lookupsOf, filter_cons_of_pos h]
      rfl
    · rw [eraseP_cons_of_neg h, lookupsOf, filter_cons_of_neg h, ← lookupsOf, ih,
        lookupsOf, lookupsOf, filter_cons_of_neg h]

theorem lookupsOf_eraseP_other (lookups : List (CacheLookupCommand δ)) (hne : other ≠ key) :
    lookupsOf other (lookups.eraseP (isFor key)) = lookupsOf other lookups := by
  induction lookups with
  | nil => rfl
  | cons l ls ih =>
    by_cases h : isFor key l = true
    · have hnot : ¬ isFor other l = true := by
        rw [isFor, of_decide_eq_true h]
        simpa using Ne.symm hne
      rw [eraseP_cons_of_pos h, lookupsOf, lookupsOf, filter_cons_of_neg hnot]
    · rw [eraseP_cons_of_neg h, lookupsOf, lookupsOf, filter_cons, filter_cons]
      split
      · exact congrArg (l :: ·) ih
      · exact ih

end LookupsOf

/-- The lookup of a packet that asks. -/
theorem ValidationActor.Asks.lookup_key [DecidableEq δ] {env : Environment δ γ μ}
    {cache : PeerCache δ γ μ} {packet : μ} {info : SubscriptionInfo δ}
    {lookup : CacheLookupCommand δ} (h : Asks env cache packet info lookup) :
    lookup.key = some info.key := by
  cases h with
  | changed | unknown => rfl

/-! ## What waits for a response -/

/-- A subscription waits for a response if and only if there is one open lookup for it, the last
one. -/
structure Waits (slots : IpAddr × Nat → Option (Slot δ))
    (lookups outstanding : List (CacheLookupCommand δ)) : Prop where
  pending : ∀ key s, slots key = some s → s.pending = true →
    ∃ l, lookupsOf key outstanding = [l] ∧ (lookupsOf key lookups).getLast? = some l
  idle : ∀ key, (∀ s ∈ slots key, s.pending = false) → lookupsOf key outstanding = []

namespace Waits

variable {slots : IpAddr × Nat → Option (Slot δ)} {lookups outstanding : List (CacheLookupCommand δ)}
  {key : IpAddr × Nat}

variable (h : Waits slots lookups outstanding)
include h

/-- What is open is waited for. -/
theorem of_ne_nil (hopen : lookupsOf key outstanding ≠ []) :
    ∃ s, slots key = some s ∧ s.pending = true := by
  by_contra hnot
  refine hopen (h.idle key fun s hs => ?_)
  rw [← Bool.not_eq_true]
  exact fun hpending => hnot ⟨s, hs, hpending⟩

theorem length_le (key : IpAddr × Nat) : (lookupsOf key outstanding).length ≤ 1 := by
  by_cases hopen : lookupsOf key outstanding = []
  · rw [hopen]
    exact Nat.zero_le 1
  · obtain ⟨s, hs, hpending⟩ := h.of_ne_nil hopen
    obtain ⟨l, hl, -⟩ := h.pending key s hs hpending
    rw [hl, length_singleton]

theorem asks (hidle : ∀ s ∈ slots key, s.pending = false) {l : CacheLookupCommand δ}
    (hl : l.key = some key) (s : Slot δ) (hs : s.pending = true) :
    Waits (Function.update slots key (some s)) (lookups ++ [l]) (outstanding ++ [l]) := by
  have hnone := h.idle key hidle
  constructor
  · intro key' s' hs' hpending
    by_cases heq : key' = key
    · subst heq
      refine ⟨l, ?_, ?_⟩
      · rw [lookupsOf_append_same hl, hnone, nil_append]
      · rw [lookupsOf_append_same hl, getLast?_concat]
    · rw [Function.update_of_ne heq] at hs'
      rw [lookupsOf_append_other hl heq, lookupsOf_append_other hl heq]
      exact h.pending key' s' hs' hpending
  · intro key' hidle'
    by_cases heq : key' = key
    · subst heq
      rw [hidle' s (by rw [Function.update_self]; rfl)] at hs
      cases hs
    · rw [Function.update_of_ne heq] at hidle'
      rw [lookupsOf_append_other hl heq]
      exact h.idle key' hidle'

theorem answered (s : Slot δ) (hs : s.pending = false) :
    Waits (Function.update slots key (some s)) lookups (outstanding.eraseP (isFor key)) := by
  constructor
  · intro key' s' hs' hpending
    by_cases heq : key' = key
    · subst heq
      rw [Function.update_self, Option.some.injEq] at hs'
      rw [← hs', hs] at hpending
      cases hpending
    · rw [Function.update_of_ne heq] at hs'
      rw [lookupsOf_eraseP_other _ heq]
      exact h.pending key' s' hs' hpending
  · intro key' hidle
    by_cases heq : key' = key
    · subst heq
      rw [lookupsOf_eraseP_same, ← length_eq_zero_iff, length_tail]
      have hone := h.length_le key'
      omega
    · rw [Function.update_of_ne heq] at hidle
      rw [lookupsOf_eraseP_other _ heq]
      exact h.idle key' hidle

end Waits

/-! ## The exchange -/

/-- The actor, the lookups without a response, and the last response that was applied to each
subscription. -/
structure Exchange (δ γ μ : Type) where
  actor : ValidationActor δ γ μ
  outstanding : List (CacheLookupCommand δ)
  applied : IpAddr × Nat → Option (CacheResponse δ)

namespace Exchange

open ValidationActor

def new : Exchange δ γ μ := ⟨.new, [], fun _ => none⟩

variable [DecidableEq δ] (env : Environment δ γ μ)

/-- A turn of the actor. A response answers one of the lookups; the lookups that the turn makes
are open after it. -/
def step (x : Exchange δ γ μ) (event : Event δ μ) : Option (Exchange δ γ μ) :=
  match event with
  | .response response =>
    let key := response.subscriptionInfo.key
    if x.outstanding.any (isFor key) then
      some
        { actor := x.actor.processCacheResponse env response
          outstanding := x.outstanding.eraseP (isFor key)
          applied :=
            if (x.actor.peerCache.slot key).isSome then
              Function.update x.applied key (some response)
            else x.applied }
    else none
  | event =>
    (x.actor.step env event).map fun actor =>
      { x with
        actor := actor
        outstanding := x.outstanding ++ actor.lookups.drop x.actor.lookups.length }

/-- What a turn should do: at most one lookup is open for a subscription; what is sent on under a
content id has the subscription and the content id of the last response that was applied; and a
response answers the newest lookup for its subscription. -/
structure OneGeneration (x : Exchange δ γ μ) (event : Event δ μ) (x' : Exchange δ γ μ) :
    Prop where
  single : ∀ key, (lookupsOf key x'.outstanding).length ≤ 1
  forwarded : ∀ n ∈ x'.actor.forwarded.drop x.actor.forwarded.length, ∀ contentId,
    n.cachedContentId = some contentId →
      env.keyOf n.packet = some n.subscriptionInfo.key ∧
      ∃ response, x.applied n.subscriptionInfo.key = some response ∧
        response.subscriptionInfo = n.subscriptionInfo ∧
        response.cachedContentId = some contentId
  newest : ∀ response, event = .response response → ∃ l,
    lookupsOf response.subscriptionInfo.key x.outstanding = [l] ∧
    (lookupsOf response.subscriptionInfo.key x.actor.lookups).getLast? = some l

variable {env} {x x' : Exchange δ γ μ} {event : Event δ μ}

/-! ## What is kept -/

/-- What waits for a response, and where what is known of a subscription comes from. -/
structure Coherent (env : Environment δ γ μ) (x : Exchange δ γ μ) : Prop where
  sound : Sound env x.actor.peerCache
  waits : Waits x.actor.peerCache.slot x.actor.lookups x.outstanding
  known : ∀ key s contentId, x.actor.peerCache.slot key = some s →
    s.contentId = some contentId → ∃ response, x.applied key = some response ∧
      response.subscriptionInfo = s.info ∧ response.cachedContentId = some contentId

omit [DecidableEq δ] in
theorem coherent_new : Coherent env (new : Exchange δ γ μ) :=
  ⟨sound_new, ⟨(fun _ _ h => nomatch h), fun _ _ => rfl⟩, fun _ _ _ h => nomatch h⟩

/-- What a turn does. A response answers the one lookup that its subscription waits for. -/
inductive Turned (env : Environment δ γ μ) (x : Exchange δ γ μ) :
    Event δ μ → Exchange δ γ μ → Prop where
  | answered {response : CacheResponse δ} {l : CacheLookupCommand δ} {s : Slot δ}
      {cache : PeerCache δ γ μ}
      (hopen : lookupsOf response.subscriptionInfo.key x.outstanding = [l])
      (hnewest : (lookupsOf response.subscriptionInfo.key x.actor.lookups).getLast? = some l)
      (hslot : x.actor.peerCache.slot response.subscriptionInfo.key = some s)
      (hpending : s.pending = true)
      (hdrains : Drains env x.actor.peerCache cache response.subscriptionInfo.key)
      (hslots : cache.slot = Function.update x.actor.peerCache.slot response.subscriptionInfo.key
        (some response.slot)) :
      Turned env x (.response response)
        { actor :=
            { x.actor with
              peerCache := cache
              pendingPackets := x.actor.pendingPackets ++
                x.actor.peerCache.buffer response.subscriptionInfo.key }
          outstanding := x.outstanding.eraseP (isFor response.subscriptionInfo.key)
          applied := Function.update x.applied response.subscriptionInfo.key (some response) }
  | queued {channels : Channels} {packet : μ} {rest : List μ} {a' : ValidationActor δ γ μ}
      (hqueue : x.actor.pendingPackets = packet :: rest)
      (hacted : Acted env { x.actor with pendingPackets := rest } packet a') :
      Turned env x (.pending channels)
        ⟨a', x.outstanding ++ a'.lookups.drop x.actor.lookups.length, x.applied⟩
  | received {channels : Channels} {packet : μ} {a' : ValidationActor δ γ μ}
      (hqueue : x.actor.pendingPackets = [])
      (hacted : Acted env { x.actor with received := x.actor.received ++ [packet] } packet a') :
      Turned env x (.packet packet channels)
        ⟨a', x.outstanding ++ a'.lookups.drop x.actor.lookups.length, x.applied⟩

variable (h : Coherent env x)
include h

theorem Coherent.answered {response : CacheResponse δ}
    (hstep : x.step env (.response response) = some x') : Turned env x (.response response) x' := by
  unfold step at hstep
  simp only at hstep
  split at hstep
  · rename_i hany
    obtain ⟨l₀, hmem, hfor⟩ := any_eq_true.mp hany
    have hopen : lookupsOf response.subscriptionInfo.key x.outstanding ≠ [] :=
      ne_nil_of_mem (mem_filter.mpr ⟨hmem, hfor⟩)
    obtain ⟨s, hslot, hpending⟩ := h.waits.of_ne_nil hopen
    obtain ⟨l, hone, hnewest⟩ := h.waits.pending _ s hslot hpending
    obtain ⟨cache, hdrains, hslots, heq⟩ := processCacheResponse_spec h.sound response
    have hslots : cache.slot = Function.update x.actor.peerCache.slot
        response.subscriptionInfo.key (some response.slot) := by
      rcases hslots with ⟨hnone, _⟩ | ⟨_, hslots⟩
      · rw [hslot] at hnone
        cases hnone
      · exact hslots
    rw [hslot, Option.isSome_some, if_pos rfl, heq] at hstep
    cases hstep
    exact .answered hone hnewest hslot hpending hdrains hslots
  · cases hstep

theorem Coherent.turned (hstep : x.step env event = some x') : Turned env x event x' := by
  cases event with
  | response response => exact h.answered hstep
  | pending channels =>
    obtain ⟨a', ha', rfl⟩ := Option.map_eq_some_iff.mp hstep
    rcases step_acted h.sound ha' with
      ⟨_, hevent, _⟩ | ⟨_, packet, rest, _, hqueue, hacted⟩ | ⟨_, _, hevent, _⟩
    · cases hevent
    · exact .queued hqueue hacted
    · cases hevent
  | packet packet channels =>
    obtain ⟨a', ha', rfl⟩ := Option.map_eq_some_iff.mp hstep
    rcases step_acted h.sound ha' with
      ⟨_, hevent, _⟩ | ⟨_, _, _, hevent, _⟩ | ⟨_, packet, hevent, hqueue, hacted⟩
    · cases hevent
    · cases hevent
    · cases hevent
      exact .received hqueue hacted

/-- A packet is handled; `a` is the actor with the packet in hand. -/
theorem Coherent.acted {a a' : ValidationActor δ γ μ} {packet : μ} (hacted : Acted env a packet a')
    (hcache : a.peerCache = x.actor.peerCache) (hlookups : a.lookups = x.actor.lookups) :
    Coherent env ⟨a', x.outstanding ++ a'.lookups.drop x.actor.lookups.length, x.applied⟩ := by
  obtain ⟨hsound, hwaits, hknown⟩ := h
  rw [← hcache] at hsound hwaits hknown
  rw [← hlookups] at hwaits ⊢
  -- Without a new lookup nothing is known that was not known before.
  have hsame {cache : PeerCache δ γ μ} (hafter : Sound env cache)
      (hslots : cache.slot = a.peerCache.slot) {a' : ValidationActor δ γ μ}
      (hcache' : a'.peerCache = cache) (hlookups' : a'.lookups = a.lookups) :
      Coherent env ⟨a', x.outstanding ++ a'.lookups.drop a.lookups.length, x.applied⟩ := by
    rw [← hcache'] at hafter hslots
    refine ⟨hafter, ?_, ?_⟩
    · rw [hlookups', drop_length, append_nil, hslots]
      exact hwaits
    · intro key s contentId hs
      rw [hslots] at hs
      exact hknown key s contentId hs
  have hasked {cache : PeerCache δ γ μ} {info : SubscriptionInfo δ}
      {lookup : CacheLookupCommand δ} (hafter : Sound env cache)
      (hasks : Asks env a.peerCache packet info lookup)
      (hslots : cache.slot =
        Function.update a.peerCache.slot info.key (some ⟨info, none, true⟩))
      {a' : ValidationActor δ γ μ} (hcache' : a'.peerCache = cache)
      (hlookups' : a'.lookups = a.lookups ++ [lookup]) :
      Coherent env ⟨a', x.outstanding ++ a'.lookups.drop a.lookups.length, x.applied⟩ := by
    rw [← hcache'] at hafter hslots
    refine ⟨hafter, ?_, ?_⟩
    · rw [hlookups', drop_left, hslots]
      exact hwaits.asks hasks.not_pending hasks.lookup_key _ rfl
    · intro key s contentId hs hcontent
      rw [hslots, Function.update_apply] at hs
      split at hs
      · rw [← Option.some.inj hs] at hcontent
        cases hcontent
      · exact hknown key s contentId hs hcontent
  cases hacted with
  | dropped reason hkeeps hslots => exact hsame hkeeps.sound hslots rfl rfl
  | waits hkey hslot hpending hgains hslots => exact hsame hgains.sound hslots rfl rfl
  | forwarded hready hslot hidle htold hcontent hslots =>
    exact hsame hready.keeps.sound hslots rfl rfl
  | asks hasks hgains hslots => exact hasked hgains.sound hasks hslots rfl rfl
  | asksInVain reason hasks hkeeps hslots => exact hasked hkeeps.sound hasks hslots rfl rfl

/-- What is sent on under a content id is what the last response said. -/
theorem Coherent.forwarded {a a' : ValidationActor δ γ μ} {packet : μ}
    (hacted : Acted env a packet a') (hcache : a.peerCache = x.actor.peerCache)
    (hforwarded : a.forwarded = x.actor.forwarded) :
    ∀ n ∈ a'.forwarded.drop x.actor.forwarded.length, ∀ contentId,
      n.cachedContentId = some contentId →
        env.keyOf n.packet = some n.subscriptionInfo.key ∧
        ∃ response, x.applied n.subscriptionInfo.key = some response ∧
          response.subscriptionInfo = n.subscriptionInfo ∧
          response.cachedContentId = some contentId := by
  have hknown := h.known
  rw [← hcache] at hknown
  rw [← hforwarded]
  intro n hn contentId hsent
  have hnone : n ∉ a.forwarded.drop a.forwarded.length := by
    rw [drop_length]
    exact not_mem_nil
  cases hacted with
  | dropped | waits | asks | asksInVain => exact absurd hn hnone
  | forwarded hready hslot _ _ hcontent =>
    rw [drop_left, mem_singleton] at hn
    subst hn
    refine ⟨?_, hknown _ _ contentId hslot (hcontent contentId hsent)⟩
    rw [hready.key, SubscriptionInfo.key, hready.peer]

theorem Coherent.step (hstep : x.step env event = some x') : Coherent env x' := by
  cases h.turned hstep with
  | answered hopen hnewest hslot hpending hdrains hslots =>
    refine ⟨hdrains.sound, ?_, ?_⟩
    · rw [hslots]
      exact h.waits.answered _ rfl
    · intro key s contentId hs hcontent
      rw [hslots, Function.update_apply] at hs
      simp only [Function.update_apply]
      split at hs
      · rename_i response _ _ _ heq
        cases hs
        rw [if_pos heq]
        refine ⟨response, rfl, rfl, ?_⟩
        rw [CacheResponse.slot] at hcontent
        simp only at hcontent
        split at hcontent
        · exact hcontent
        · cases hcontent
      · rename_i hne
        rw [if_neg hne]
        exact h.known key s contentId hs hcontent
  | queued hqueue hacted | received hqueue hacted => exact h.acted hacted rfl rfl

theorem Coherent.oneGeneration (hstep : x.step env event = some x') :
    OneGeneration env x event x' := by
  have hsingle := (h.step hstep).waits.length_le
  cases h.turned hstep with
  | answered hopen hnewest =>
    refine ⟨hsingle, ?_, ?_⟩
    · intro n hn
      rw [drop_length] at hn
      cases hn
    · rintro _ ⟨⟩
      exact ⟨_, hopen, hnewest⟩
  | queued hqueue hacted | received hqueue hacted =>
    exact ⟨hsingle, h.forwarded hacted rfl rfl, fun _ hevent => nomatch hevent⟩

omit h

/-- In every run, whatever the devices send and whenever the cache responds, each turn leaves at
most one lookup open for a subscription, sends packets on under the last response that was applied
to their subscription, and lets a response answer only the newest lookup. -/
theorem one_generation (env : Environment δ γ μ) (events : List (Event δ μ)) :
    Stepwise.Along (step env) (OneGeneration env) new events := by
  apply Stepwise.along_of_invariant (Coherent env) _ coherent_new
  intro x event x' h hstep
  exact ⟨h.step hstep, h.oneGeneration hstep⟩

example : ∃ x, Stepwise.run (step modifiedOnce) new
    [.packet 0 ⟨true, true⟩,
      .response ⟨some "library", ⟨.v4 0, 7, "old", ()⟩, some ⟨"library", "directory"⟩⟩,
      .pending ⟨true, true⟩] = some x ∧
    x.actor.forwarded.map (·.cachedContentId) = [some "library"] ∧ x.outstanding.length = 0 :=
  ⟨_, rfl, rfl, rfl⟩

end Exchange

end NetCalyx.YangPush
