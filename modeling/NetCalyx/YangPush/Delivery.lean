import NetCalyx.YangPush.Handling

/-!
# What becomes of packets

`conserves_packets`: every packet that was received has been sent on or dropped, or is in a buffer
or in the queue, and none is sent on twice.

The packets of a subscription need not be sent on in the order in which they were received. When a
subscription is modified while its packets are in the queue, the notification goes back to the
buffer, and a response then puts it behind the packets that came after it.
`forwarded_in_order` says when this does not happen.
-/

namespace NetCalyx.YangPush
open Collections Wire PeerCache List

variable {δ γ μ : Type} {env : Environment δ γ μ}

namespace ValidationActor

variable {a : ValidationActor δ γ μ} {packet : μ}

/-! ## Handling a packet -/

/-- A packet is dropped, or buffered, or sent on when the buffer of its subscription is empty. -/
inductive Handled (env : Environment δ γ μ) (a : ValidationActor δ γ μ) (packet : μ) :
    ValidationActor δ γ μ → Prop where
  | dropped {cache : PeerCache δ γ μ} {lookups : List (CacheLookupCommand δ)} (reason : DropReason)
      (h : Keeps env a.peerCache cache) :
      Handled env a packet ({ a with peerCache := cache, lookups := lookups }.drop packet reason)
  | buffered {cache : PeerCache δ γ μ} {lookups : List (CacheLookupCommand δ)} {key : IpAddr × Nat}
      (hkey : env.keyOf packet = some key) (h : Gains env a.peerCache cache key packet) :
      Handled env a packet { a with peerCache := cache, lookups := lookups }
  | forwarded {cache : PeerCache δ γ μ} {lookups : List (CacheLookupCommand δ)} {key : IpAddr × Nat}
      (contentId : Option String) (info : SubscriptionInfo δ)
      (hkey : env.keyOf packet = some key) (hempty : a.peerCache.buffer key = [])
      (h : Keeps env a.peerCache cache) :
      Handled env a packet
        { a with
          peerCache := cache
          lookups := lookups
          forwarded := a.forwarded ++ [⟨contentId, info, packet⟩] }

variable [DecidableEq δ]

variable {a' : ValidationActor δ γ μ}

theorem Acted.handled (h : Acted env a packet a') : Handled env a packet a' := by
  cases h with
  | dropped reason hkeeps => exact .dropped reason hkeeps
  | waits hkey _ _ hgains => exact .buffered hkey hgains
  | forwarded hready =>
    exact .forwarded _ _ hready.key ((hready.keeps.buffer _).symm.trans hready.empty) hready.keeps
  | asks hasks hgains => exact .buffered hasks.key.1 hgains
  | asksInVain reason _ hkeeps => exact .dropped reason hkeeps

/-- A response is handled, or the first packet of the queue, or a new packet if the queue is
empty. -/
theorem step_cases (hsound : Sound env a.peerCache) {event : Event δ μ}
    (hstep : a.step env event = some a') :
    (∃ response cache, event = .response response ∧
      Drains env a.peerCache cache response.subscriptionInfo.key ∧
      a' = { a with
        peerCache := cache
        pendingPackets :=
          a.pendingPackets ++ a.peerCache.buffer response.subscriptionInfo.key }) ∨
    (∃ packet rest, a.pendingPackets = packet :: rest ∧
      Handled env { a with pendingPackets := rest } packet a') ∨
    ∃ packet, a.pendingPackets = [] ∧
      Handled env { a with received := a.received ++ [packet] } packet a' := by
  rcases step_acted hsound hstep with
    ⟨response, rfl, rfl⟩ | ⟨_, packet, rest, _, hpending, hacted⟩ | ⟨_, packet, _, hpending, hacted⟩
  · obtain ⟨cache, hdrains, _, heq⟩ := processCacheResponse_spec hsound response
    exact .inl ⟨response, cache, rfl, hdrains, heq⟩
  · exact .inr (.inl ⟨packet, rest, hpending, hacted.handled⟩)
  · exact .inr (.inr ⟨packet, hpending, hacted.handled⟩)

/-! ## Conservation -/

/-- Every packet that was received is in one place. -/
structure Conserved (env : Environment δ γ μ) (a : ValidationActor δ γ μ) : Prop where
  sound : Sound env a.peerCache
  places : a.received.Perm (a.forwarded.map (·.packet) ++ a.dropped.map (·.1) ++
    a.peerCache.held ++ a.pendingPackets)

omit [DecidableEq δ] in
/-- The packet in hand finds its place. -/
theorem Handled.conserved (h : Handled env a packet a')
    (hplaces : a.received.Perm (a.forwarded.map (·.packet) ++ a.dropped.map (·.1) ++ a.peerCache.held ++ packet :: a.pendingPackets)) :
    Conserved env a' := by
  classical
  rw [perm_iff_count] at hplaces
  cases h with
  | dropped reason hkeeps =>
    refine ⟨hkeeps.sound, perm_iff_count.mpr fun x => ?_⟩
    have hheld := hkeeps.held.count_eq x
    have hx := hplaces x
    simp only [drop, map_append, map_cons, map_nil, count_append,
      count_cons, count_nil] at hx ⊢
    omega
  | buffered hkey hgains =>
    refine ⟨hgains.sound, perm_iff_count.mpr fun x => ?_⟩
    have hheld := hgains.held.count_eq x
    have hx := hplaces x
    simp only [count_append, count_cons] at hheld hx ⊢
    omega
  | forwarded contentId info hkey hempty hkeeps =>
    refine ⟨hkeeps.sound, perm_iff_count.mpr fun x => ?_⟩
    have hheld := hkeeps.held.count_eq x
    have hx := hplaces x
    simp only [map_append, map_cons, map_nil, count_append,
      count_cons, count_nil] at hx ⊢
    omega

theorem Conserved.step (h : Conserved env a) {event : Event δ μ}
    (hstep : a.step env event = some a') : Conserved env a' := by
  rcases step_cases h.sound hstep with
    ⟨response, cache, -, hdrains, rfl⟩ | ⟨packet, rest, hpending, hhandled⟩ |
    ⟨packet, hpending, hhandled⟩
  · classical
    refine ⟨hdrains.sound, perm_iff_count.mpr fun x => ?_⟩
    have hheld := hdrains.held.count_eq x
    have hx := h.places.count_eq x
    simp only [count_append] at hheld hx ⊢
    omega
  · refine hhandled.conserved ?_
    rw [← hpending]
    exact h.places
  · refine hhandled.conserved ?_
    have hplaces := h.places
    rw [hpending, append_nil] at hplaces
    rw [hpending]
    exact hplaces.append_right [packet]

/-- In every run, the packets that were received are those that were sent on or dropped and those
in the buffers and in the queue, and no packet is sent on more often than it was received. -/
theorem conserves_packets (env : Environment δ γ μ) (events : List (Event δ μ))
    {a : ValidationActor δ γ μ}
    (hrun : Stepwise.run (step env) new events = some a) :
    a.received.length = a.forwarded.length + a.dropped.length + a.peerCache.held.length +
        a.pendingPackets.length ∧
      (a.forwarded.map (·.packet)).Subperm a.received := by
  have hconserved : Conserved env a :=
    Stepwise.run_invariant (Conserved env) (fun _ _ _ h hstep => h.step hstep)
      ⟨sound_new, List.Perm.refl _⟩ hrun
  constructor
  · rw [hconserved.places.length_eq]
    simp only [length_append, length_map]
  · rw [hconserved.places.subperm_left, append_assoc, append_assoc]
    exact (sublist_append_left _ _).subperm

/-- A device with one subscription: packet 1 tells that it was modified, all others are data. -/
def modifiedOnce : Environment Unit Unit Nat where
  peer _ := .v4 0
  decode packet :=
    if packet = 1 then some (some (.subscriptionStartedModified 7 (some ("new", ()))))
    else some (some (.other 7))
  context _ := some ()
  validates _ _ := true
  empty := ()
  maxBufferedPacketsPerSubscription := 10
  maxBufferedPacketsPerPeer := 10

theorem first_packet_conserved :
    ∃ a, Stepwise.run (step modifiedOnce) new
        [.packet 0 ⟨true, true⟩, .response ⟨none, ⟨.v4 0, 7, "old", ()⟩, none⟩,
          .pending ⟨true, true⟩] = some a ∧
      a.received.length = a.forwarded.length + a.dropped.length + a.peerCache.held.length +
        a.pendingPackets.length ∧
      (a.forwarded.map (·.packet)).Subperm a.received :=
  ⟨_, rfl, conserves_packets modifiedOnce [.packet 0 ⟨true, true⟩,
    .response ⟨none, ⟨.v4 0, 7, "old", ()⟩, none⟩, .pending ⟨true, true⟩] rfl⟩

/-! ## Order -/

/-- The packets of a subscription, in their order. -/
def packetsOf (env : Environment δ γ μ) (key : IpAddr × Nat) (packets : List μ) : List μ :=
  packets.filter fun packet => env.keyOf packet = some key

omit [DecidableEq δ] in
theorem packetsOf_append (key : IpAddr × Nat) (l l' : List μ) :
    packetsOf env key (l ++ l') = packetsOf env key l ++ packetsOf env key l' :=
  filter_append l l'

omit [DecidableEq δ] in
theorem packetsOf_buffer {cache : PeerCache δ γ μ} (hsound : Sound env cache)
    (key other : IpAddr × Nat) :
    packetsOf env key (cache.buffer other) = if key = other then cache.buffer other else [] := by
  have hfiled : ∀ packet ∈ cache.buffer other, env.keyOf packet = some other := by
    cases hfind : cache.find other.1 other.2 with
    | none => simp [PeerCache.buffer, hfind]
    | some s =>
      rw [show cache.buffer other = s.bufferedPackets from buffer_of_find hfind]
      exact (hsound _ _ s hfind).filed
  split
  · rename_i heq
    subst heq
    exact filter_eq_self.mpr fun packet hpacket => decide_eq_true (hfiled packet hpacket)
  · rename_i hne
    refine filter_eq_nil_iff.mpr fun packet hpacket => ?_
    rw [hfiled packet hpacket]
    simpa using Ne.symm hne

section

variable {key : IpAddr × Nat}

/-- What was sent on of a subscription, its buffer and the queue are in the order of receipt. -/
structure Ordered (env : Environment δ γ μ) (key : IpAddr × Nat) (a : ValidationActor δ γ μ) :
    Prop where
  sound : Sound env a.peerCache
  order : (packetsOf env key (a.forwarded.map (·.packet)) ++ a.peerCache.buffer key ++
    packetsOf env key a.pendingPackets).Sublist (packetsOf env key a.received)

omit [DecidableEq δ] in
/-- The packet in hand stands between the buffer and the queue. -/
theorem Handled.ordered (h : Handled env a packet a')
    (horder : (packetsOf env key (a.forwarded.map (·.packet)) ++ a.peerCache.buffer key ++ packetsOf env key (packet :: a.pendingPackets)).Sublist (packetsOf env key a.received))
    :
    Ordered env key a' := by
  -- Without the packet, the rest is still in order.
  have hwithout := ((List.Sublist.refl _).append
    ((sublist_cons_self packet a.pendingPackets).filter _)).trans horder
  have hcons : packetsOf env key (packet :: a.pendingPackets) =
      packetsOf env key [packet] ++ packetsOf env key a.pendingPackets :=
    packetsOf_append key [packet] _
  cases h with
  | dropped reason hkeeps =>
    refine ⟨hkeeps.sound, ?_⟩
    rw [drop, hkeeps.buffer]
    exact hwithout
  | @buffered cache lookups other hother hgains =>
    refine ⟨hgains.sound, ?_⟩
    rw [hgains.buffer]
    split
    · rename_i heq
      subst heq
      have hsame : packetsOf env key [packet] = [packet] := by simp [packetsOf, hother]
      rw [hcons, hsame] at horder
      simpa only [append_assoc] using horder
    · exact hwithout
  | @forwarded cache lookups other contentId info hother hempty hkeeps =>
    refine ⟨hkeeps.sound, ?_⟩
    rw [hkeeps.buffer, map_append, packetsOf_append]
    by_cases heq : key = other
    · subst heq
      rw [hcons, hempty] at horder
      rw [hempty, map_singleton]
      simpa only [append_assoc, nil_append] using horder
    · have hnone : packetsOf env key (List.map (·.packet)
          [(⟨contentId, info, packet⟩ : ValidatedNotification δ μ)]) = [] := by
        simp [packetsOf, hother, Ne.symm heq]
      rw [hnone, append_nil]
      exact hwithout

/-- When a response puts packets of the subscription in the queue, no other packets of the
subscription are there. -/
def Uncrossed (env : Environment δ γ μ) (key : IpAddr × Nat) (a : ValidationActor δ γ μ) :
    Event δ μ → ValidationActor δ γ μ → Prop
  | .response response, _ =>
    response.subscriptionInfo.key = key → a.peerCache.buffer key ≠ [] →
      ∀ packet ∈ a.pendingPackets, env.keyOf packet ≠ some key
  | _, _ => True

theorem Ordered.step (h : Ordered env key a) {event : Event δ μ}
    (hstep : a.step env event = some a') (huncrossed : Uncrossed env key a event a') :
    Ordered env key a' := by
  have hin := h.order
  rcases step_cases h.sound hstep with
    ⟨response, cache, rfl, hdrains, rfl⟩ | ⟨packet, rest, hpending, hhandled⟩ |
    ⟨packet, hpending, hhandled⟩
  · refine ⟨hdrains.sound, ?_⟩
    rw [hdrains.buffer, packetsOf_append, packetsOf_buffer h.sound]
    split
    · rename_i heq
      subst heq
      by_cases hempty : a.peerCache.buffer response.subscriptionInfo.key = []
      · rw [hempty] at hin ⊢
        simpa only [append_nil] using hin
      · have hnone : packetsOf env response.subscriptionInfo.key a.pendingPackets = [] :=
          filter_eq_nil_iff.mpr fun packet hpacket => by
            simpa using huncrossed rfl hempty packet hpacket
        rw [hnone] at hin ⊢
        simpa only [append_nil, nil_append] using hin
    · simpa only [append_nil] using hin
  · refine hhandled.ordered ?_
    rwa [← hpending]
  · refine hhandled.ordered ?_
    rw [hpending, show packetsOf env key [] = [] from rfl, append_nil] at hin
    rw [hpending, packetsOf_append]
    exact hin.append (List.Sublist.refl _)

end

/-- In a run in which all responses to a subscription are so, its packets are sent on in the order
in which they were received. -/
theorem forwarded_in_order (env : Environment δ γ μ) (events : List (Event δ μ))
    {a : ValidationActor δ γ μ} (hrun : Stepwise.run (step env) new events = some a)
    (key : IpAddr × Nat) (huncrossed : Stepwise.Along (step env) (Uncrossed env key) new events) :
    (packetsOf env key (a.forwarded.map (·.packet))).Sublist (packetsOf env key a.received) := by
  have hordered : Ordered env key a :=
    Stepwise.run_keeps (Ordered env key) (fun _ _ _ h hstep hgood => h.step hstep hgood)
      ⟨sound_new, List.Sublist.refl _⟩ hrun huncrossed
  have hin := hordered.order
  rw [append_assoc] at hin
  exact (sublist_append_left _ _).trans hin

/-- Packet 1 changes the subscription, and the second response comes when the queue is empty. -/
theorem three_packets_in_order :
    ∃ a, Stepwise.run (step modifiedOnce) new
        [.packet 0 ⟨true, true⟩, .packet 1 ⟨true, true⟩,
          .response ⟨none, ⟨.v4 0, 7, "old", ()⟩, none⟩, .pending ⟨true, true⟩,
          .pending ⟨true, true⟩, .response ⟨none, ⟨.v4 0, 7, "new", ()⟩, none⟩,
          .pending ⟨true, true⟩, .packet 2 ⟨true, true⟩] = some a ∧
      a.forwarded.map (·.packet) = [0, 1, 2] ∧
      (packetsOf modifiedOnce (.v4 0, 7) (a.forwarded.map (·.packet))).Sublist
        (packetsOf modifiedOnce (.v4 0, 7) a.received) := by
  refine ⟨_, rfl, by decide, forwarded_in_order modifiedOnce [.packet 0 ⟨true, true⟩,
    .packet 1 ⟨true, true⟩, .response ⟨none, ⟨.v4 0, 7, "old", ()⟩, none⟩, .pending ⟨true, true⟩,
    .pending ⟨true, true⟩, .response ⟨none, ⟨.v4 0, 7, "new", ()⟩, none⟩,
    .pending ⟨true, true⟩, .packet 2 ⟨true, true⟩] rfl _ ?_⟩
  rintro _ ⟨⟩
  refine ⟨trivial, ?_⟩
  rintro _ ⟨⟩
  refine ⟨trivial, ?_⟩
  rintro _ ⟨⟩
  refine ⟨fun _ _ => nofun, ?_⟩
  rintro _ ⟨⟩
  refine ⟨trivial, ?_⟩
  rintro _ ⟨⟩
  refine ⟨trivial, ?_⟩
  rintro _ ⟨⟩
  refine ⟨fun _ _ => nofun, ?_⟩
  rintro _ ⟨⟩
  refine ⟨trivial, ?_⟩
  rintro _ ⟨⟩
  exact ⟨trivial, trivial⟩

/-- The subscription is modified by packet 1. The first response, for packet 0, puts the three
packets in the queue; packet 1 makes the actor ask again and is buffered; and the second response
comes before packet 2 was handled and puts packet 1 behind it. -/
theorem modification_overtaken :
    ∃ a, Stepwise.run (step modifiedOnce) new
        [.packet 0 ⟨true, true⟩, .packet 1 ⟨true, true⟩, .packet 2 ⟨true, true⟩,
          .response ⟨none, ⟨.v4 0, 7, "old", ()⟩, none⟩, .pending ⟨true, true⟩,
          .pending ⟨true, true⟩, .response ⟨none, ⟨.v4 0, 7, "new", ()⟩, none⟩,
          .pending ⟨true, true⟩, .pending ⟨true, true⟩] = some a ∧
      a.received = [0, 1, 2] ∧ a.forwarded.map (·.packet) = [0, 2, 1] ∧
      ¬ (packetsOf modifiedOnce (.v4 0, 7) (a.forwarded.map (·.packet))).Sublist
        (packetsOf modifiedOnce (.v4 0, 7) a.received) :=
  ⟨_, rfl, by decide, by decide, by decide⟩

end ValidationActor

end NetCalyx.YangPush
