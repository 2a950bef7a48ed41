import NetCalyx.Collections.Map
import NetCalyx.Flow.Codec
import NetCalyx.Runs.Isolation

/-!
# The actor that collects flows

For each peer the actor keeps a codec with its templates, and beside it how many packets
of the peer were decoded since some time. A codec is made for every datagram, an entry of
the usage only for those that can be decoded. Purging the peers that were not used looks
at the usage alone: it forgets the usage of an idle peer and reports the peer, but leaves
its codec where it is.

`purge_frees_iff` says in which runs every peer that has a codec is reported in time, and
whoever is reported has none: those in which no purge finds an idle peer, and no peer
without an entry sends what cannot be decoded. The peers do not disturb each other
(`decodePkt_isolated`).
-/

namespace NetCalyx.Flow
open Wire Collections List AList

/-- When the counter was reset, and the packets since then. -/
structure PeerUsage where
  lastSet : Nat
  currentCount : Nat

/-- The part of the actor that belongs to its peers. -/
structure FlowCollectorActor (Peer : Type) where
  peersUsage : Map Peer PeerUsage
  clients : Map Peer FlowInfoCodec

/-- What the actor waits for. Times are those of a clock that does not go back. -/
inductive ActorInput (Peer : Type) where
  | datagram (buf : Octets) (addr : Peer)
  | purgePeer (peer : Peer)
  | purgeUnusedPeers (dur : Nat)
  | getPeers
  | other

namespace FlowInfoCodec

def new : FlowInfoCodec := ⟨TemplatesMap.empty, TemplatesMap.empty⟩

end FlowInfoCodec

/-- The counters of the templates are read and start again. -/
def TemplatesMap.resetProcessedCount {S : Type} (map : TemplatesMap S) : TemplatesMap S :=
  fun id => (map id).map fun template => { template with processedCount := 0 }

def FlowInfoCodec.resetProcessedCount (codec : FlowInfoCodec) : FlowInfoCodec :=
  ⟨codec.netflowV9TemplatesMap.resetProcessedCount, codec.ipfixTemplatesMap.resetProcessedCount⟩

namespace FlowCollectorActor

variable {Peer : Type} [DecidableEq Peer] {DateTime : Type} [Chrono DateTime]

def new : FlowCollectorActor Peer := ⟨∅, ∅⟩

variable (actor : FlowCollectorActor Peer)

/-- The codec of a peer, or a fresh one. -/
def codec (addr : Peer) : FlowInfoCodec :=
  (actor.clients.lookup addr).getD .new

def decodePkt (registry : Registry) (actor : FlowCollectorActor Peer) (buf : Octets) (addr : Peer) :
    FlowCollectorActor Peer × Option (Peer × FlowInfo DateTime) :=
  match (actor.codec addr).decode registry buf with
  | (codec, _, .ok (some pkt)) =>
    ({ actor with clients := actor.clients.insert addr codec.resetProcessedCount }, some (addr, pkt))
  | (codec, _, .ok none) => ({ actor with clients := actor.clients.insert addr codec }, none)
  | (codec, _, .error _) => ({ actor with clients := actor.clients.insert addr codec }, none)

def handleDecodedPkt (now : Nat) (actor : FlowCollectorActor Peer) :
    Option (Peer × FlowInfo DateTime) → FlowCollectorActor Peer
  | none => actor
  | some (peer, _) =>
    let usage := (actor.peersUsage.lookup peer).getD ⟨now, 0⟩
    { actor with
      peersUsage := actor.peersUsage.insert peer ⟨usage.lastSet, usage.currentCount + 1⟩ }

/-- The usage of a peer without templates is left as it is. -/
def handlePurgePeer (peer : Peer) : FlowCollectorActor Peer × Bool :=
  match actor.clients.lookup peer with
  | some _ => (⟨actor.peersUsage.erase peer, actor.clients.erase peer⟩, true)
  | none => (actor, false)

/-- Nothing was decoded for longer than `dur`. -/
def idle (now dur : Nat) (usage : PeerUsage) : Bool :=
  dur < now - usage.lastSet && usage.currentCount = 0

/-- A counter that is old and not zero starts again. -/
def refresh (now dur : Nat) (usage : PeerUsage) : PeerUsage :=
  if dur < now - usage.lastSet && 0 < usage.currentCount then ⟨now, 0⟩ else usage

/-- The codecs are not touched. -/
def handlePurgeUnusedPeers (now dur : Nat) (actor : FlowCollectorActor Peer) :
    FlowCollectorActor Peer × List Peer :=
  let keep : Peer → PeerUsage → Bool := fun _ usage => !idle now dur usage
  ({ actor with peersUsage := mapValues (refresh now dur) (retain keep actor.peersUsage) },
    (actor.peersUsage.entries.filter fun entry => idle now dur entry.2).map (·.1))

def handleGetPeers : List Peer := actor.clients.keys

/-- One turn of the actor, with the peers that it reports as purged. -/
def step (DateTime : Type) [Chrono DateTime] (registry : Registry) (actor : FlowCollectorActor Peer) :
    Nat × ActorInput Peer → FlowCollectorActor Peer × List Peer
  | (now, .datagram buf addr) =>
    let (actor, next) := actor.decodePkt registry buf addr
    (actor.handleDecodedPkt now (next : Option (Peer × FlowInfo DateTime)), [])
  | (_, .purgePeer peer) => ((actor.handlePurgePeer peer).1, [])
  | (now, .purgeUnusedPeers dur) => actor.handlePurgeUnusedPeers now dur
  | (_, .getPeers) => (actor, [])
  | (_, .other) => (actor, [])

/-! ## One turn -/

variable {registry : Registry} {actor : FlowCollectorActor Peer} {peer : Peer} {now dur : Nat}

/-- The datagram is a whole packet. -/
def Decodable (DateTime : Type) [Chrono DateTime] (registry : Registry)
    (actor : FlowCollectorActor Peer) (buf : Octets) (addr : Peer) : Prop :=
  ∃ pkt : FlowInfo DateTime, ((actor.codec addr).decode registry buf).2.2 = .ok (some pkt)

/-- A datagram makes a codec for its sender, and counts if it can be decoded. -/
theorem step_datagram (now : Nat) (buf : Octets) (addr : Peer) :
    (∃ codec, (actor.step DateTime registry (now, .datagram buf addr)).1.clients =
        actor.clients.insert addr codec) ∧
      ((Decodable DateTime registry actor buf addr ∧
          (actor.step DateTime registry (now, .datagram buf addr)).1.peersUsage =
            actor.peersUsage.insert addr
              ⟨((actor.peersUsage.lookup addr).getD ⟨now, 0⟩).lastSet,
                ((actor.peersUsage.lookup addr).getD ⟨now, 0⟩).currentCount + 1⟩) ∨
        (¬ Decodable DateTime registry actor buf addr ∧
          (actor.step DateTime registry (now, .datagram buf addr)).1.peersUsage =
            actor.peersUsage)) := by
  simp only [Decodable, step, decodePkt]
  generalize ((actor.codec addr).decode registry buf : _ × _ × Decoded DateTime) = decoded
  obtain ⟨codec, rest, err | _ | pkt⟩ := decoded
  · exact ⟨⟨codec, rfl⟩, .inr ⟨fun ⟨_, h⟩ => (nomatch h), rfl⟩⟩
  · exact ⟨⟨codec, rfl⟩, .inr ⟨fun ⟨_, h⟩ => (nomatch h), rfl⟩⟩
  · exact ⟨⟨codec.resetProcessedCount, rfl⟩, .inl ⟨⟨pkt, rfl⟩, rfl⟩⟩

/-- The peers that are reported are those that are idle. -/
theorem mem_purged : peer ∈ (actor.handlePurgeUnusedPeers now dur).2 ↔
    ∃ usage, actor.peersUsage.lookup peer = some usage ∧ idle now dur usage = true := by
  simp only [handlePurgeUnusedPeers, mem_map, mem_filter]
  constructor
  · rintro ⟨⟨key, usage⟩, ⟨hentry, hidle⟩, rfl⟩
    exact ⟨usage, mem_lookup_iff.mpr hentry, hidle⟩
  · rintro ⟨usage, hlookup, hidle⟩
    exact ⟨⟨peer, usage⟩, ⟨mem_lookup_iff.mp hlookup, hidle⟩, rfl⟩

theorem lookup_purged : (actor.handlePurgeUnusedPeers now dur).1.peersUsage.lookup peer =
    ((actor.peersUsage.lookup peer).filter fun usage => !idle now dur usage).map
      (refresh now dur) := by
  simp only [handlePurgeUnusedPeers, lookup_mapValues, lookup_retain]

variable {usage : PeerUsage}

/-- A peer that is not idle keeps its counter, or starts again at zero. -/
theorem lookup_kept (h : actor.peersUsage.lookup peer = some usage)
    (hidle : ¬ idle now dur usage = true) :
    (actor.handlePurgeUnusedPeers now dur).1.peersUsage.lookup peer =
      some (refresh now dur usage) := by
  rw [lookup_purged, h]
  simp [Option.filter, hidle]

/-- The input is not about the peer. -/
def Silent (peer : Peer) : ActorInput Peer → Prop
  | .datagram _ addr => addr ≠ peer
  | .purgePeer other => other ≠ peer
  | _ => True

/-- What others do leaves the usage of a peer as it is. -/
theorem usage_of_silent {input : ActorInput Peer} (h : Silent peer input)
    (hpurge : ∀ dur, input ≠ .purgeUnusedPeers dur) :
    (actor.step DateTime registry (now, input)).1.peersUsage.lookup peer =
      actor.peersUsage.lookup peer := by
  cases input with
  | datagram buf addr =>
    obtain ⟨-, ⟨-, husage⟩ | ⟨-, husage⟩⟩ := @step_datagram Peer _ DateTime _ registry actor now buf addr
    · rw [husage, lookup_insert_ne (Ne.symm h)]
    · rw [husage]
  | purgePeer other =>
    simp only [step, handlePurgePeer]
    cases actor.clients.lookup other with
    | none => rfl
    | some codec => exact lookup_erase_ne (Ne.symm h)
  | purgeUnusedPeers dur => exact absurd rfl (hpurge dur)
  | getPeers | other => rfl

/-! ## Runs -/

/-- The actor behind a run. -/
def after (DateTime : Type) [Chrono DateTime] (registry : Registry) :
    FlowCollectorActor Peer → List (Nat × ActorInput Peer) → FlowCollectorActor Peer
  | actor, [] => actor
  | actor, event :: events => after DateTime registry (actor.step DateTime registry event).1 events

/-- The peers that are reported along a run. -/
def reports (DateTime : Type) [Chrono DateTime] (registry : Registry) :
    FlowCollectorActor Peer → List (Nat × ActorInput Peer) → List Peer
  | _, [] => []
  | actor, event :: events =>
    (actor.step DateTime registry event).2 ++
      reports DateTime registry (actor.step DateTime registry event).1 events

/-- Inputs with the times at which they are handled. -/
def Ordered (events : List (Nat × ActorInput Peer)) : Prop := (events.map (·.1)).Pairwise (· ≤ ·)

/-- The run has purges for `dur` at the given times. -/
def PurgesAt (dur : Nat) (times : List Nat) (events : List (Nat × ActorInput Peer)) : Prop :=
  (times.map fun time => (time, ActorInput.purgeUnusedPeers dur)).Sublist events

/-- However a run goes on, if the peer is silent and there are enough purges at intervals
of more than `dur`, then one of the purges reports the peer. -/
def EventuallyReported (DateTime : Type) [Chrono DateTime] (registry : Registry)
    (before : List (Nat × ActorInput Peer)) (peer : Peer) : Prop :=
  ∃ n, ∀ dur times events, Ordered (before ++ events) → (∀ event ∈ events, Silent peer event.2) →
    times.length = n → times.Pairwise (fun first second => first + dur < second) →
    PurgesAt dur times events → peer ∈ reports DateTime registry (after DateTime registry new before) events

/-! ## Peers that stay silent -/

variable {events : List (Nat × ActorInput Peer)}

/-- A counter at zero that was set early enough: the next purge that comes late enough
reports the peer. -/
theorem reported_of_zero {time lastSet : Nat} (hsilent : ∀ event ∈ events, Silent peer event.2)
    (hlookup : actor.peersUsage.lookup peer = some ⟨lastSet, 0⟩) (hlate : lastSet + dur < time)
    (hpurge : (time, ActorInput.purgeUnusedPeers dur) ∈ events) :
    peer ∈ reports DateTime registry actor events := by
  induction events generalizing actor with
  | nil => cases hpurge
  | cons event events ih =>
    obtain ⟨now, input⟩ := event
    rw [forall_mem_cons] at hsilent
    by_cases hown : ∃ dur', input = .purgeUnusedPeers dur'
    · obtain ⟨dur', rfl⟩ := hown
      by_cases hidle : idle now dur' ⟨lastSet, 0⟩ = true
      · exact mem_append_left _ (mem_purged.mpr ⟨_, hlookup, hidle⟩)
      · refine mem_append_right _ (ih hsilent.2 ?_ ?_)
        · show (actor.handlePurgeUnusedPeers now dur').1.peersUsage.lookup peer = _
          rw [lookup_kept hlookup hidle]
          simp [refresh]
        · rcases mem_cons.mp hpurge with heq | hlater
          · cases heq
            refine absurd ?_ hidle
            simp only [idle, Bool.and_eq_true, decide_eq_true_iff, and_true]
            omega
          · exact hlater
    · have hother : ∀ dur', input ≠ .purgeUnusedPeers dur' := fun dur' h => hown ⟨dur', h⟩
      refine mem_append_right _ (ih hsilent.2 ?_ ?_)
      · rw [usage_of_silent hsilent.1 hother, hlookup]
      · rcases mem_cons.mp hpurge with heq | hlater
        · cases heq
          exact absurd rfl (hother dur)
        · exact hlater

/-- Two purges report a peer whose counter was set early enough for the first one, or is
at zero already. -/
theorem reported_of_two {first second : Nat} (hordered : Ordered events)
    (hsilent : ∀ event ∈ events, Silent peer event.2)
    (hlookup : actor.peersUsage.lookup peer = some usage)
    (hearly : usage.lastSet + dur < first ∨ usage.currentCount = 0 ∧ usage.lastSet ≤ first)
    (hspaced : first + dur < second) (hpurges : PurgesAt dur [first, second] events) :
    peer ∈ reports DateTime registry actor events := by
  induction events generalizing actor usage with
  | nil => cases hpurges
  | cons event events ih =>
    obtain ⟨now, input⟩ := event
    rw [forall_mem_cons] at hsilent
    obtain ⟨htimes, hrest⟩ := pairwise_cons.mp hordered
    cases hpurges with
    | cons_cons _ hsecond =>
      -- this is the first purge
      have hmem : (second, ActorInput.purgeUnusedPeers dur) ∈ events :=
        singleton_sublist.mp hsecond
      by_cases hidle : idle first dur usage = true
      · exact mem_append_left _ (mem_purged.mpr ⟨usage, hlookup, hidle⟩)
      · have hzero : ∃ lastSet, refresh first dur usage = ⟨lastSet, 0⟩ ∧ lastSet ≤ first := by
          obtain ⟨lastSet, count⟩ := usage
          simp only [idle, Bool.and_eq_true, decide_eq_true_iff] at hidle hearly
          by_cases hcount : count = 0
          · subst hcount
            exact ⟨lastSet, by simp [refresh], by omega⟩
          · refine ⟨first, ?_, le_rfl⟩
            rw [refresh, if_pos]
            simp only [Bool.and_eq_true, decide_eq_true_iff]
            omega
        obtain ⟨lastSet, hrefresh, hle⟩ := hzero
        have hkept := (lookup_kept hlookup hidle).trans (congrArg some hrefresh)
        exact mem_append_right _
          (reported_of_zero hsilent.2 hkept (hspaced.trans_le' (by omega)) hmem)
    | cons _ hboth =>
      have hnow : now ≤ first := by
        have hmem : (first, ActorInput.purgeUnusedPeers dur) ∈ events :=
          hboth.subset mem_cons_self
        exact htimes first (mem_map_of_mem hmem)
      by_cases hpurge : ∃ dur', input = .purgeUnusedPeers dur'
      · obtain ⟨dur', rfl⟩ := hpurge
        by_cases hidle : idle now dur' usage = true
        · exact mem_append_left _ (mem_purged.mpr ⟨usage, hlookup, hidle⟩)
        · refine mem_append_right _ (ih hrest hsilent.2 (lookup_kept hlookup hidle) ?_ hboth)
          unfold refresh
          split
          · exact .inr ⟨rfl, hnow⟩
          · exact hearly
      · have hother : ∀ dur', input ≠ .purgeUnusedPeers dur' := fun dur' h => hpurge ⟨dur', h⟩
        refine mem_append_right _ (ih hrest hsilent.2 ?_ hearly hboth)
        rw [usage_of_silent hsilent.1 hother, hlookup]

/-- Without an entry of the usage no purge reports the peer. -/
theorem not_reported {times : List Nat} (h : actor.peersUsage.lookup peer = none) :
    peer ∉ reports DateTime registry actor
      (times.map fun time => (time, ActorInput.purgeUnusedPeers dur)) := by
  induction times generalizing actor with
  | nil => exact not_mem_nil
  | cons time times ih =>
    rw [map_cons, reports, mem_append, not_or]
    refine ⟨fun hreported => ?_, ih ?_⟩
    · obtain ⟨usage, hlookup, -⟩ := mem_purged.mp hreported
      rw [h] at hlookup
      cases hlookup
    · show (actor.handlePurgeUnusedPeers time dur).1.peersUsage.lookup peer = none
      rw [lookup_purged, h]
      rfl

/-! ## What holds along a run -/

theorem after_append (events later : List (Nat × ActorInput Peer)) :
    after DateTime registry actor (events ++ later) =
      after DateTime registry (after DateTime registry actor events) later := by
  induction events generalizing actor with
  | nil => rfl
  | cons event events ih => exact ih

/-- All that one turn can do to a peer. -/
theorem step_peer (actor : FlowCollectorActor Peer) (now : Nat) (input : ActorInput Peer)
    (peer : Peer) :
    ((actor.step DateTime registry (now, input)).1.clients.lookup peer = actor.clients.lookup peer ∧
        (actor.step DateTime registry (now, input)).1.peersUsage.lookup peer =
          actor.peersUsage.lookup peer) ∨
      (∃ buf, input = .datagram buf peer ∧
        ((actor.step DateTime registry (now, input)).1.clients.lookup peer).isSome ∧
        ((Decodable DateTime registry actor buf peer ∧ ∃ count,
            (actor.step DateTime registry (now, input)).1.peersUsage.lookup peer =
              some ⟨((actor.peersUsage.lookup peer).getD ⟨now, 0⟩).lastSet, count⟩) ∨
          (¬ Decodable DateTime registry actor buf peer ∧
            (actor.step DateTime registry (now, input)).1.peersUsage.lookup peer =
              actor.peersUsage.lookup peer))) ∨
      ((actor.step DateTime registry (now, input)).1.clients.lookup peer = none ∧
        (actor.step DateTime registry (now, input)).1.peersUsage.lookup peer = none) ∨
      (∃ dur, input = .purgeUnusedPeers dur ∧
        (actor.step DateTime registry (now, input)).1.clients.lookup peer =
          actor.clients.lookup peer ∧
        (actor.step DateTime registry (now, input)).1.peersUsage.lookup peer =
          ((actor.peersUsage.lookup peer).filter fun usage => !idle now dur usage).map
            (refresh now dur)) := by
  cases input with
  | datagram buf addr =>
    obtain ⟨⟨codec, hclients⟩, husage⟩ := @step_datagram Peer _ DateTime _ registry actor now buf addr
    by_cases hpeer : addr = peer
    · subst hpeer
      refine .inr (.inl ⟨buf, rfl, by rw [hclients, lookup_insert]; rfl, ?_⟩)
      obtain ⟨hdecodable, husage⟩ | ⟨hnot, husage⟩ := husage
      · exact .inl ⟨hdecodable, _, by rw [husage, lookup_insert]⟩
      · exact .inr ⟨hnot, by rw [husage]⟩
    · refine .inl ⟨by rw [hclients, lookup_insert_ne (Ne.symm hpeer)], ?_⟩
      exact usage_of_silent hpeer fun _ h => nomatch h
  | purgePeer other =>
    simp only [step, handlePurgePeer]
    cases hclient : actor.clients.lookup other with
    | none => exact .inl ⟨rfl, rfl⟩
    | some codec =>
      by_cases hpeer : other = peer
      · subst hpeer
        exact .inr (.inr (.inl ⟨lookup_erase .., lookup_erase ..⟩))
      · exact .inl ⟨lookup_erase_ne (Ne.symm hpeer), lookup_erase_ne (Ne.symm hpeer)⟩
  | purgeUnusedPeers dur => exact .inr (.inr (.inr ⟨dur, rfl, rfl, lookup_purged⟩))
  | getPeers | other => exact .inl ⟨rfl, rfl⟩

/-- Whoever has an entry of the usage has a codec. -/
theorem client_of_usage (events : List (Nat × ActorInput Peer)) (peer : Peer)
    (h : ((after DateTime registry new events).peersUsage.lookup peer).isSome) :
    ((after DateTime registry new events).clients.lookup peer).isSome := by
  induction events using List.reverseRecOn with
  | nil => cases h
  | append_singleton events event ih =>
    rw [after_append] at h ⊢
    obtain ⟨hclient, husage⟩ | ⟨buf, -, hclient, -⟩ | ⟨-, husage⟩ | ⟨dur, -, hclient, husage⟩ :=
      @step_peer Peer _ DateTime _ registry (after DateTime registry new events) event.1 event.2 peer
    · exact (congrArg Option.isSome hclient).trans (ih ((congrArg Option.isSome husage).symm.trans h))
    · exact hclient
    · exact absurd h (by simp [after, husage])
    · refine (congrArg Option.isSome hclient).trans (ih ?_)
      have hkept := (congrArg Option.isSome husage).symm.trans h
      cases hlookup : (after DateTime registry new events).peersUsage.lookup peer with
      | none => simp [hlookup] at hkept
      | some usage => rfl

/-- A counter was set when something was handled. -/
theorem exists_lastSet (events : List (Nat × ActorInput Peer))
    (h : (after DateTime registry new events).peersUsage.lookup peer = some usage) :
    ∃ event ∈ events, event.1 = usage.lastSet := by
  induction events using List.reverseRecOn generalizing usage with
  | nil => cases h
  | append_singleton events event ih =>
    rw [after_append] at h
    have hbefore {usage' : PeerUsage} (hlast : usage'.lastSet = usage.lastSet)
        (hlookup : (after DateTime registry new events).peersUsage.lookup peer = some usage') :
        ∃ event' ∈ events ++ [event], event'.1 = usage.lastSet := by
      obtain ⟨event', hmem, htime⟩ := ih hlookup
      exact ⟨event', mem_append_left _ hmem, htime.trans hlast⟩
    have hnow (hlast : event.1 = usage.lastSet) :
        ∃ event' ∈ events ++ [event], event'.1 = usage.lastSet :=
      ⟨event, mem_append_right _ (mem_singleton_self event), hlast⟩
    obtain ⟨-, husage⟩ | ⟨buf, -, -, ⟨-, count, husage⟩ | ⟨-, husage⟩⟩ | ⟨-, husage⟩ |
        ⟨dur, -, -, husage⟩ := @step_peer Peer _ DateTime _ registry
          (after DateTime registry new events) event.1 event.2 peer
    · exact hbefore rfl (husage.symm.trans h)
    · have hset := Option.some.inj (husage.symm.trans h)
      cases hlookup : (after DateTime registry new events).peersUsage.lookup peer with
      | none =>
        rw [hlookup] at hset
        exact hnow (congrArg PeerUsage.lastSet hset)
      | some usage' =>
        rw [hlookup] at hset
        have hlast : usage'.lastSet = usage.lastSet := by rw [← hset]; rfl
        exact hbefore hlast hlookup
    · exact hbefore rfl (husage.symm.trans h)
    · cases husage.symm.trans h
    · have hset := husage.symm.trans h
      cases hlookup : (after DateTime registry new events).peersUsage.lookup peer with
      | none => simp [hlookup] at hset
      | some usage' =>
        rw [hlookup] at hset
        obtain ⟨kept, hkept, hrefresh⟩ := Option.map_eq_some_iff.mp hset
        obtain ⟨hsome, -⟩ := Option.filter_eq_some_iff.mp hkept
        obtain rfl := Option.some.inj hsome
        unfold refresh at hrefresh
        split at hrefresh
        · subst hrefresh
          exact hnow rfl
        · subst hrefresh
          exact hbefore rfl hlookup

/-! ## What purging frees -/

/-- Purging frees what the actor holds for its peers, all along a run. -/
structure Frees (DateTime : Type) [Chrono DateTime] (registry : Registry)
    (events : List (Nat × ActorInput Peer)) : Prop where
  cleared : ∀ before now dur later, events = before ++ (now, .purgeUnusedPeers dur) :: later →
    ∀ peer ∈ ((after DateTime registry new before).handlePurgeUnusedPeers now dur).2,
      ((after DateTime registry new before).handlePurgeUnusedPeers now dur).1.clients.lookup peer =
          none ∧
        ((after DateTime registry new before).handlePurgeUnusedPeers now dur).1.peersUsage.lookup
          peer = none
  kept : ∀ before now dur later, events = before ++ (now, .purgeUnusedPeers dur) :: later →
    ∀ peer ∉ ((after DateTime registry new before).handlePurgeUnusedPeers now dur).2,
      ((after DateTime registry new before).handlePurgeUnusedPeers now dur).1.clients.lookup peer =
        (after DateTime registry new before).clients.lookup peer
  reported : ∀ before later, events = before ++ later →
    ∀ peer ∈ (after DateTime registry new before).handleGetPeers,
      EventuallyReported DateTime registry before peer

/-- What leaves a codec behind: a datagram that cannot be decoded, from a peer without an
entry of the usage, and a purge that finds an idle peer. -/
def Leaks (DateTime : Type) [Chrono DateTime] (registry : Registry)
    (actor : FlowCollectorActor Peer) : Nat × ActorInput Peer → Prop
  | (_, .datagram buf addr) =>
    actor.peersUsage.lookup addr = none ∧ ¬ Decodable DateTime registry actor buf addr
  | (now, .purgeUnusedPeers dur) =>
    ∃ peer usage, actor.peersUsage.lookup peer = some usage ∧ idle now dur usage = true
  | _ => False

/-- No input of the run leaks. -/
def LeakFree (DateTime : Type) [Chrono DateTime] (registry : Registry)
    (events : List (Nat × ActorInput Peer)) : Prop :=
  ∀ before event later, events = before ++ event :: later →
    ¬ Leaks DateTime registry (after DateTime registry new before) event

theorem LeakFree.of_append {events later : List (Nat × ActorInput Peer)}
    (h : LeakFree DateTime registry (events ++ later)) : LeakFree DateTime registry events := by
  rintro before event rest rfl
  exact h before event (rest ++ later) (by simp)

/-- Where nothing leaks, whoever has a codec has an entry of the usage. -/
theorem usage_of_client (hfree : LeakFree DateTime registry events)
    (h : ((after DateTime registry new events).clients.lookup peer).isSome) :
    ((after DateTime registry new events).peersUsage.lookup peer).isSome := by
  induction events using List.reverseRecOn with
  | nil => cases h
  | append_singleton events event ih =>
    have hleaks := hfree events event [] rfl
    have hbefore := ih hfree.of_append
    rw [after_append] at h ⊢
    obtain ⟨now, input⟩ := event
    obtain ⟨hclient, husage⟩ | ⟨buf, rfl, -, ⟨-, count, husage⟩ | ⟨hnot, husage⟩⟩ | ⟨hclient, -⟩ |
        ⟨dur, rfl, hclient, husage⟩ := @step_peer Peer _ DateTime _ registry
          (after DateTime registry new events) now input peer
    · exact (congrArg Option.isSome husage).trans
        (hbefore ((congrArg Option.isSome hclient).symm.trans h))
    · exact congrArg Option.isSome husage
    · -- an entry must have been there before
      refine (congrArg Option.isSome husage).trans (Option.isSome_iff_ne_none.mpr fun hnone => ?_)
      exact hleaks ⟨hnone, hnot⟩
    · exact absurd h (by simp [after, hclient])
    · -- the purge finds no idle peer
      have hsome := hbefore ((congrArg Option.isSome hclient).symm.trans h)
      obtain ⟨usage, hlookup⟩ := Option.isSome_iff_exists.mp hsome
      have hidle : ¬ idle now dur usage = true := fun hidle => hleaks ⟨peer, usage, hlookup, hidle⟩
      exact congrArg Option.isSome (lookup_kept hlookup hidle)

variable {before : List (Nat × ActorInput Peer)}

/-- Three purges are enough for a peer with an entry of the usage. -/
theorem eventuallyReported
    (h : ((after DateTime registry new before).peersUsage.lookup peer).isSome) :
    EventuallyReported DateTime registry before peer := by
  refine ⟨3, fun dur times events hordered hsilent hlength hspaced hpurges => ?_⟩
  obtain ⟨zeroth, first, second, rfl⟩ := length_eq_three.mp hlength
  obtain ⟨usage, hlookup⟩ := Option.isSome_iff_exists.mp h
  obtain ⟨event, hevent, hset⟩ := exists_lastSet before hlookup
  rw [Ordered, map_append, pairwise_append] at hordered
  have hzeroth : usage.lastSet ≤ zeroth := by
    have hmem : (zeroth, ActorInput.purgeUnusedPeers dur) ∈ events :=
      hpurges.subset mem_cons_self
    rw [← hset]
    exact hordered.2.2 _ (mem_map_of_mem hevent) _ (mem_map_of_mem hmem)
  obtain ⟨hafter, hrest⟩ := pairwise_cons.mp hspaced
  have hfirst : zeroth + dur < first := hafter first mem_cons_self
  have hsecond : first + dur < second :=
    (pairwise_cons.mp hrest).1 second (mem_singleton_self second)
  exact reported_of_two hordered.2.1 hsilent hlookup (.inl (by omega)) hsecond
    ((sublist_cons_self _ _).trans hpurges)

/-- A peer without an entry of the usage is never reported. -/
theorem not_eventuallyReported (hbefore : Ordered before)
    (h : (after DateTime registry new before).peersUsage.lookup peer = none) :
    ¬ EventuallyReported DateTime registry before peer := by
  rintro ⟨n, hreported⟩
  -- purges at every instant from the end of the run on
  obtain ⟨clock, hclock⟩ : ∃ clock, ∀ time ∈ before.map (·.1), time ≤ clock :=
    ⟨(before.map (·.1)).sum, fun time hmem => le_sum_of_mem hmem⟩
  refine not_reported h (hreported 0 (List.range' clock n) _ ?_ ?_ length_range' ?_
    (List.Sublist.refl _))
  · rw [Ordered, map_append, pairwise_append]
    refine ⟨hbefore, ?_, fun time htime time' htime' => ?_⟩
    · rw [map_map]
      exact (map_id _).symm ▸ (pairwise_lt_range' 1).imp le_of_lt
    · rw [map_map] at htime'
      obtain ⟨_, hmem, rfl⟩ := mem_map.mp htime'
      exact (hclock time htime).trans (mem_range'_1.mp hmem).1
  · intro event hmem
    obtain ⟨_, -, rfl⟩ := mem_map.mp hmem
    trivial
  · exact pairwise_lt_range' 1

/-- A run in the order of its times. -/
structure Session (Peer : Type) where
  events : List (Nat × ActorInput Peer)
  ordered : Ordered events

/-- **Purging frees the state of silent peers** in exactly the runs in which nothing
leaks. -/
theorem purge_frees_iff (DateTime : Type) [Chrono DateTime] (registry : Registry)
    (session : Session Peer) :
    Frees DateTime registry session.events ↔ LeakFree DateTime registry session.events := by
  obtain ⟨events, hordered⟩ := session
  constructor
  · rintro hfrees before ⟨now, input⟩ later rfl hleaks
    cases input with
    | datagram buf addr =>
      -- the sender has a codec now, and nothing else
      obtain ⟨hnone, hnot⟩ := hleaks
      obtain ⟨⟨codec, hclients⟩, hdecoded⟩ := @step_datagram Peer _ DateTime _ registry
        (after DateTime registry new before) now buf addr
      have hstep : after DateTime registry new (before ++ [(now, .datagram buf addr)]) =
          ((after DateTime registry new before).step DateTime registry (now, .datagram buf addr)).1 :=
        after_append _ _
      have hsplit : before ++ (now, .datagram buf addr) :: later =
          (before ++ [(now, .datagram buf addr)]) ++ later := by simp
      have hbefore : Ordered (before ++ [(now, ActorInput.datagram buf addr)]) := by
        rw [hsplit, Ordered, map_append] at hordered
        exact (pairwise_append.mp hordered).1
      refine not_eventuallyReported hbefore ?_ (hfrees.reported _ later hsplit addr ?_)
      · obtain ⟨hdecodable, -⟩ | ⟨-, husage⟩ := hdecoded
        · exact absurd hdecodable hnot
        · rw [hstep, husage, hnone]
      · rw [hstep, handleGetPeers, hclients, ← AList.mem_keys]
        exact (AList.mem_insert _).mpr (.inl rfl)
    | purgeUnusedPeers dur =>
      -- the idle peer is reported with its codec
      obtain ⟨peer, usage, hlookup, hidle⟩ := hleaks
      have hcleared : (after DateTime registry new before).clients.lookup peer = none :=
        (hfrees.cleared before now dur later rfl peer
          (mem_purged.mpr ⟨usage, hlookup, hidle⟩)).1
      have hclient := @client_of_usage Peer _ DateTime _ registry before peer (by rw [hlookup]; rfl)
      rw [hcleared] at hclient
      cases hclient
    | purgePeer | getPeers | other => exact hleaks
  · intro hfree
    refine ⟨?_, fun _ _ _ _ _ _ _ => rfl, ?_⟩
    · intro before now dur later hsplit peer hreported
      obtain ⟨usage, hlookup, hidle⟩ := mem_purged.mp hreported
      exact absurd ⟨peer, usage, hlookup, hidle⟩ (hfree before _ later hsplit)
    · rintro before later rfl peer hpeer
      refine eventuallyReported (usage_of_client hfree.of_append ?_)
      exact lookup_isSome.mpr (AList.mem_keys.mpr hpeer)

/-- A packet without sets, an empty datagram, and three purges. -/
def quietRun : List (Nat × ActorInput Nat) :=
  [(0, .datagram [0, 10, 0, 16, 0, 0, 0, 0, 0, 0, 0, 0, 0, 0, 0, 1] 1), (1, .datagram [] 2),
    (10, .purgeUnusedPeers 5), (20, .purgeUnusedPeers 5), (30, .purgeUnusedPeers 5)]

/-- The first peer is reported and keeps its codec, the second is not even reported. -/
theorem quietRun_keeps :
    reports UtcTime sampleRegistry new quietRun = [1] ∧
      (after UtcTime sampleRegistry new quietRun).handleGetPeers = [2, 1] :=
  ⟨rfl, rfl⟩

/-! ## Peers do not disturb each other -/

/-- The inputs that change the codec of a peer. -/
def concerns (peer : Peer) : Nat × ActorInput Peer → Bool
  | (_, .datagram _ addr) => addr = peer
  | (_, .purgePeer other) => other = peer
  | _ => false

theorem lookup_step_other {event : Nat × ActorInput Peer} (h : concerns peer event = false) :
    (actor.step DateTime registry event).1.clients.lookup peer = actor.clients.lookup peer := by
  obtain ⟨now, input⟩ := event
  cases input with
  | datagram buf addr =>
    obtain ⟨⟨codec, hclients⟩, -⟩ := @step_datagram Peer _ DateTime _ registry actor now buf addr
    rw [hclients, lookup_insert_ne (Ne.symm (of_decide_eq_false h))]
  | purgePeer other =>
    simp only [step, handlePurgePeer]
    split
    · exact lookup_erase_ne (Ne.symm (of_decide_eq_false h))
    · rfl
  | purgeUnusedPeers | getPeers | other => rfl

theorem lookup_step_own {actor' : FlowCollectorActor Peer} {event : Nat × ActorInput Peer}
    (hsame : actor.clients.lookup peer = actor'.clients.lookup peer)
    (h : concerns peer event = true) :
    (actor.step DateTime registry event).1.clients.lookup peer =
      (actor'.step DateTime registry event).1.clients.lookup peer := by
  obtain ⟨now, input⟩ := event
  cases input with
  | datagram buf addr =>
    obtain rfl := of_decide_eq_true h
    simp only [step, decodePkt, codec, hsame]
    split <;> simp [handleDecodedPkt]
  | purgePeer other =>
    obtain rfl := of_decide_eq_true h
    simp only [step, handlePurgePeer, hsame]
    split
    · simp
    · exact hsame
  | purgeUnusedPeers | getPeers | other => cases h

/-- **Peers do not disturb each other.** A datagram gives what it would give if nothing but the
datagrams of its sender and the purges of this peer had come before. -/
theorem decodePkt_isolated (events : List (Nat × ActorInput Peer)) (peer : Peer) (buf : Octets) :
    (((after DateTime registry new events).decodePkt registry buf peer).2 :
        Option (Peer × FlowInfo DateTime)) =
      ((after DateTime registry new (events.filter (concerns peer))).decodePkt registry buf peer).2 := by
  have hsame := Isolation.run_filter (fun actor event => (step DateTime registry actor event).1)
    (after DateTime registry) (fun _ => rfl) (fun _ _ _ => rfl) (·.clients.lookup peer) (concerns peer)
    (fun _ _ _ hown h => lookup_step_own h hown) (fun _ _ => lookup_step_other)
    (rfl : (new : FlowCollectorActor Peer).clients.lookup peer = _) events
  simp only [decodePkt, codec, hsame]
  split <;> rfl

end FlowCollectorActor

end NetCalyx.Flow
