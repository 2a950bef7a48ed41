import NetCalyx.Runs.Stepwise
import NetCalyx.UdpNotif.Purging

/-!
# What the reassembly of UDP-Notif messages keeps

Segments may come from anyone, with any numbers and flags. Still no buffer holds more segments
than allowed, none is older than the timeout, and a datagram touches the buffer of its own
message alone. A segment that ends the collection of a message, with or without success,
removes its buffer (`memory_bounded`).

A message of one segment is not collected at all. It is returned at once, and a buffer that
other segments with the same ids have filled stays where it is.
-/

namespace NetCalyx.UdpNotif
open Wire Collections Stepwise UdpPacketCodec

variable (pkt : UdpNotifPacket)

/-- The packet is a message of one segment. -/
def UdpNotifPacket.Whole : Prop :=
  extractSegmentInfo pkt.options = some (0, true)

/-! ## What occurs in a call -/

/-- The segment is in the buffer of its message already. -/
def UdpNotifPacket.repeats (entry : Option ReassemblyBuffer) : Bool :=
  match extractSegmentInfo pkt.options with
  | none => false
  | some (number, last) =>
    !(number = 0 && last) && entry.any fun old => (old.segments.lookup number.toNat).isSome

/-- The segment is new, and the buffer of its message is full. -/
def UdpNotifPacket.exceeds (maxSegments : BitVec 16) (entry : Option ReassemblyBuffer) : Bool :=
  match extractSegmentInfo pkt.options with
  | none => false
  | some (number, last) =>
    !(number = 0 && last) && !pkt.repeats entry &&
      entry.any fun old => maxSegments.toNat ≤ old.segments.entries.length

def ReassemblyEventCounts.add (counts more : ReassemblyEventCounts) : ReassemblyEventCounts :=
  ⟨counts.timeoutEvictions + more.timeoutEvictions, counts.duplicateDrops + more.duplicateDrops,
    counts.maxSegmentsExceeded + more.maxSegmentsExceeded⟩

namespace UdpPacketCodec

variable {codec : UdpPacketCodec} {now later : Nat} {buf : Octets} {pkt : UdpNotifPacket}
variable (codec)

/-- How many buffers are too old. -/
def evicted (now : Nat) : Nat :=
  (codec.incompleteMessages.entries.filter
    fun entry => entry.2.isTimedOut now codec.reassemblyTimeout).length

/-- What there is to count in a call. -/
def occurrences (now : Nat) (buf : Octets) : ReassemblyEventCounts :=
  match readDatagram buf with
  | .error _ => ⟨codec.evicted now, 0, 0⟩
  | .ok pkt =>
    ⟨codec.evicted now, (pkt.repeats (codec.fresh now pkt.key)).toNat,
      (pkt.exceeds codec.maxSegments (codec.fresh now pkt.key)).toNat⟩

theorem evict_events (now : Nat) :
    (codec.evict now).reassemblyEvents = codec.reassemblyEvents.add ⟨codec.evicted now, 0, 0⟩ := by
  have hsplit := List.length_eq_length_filter_add (l := codec.incompleteMessages.entries)
    fun entry => entry.2.isTimedOut now codec.reassemblyTimeout
  have hkept : codec.incompleteMessages.entries.length -
      (retain (fun _ b => !b.isTimedOut now codec.reassemblyTimeout)
        codec.incompleteMessages).entries.length = codec.evicted now := by
    simp only [retain, evicted]
    omega
  simp only [evict, hkept]
  rfl

theorem tryReassembleSegments_events (later : Nat) (pkt : UdpNotifPacket) :
    (codec.tryReassembleSegments later pkt).1.reassemblyEvents =
      codec.reassemblyEvents.add
        ⟨0, (pkt.repeats (codec.incompleteMessages.lookup pkt.key)).toNat,
          (pkt.exceeds codec.maxSegments (codec.incompleteMessages.lookup pkt.key)).toNat⟩ := by
  unfold tryReassembleSegments UdpNotifPacket.exceeds UdpNotifPacket.repeats
  cases hinfo : extractSegmentInfo pkt.options with
  | none => simp [ReassemblyEventCounts.add]
  | some info =>
    obtain ⟨number, last⟩ := info
    generalize hentry : codec.incompleteMessages.lookup pkt.key = entry
    dsimp only
    split
    · rename_i hwhole
      simp [hwhole, ReassemblyEventCounts.add]
    · rename_i hwhole
      have hwhole : (decide (number = 0) && last) = false := by simpa using hwhole
      rw [hwhole]
      split
      · cases entry <;> simp_all [ReassemblyEventCounts.add]
      · split
        · cases entry <;> simp_all [ReassemblyEventCounts.add]
        · split <;> cases entry <;> simp_all [ReassemblyEventCounts.add, Nat.not_le_of_gt]

/-- The counters count what occurs. -/
theorem decode_events (now later : Nat) (buf : Octets) :
    (codec.decode now later buf).1.reassemblyEvents =
      codec.reassemblyEvents.add (codec.occurrences now buf) := by
  unfold occurrences
  cases hread : readDatagram buf with
  | error err => rw [(decode_unread hread).1, evict_events]
  | ok pkt =>
    rw [decode_read hread, tryReassembleSegments_events, evict_events, evict_lookup,
      evict_maxSegments]
    simp [ReassemblyEventCounts.add, fresh]

variable {codec}

end UdpPacketCodec

/-! ## What one segment leaves -/

/-- An option under the code of segments is parsed as one. -/
theorem segmentInfo_of_read {buf : Octets} {pkt : UdpNotifPacket}
    (h : readDatagram buf = .ok pkt) : (extractSegmentInfo pkt.options).isSome := by
  have hcollected : pkt.Collected := by
    rw [readDatagram] at h
    cases hlens : checkLen buf with
    | error err => rw [hlens] at h; cases h
    | ok lens =>
      rw [hlens] at h
      dsimp only [Bind.bind, Except.bind] at h
      split at h
      · rename_i rest pkt' hwire
        split at h
        · cases h
        · cases h
          exact UdpNotifPacket.yields_fromWire buf rest pkt hwire
      · cases h
  unfold extractSegmentInfo
  cases hoption : pkt.options.lookup .segment with
  | none => rfl
  | some option =>
    have hcode := hcollected.code_of_lookup hoption
    cases option with
    | segment number last => rfl
    | privateEncoding _ | unknown _ _ => cases hcode

section OwnBuffer

variable {maxSegments : BitVec 16} {later : Nat} {pkt : UdpNotifPacket}
  {entry : Option ReassemblyBuffer} {buf : ReassemblyBuffer}

theorem ownStep_small (hentry : ∀ old, entry = some old →
      old.segments.entries.length ≤ max maxSegments.toNat 1)
    (h : (ownStep maxSegments later pkt entry).1 = some buf) :
    buf.segments.entries.length ≤ max maxSegments.toNat 1 := by
  have hcases := ownStep_cases maxSegments later pkt entry
  generalize ownStep maxSegments later pkt entry = result at h hcases
  cases hcases with
  | panics | whole | repeated => exact hentry buf h
  | exceeded | finished => cases h
  | @added number last hnew hroom =>
    cases h
    cases entry with
    | none => exact le_max_right _ _
    | some old =>
      -- the segment was not there, so the buffer grows by one
      have hlength : (old.segments.insert number.toNat pkt).entries.length =
          old.segments.entries.length + 1 := by
        rw [AList.entries_insert_of_notMem (AList.lookup_eq_none.mp (hnew old rfl))]
        rfl
      have hless := hroom old rfl
      exact le_max_of_le_left (hlength.trans_le hless)

/-- A segment that gives a packet or an error ends the collection. -/
theorem ownStep_cleared (hinfo : (extractSegmentInfo pkt.options).isSome) (hwhole : ¬ pkt.Whole)
    (h : (ownStep maxSegments later pkt entry).2 ≠ .ok none) :
    (ownStep maxSegments later pkt entry).1 = none := by
  have hcases := ownStep_cases maxSegments later pkt entry
  generalize ownStep maxSegments later pkt entry = result at h hcases
  cases hcases with
  | panics hnone => rw [hnone] at hinfo; cases hinfo
  | whole hinfo => exact absurd hinfo hwhole
  | repeated | added => exact absurd rfl h
  | exceeded | finished => rfl

end OwnBuffer

/-! ## Runs -/

/-- A call of the codec. A new buffer is made `elapsed` after the old ones are looked at. -/
inductive CodecCall where
  | decode (now elapsed : Nat) (buf : Octets)
  | takeReassemblyEvents

/-- A codec, and what has occurred since the counts were taken. -/
structure ObservedCodec where
  codec : UdpPacketCodec
  occurred : ReassemblyEventCounts

namespace ObservedCodec

def new (maxSegments : BitVec 16) (timeout : Nat) : ObservedCodec :=
  ⟨.new maxSegments timeout, ⟨0, 0, 0⟩⟩

def step (s : ObservedCodec) : CodecCall → Option ObservedCodec
  | .decode now elapsed buf =>
    some ⟨(s.codec.decode now (now + elapsed) buf).1,
      s.occurred.add (s.codec.occurrences now buf)⟩
  | .takeReassemblyEvents => some ⟨s.codec.takeReassemblyEvents.1, ⟨0, 0, 0⟩⟩

/-- No buffer has more segments than allowed. -/
def Small (maxSegments : BitVec 16) (codec : UdpPacketCodec) : Prop :=
  ∀ key b, codec.incompleteMessages.lookup key = some b →
    b.segments.entries.length ≤ max maxSegments.toNat 1

/-- No buffer is older than the timeout. -/
def Young (timeout now : Nat) (codec : UdpPacketCodec) : Prop :=
  ∀ key b, codec.incompleteMessages.lookup key = some b → now - b.timestamp ≤ timeout

/-- Buffers of other messages are only dropped when they are too old. -/
def Keyed (timeout now : Nat) (buf : Octets) (before after : UdpPacketCodec) : Prop :=
  ∀ key, (∀ pkt, readDatagram buf = .ok pkt → key ≠ pkt.key) →
    after.incompleteMessages.lookup key =
      (before.incompleteMessages.lookup key).filter fun b => now - b.timestamp ≤ timeout

/-- A message that is complete or has failed has no buffer. Whether this holds of messages of
one segment is left to `exempt`. -/
def Cleared (exempt : UdpNotifPacket → Prop) (buf : Octets) (result : Reassembled)
    (after : UdpPacketCodec) : Prop :=
  ∀ pkt, readDatagram buf = .ok pkt → ¬ exempt pkt → result ≠ .ok none →
    after.incompleteMessages.lookup pkt.key = none

/-- What is to hold of a call. -/
def Good (exempt : UdpNotifPacket → Prop) (maxSegments : BitVec 16) (timeout : Nat)
    (s : ObservedCodec) (call : CodecCall) (s' : ObservedCodec) : Prop :=
  match call with
  | .decode now elapsed buf =>
    Small maxSegments s'.codec ∧ Young timeout now s'.codec ∧
      Keyed timeout now buf s.codec s'.codec ∧
      Cleared exempt buf (s.codec.decode now (now + elapsed) buf).2.2 s'.codec ∧
      s'.codec.reassemblyEvents = s'.occurred
  | .takeReassemblyEvents => s.codec.takeReassemblyEvents.2 = s.occurred

variable {maxSegments : BitVec 16} {timeout : Nat}

/-- What holds between the calls. -/
structure Sound (maxSegments : BitVec 16) (timeout : Nat) (s : ObservedCodec) : Prop where
  limits : s.codec.maxSegments = maxSegments ∧ s.codec.reassemblyTimeout = timeout
  small : Small maxSegments s.codec
  counted : s.codec.reassemblyEvents = s.occurred

theorem fresh_eq (codec : UdpPacketCodec) (now : Nat) (key : MessageKey) :
    codec.fresh now key = (codec.incompleteMessages.lookup key).filter
      fun b => now - b.timestamp ≤ codec.reassemblyTimeout := by
  unfold UdpPacketCodec.fresh
  congr 1
  funext b
  rw [ReassemblyBuffer.isTimedOut, ← decide_not]
  exact decide_eq_decide.mpr Nat.not_lt

/-- A buffer behind a datagram is its own or has stayed fresh. -/
theorem lookup_decode_cases {codec : UdpPacketCodec} {now later : Nat} {buf : Octets}
    {key : MessageKey} {b : ReassemblyBuffer}
    (h : (codec.decode now later buf).1.incompleteMessages.lookup key = some b) :
    codec.fresh now key = some b ∨
      ∃ pkt, (ownStep codec.maxSegments later pkt (codec.fresh now key)).1 = some b := by
  rw [decode_lookup, lookupBehind] at h
  split at h
  · exact .inl h
  · split at h
    · rename_i hkey
      exact .inr ⟨_, hkey ▸ h⟩
    · exact .inl h

section Decode

variable {s : ObservedCodec} (h : Sound maxSegments timeout s) (now elapsed : Nat) (buf : Octets)
include h

theorem small_decode : Small maxSegments (s.codec.decode now (now + elapsed) buf).1 := by
  have hfresh (key : MessageKey) (b : ReassemblyBuffer) (hb : s.codec.fresh now key = some b) :
      b.segments.entries.length ≤ max maxSegments.toNat 1 :=
    h.small key b (Option.filter_eq_some_iff.mp hb).1
  intro key b hb
  obtain hb | ⟨pkt, hb⟩ := lookup_decode_cases hb
  · exact hfresh key b hb
  · rw [h.limits.1] at hb
    exact ownStep_small (hfresh key) hb

theorem young_decode : Young timeout now (s.codec.decode now (now + elapsed) buf).1 := by
  have hfresh (key : MessageKey) (b : ReassemblyBuffer) (hb : s.codec.fresh now key = some b) :
      now - b.timestamp ≤ timeout := by
    rw [fresh_eq, h.limits.2] at hb
    simpa using (Option.filter_eq_some_iff.mp hb).2
  intro key b hb
  obtain hb | ⟨pkt, hb⟩ := lookup_decode_cases hb
  · exact hfresh key b hb
  · obtain ⟨old, hold, htime⟩ | htime := ownStep_timestamp hb
    · exact htime ▸ hfresh key old hold
    · omega

theorem keyed_decode :
    Keyed timeout now buf s.codec (s.codec.decode now (now + elapsed) buf).1 := by
  intro key hother
  rw [decode_lookup, lookupBehind, ← h.limits.2, ← fresh_eq]
  cases hread : readDatagram buf with
  | error err => rfl
  | ok pkt => exact if_neg (hother pkt hread)

omit h in
theorem cleared_decode :
    Cleared UdpNotifPacket.Whole buf (s.codec.decode now (now + elapsed) buf).2.2
      (s.codec.decode now (now + elapsed) buf).1 := by
  intro pkt hread hwhole hresult
  have hown := s.codec.decode_own now (now + elapsed) hread
  have hend : (ownStep s.codec.maxSegments (now + elapsed) pkt (s.codec.fresh now pkt.key)).2 ≠
      .ok none := fun hnone => hresult ((congrArg Prod.snd hown).trans hnone)
  exact (congrArg Prod.fst hown).trans (ownStep_cleared (segmentInfo_of_read hread) hwhole hend)

theorem counted_decode : (s.codec.decode now (now + elapsed) buf).1.reassemblyEvents =
    s.occurred.add (s.codec.occurrences now buf) := by
  rw [decode_events, h.counted]

theorem sound_decode : Sound maxSegments timeout
    ⟨(s.codec.decode now (now + elapsed) buf).1, s.occurred.add (s.codec.occurrences now buf)⟩ where
  limits := by
    obtain ⟨hmax, htime⟩ := s.codec.decode_same_limits now (now + elapsed) buf
    exact ⟨hmax.trans h.limits.1, htime.trans h.limits.2⟩
  small := small_decode h now elapsed buf
  counted := counted_decode h now elapsed buf

end Decode

theorem step_good {s s' : ObservedCodec} {call : CodecCall} (h : Sound maxSegments timeout s)
    (hstep : step s call = some s') :
    Sound maxSegments timeout s' ∧ Good UdpNotifPacket.Whole maxSegments timeout s call s' := by
  cases call with
  | decode now elapsed buf =>
    cases hstep
    exact ⟨sound_decode h now elapsed buf, small_decode h now elapsed buf,
      young_decode h now elapsed buf, keyed_decode h now elapsed buf,
      cleared_decode now elapsed buf, counted_decode h now elapsed buf⟩
  | takeReassemblyEvents =>
    cases hstep
    exact ⟨⟨h.limits, h.small, rfl⟩, h.counted⟩

theorem sound_new : Sound maxSegments timeout (new maxSegments timeout) where
  limits := ⟨rfl, rfl⟩
  small _ _ h := by cases h
  counted := rfl

/-- Whatever datagrams come, memory stays bounded, messages do not touch each other and the
counters are right. -/
theorem memory_bounded (maxSegments : BitVec 16) (timeout : Nat) (calls : List CodecCall) :
    Along step (Good UdpNotifPacket.Whole maxSegments timeout) (new maxSegments timeout) calls :=
  along_of_invariant (Sound maxSegments timeout)
    (fun _ call _ h hstep => @step_good _ _ _ _ call h hstep) sound_new calls

/-- The fourth segment of a message, and then another message under the same ids. -/
def sameIds : List CodecCall :=
  [.decode 0 0 [0x21, 16, 0, 17, 0, 0, 0, 1, 0, 0, 0, 2, 1, 4, 0, 6, 0xbb],
   .decode 1 0 [0x21, 12, 0, 13, 0, 0, 0, 1, 0, 0, 0, 2, 0xcc]]

/-- A message of one segment is complete at once, but does not remove a buffer. -/
theorem whole_keeps_buffer :
    ¬ Along step (Good (fun _ => False) 2 10) (new 2 10) sameIds := by
  intro h
  obtain ⟨-, h⟩ := h _ rfl
  obtain ⟨⟨-, -, -, hcleared, -⟩, -⟩ := h _ rfl
  have hread : readDatagram [0x21, 12, 0, 13, 0, 0, 0, 1, 0, 0, 0, 2, 0xcc] =
      .ok ⟨.yangDataJson, 1, 2, ∅, [0xcc]⟩ := rfl
  have hnone := hcleared _ hread id nofun
  exact absurd (congrArg Option.isSome hnone) (by decide)

end ObservedCodec

end NetCalyx.UdpNotif
