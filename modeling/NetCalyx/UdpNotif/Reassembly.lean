import NetCalyx.UdpNotif.Codec

/-!
# Reassembly of segmented UDP-Notif messages

A message that does not fit into a datagram is cut into segments, which are numbered and
of which the last one is marked. The codec keeps a buffer for each message of which some
segments have arrived, and drops buffers that are too old.

What happens to a message depends only on its own buffer: `ownStep` is the life of one
buffer, and `decode_own` and `decode_other` say that the codec is a collection of such
buffers side by side. The state of a buffer is determined by which segments have
arrived, so that neither their order nor repetitions matter.
-/

namespace NetCalyx.UdpNotif
open Wire Collections List

/-! ## Buffers -/

inductive ReassemblyBufferError where
  | lastSegmentIsNotReceived (mediaType : MediaType) (publisherId messageId : BitVec 32)
      (received : Nat)
  | incompleteSegments (mediaType : MediaType) (publisherId messageId : BitVec 32)
      (needed received : Nat)
  | missingSegment (mediaType : MediaType) (publisherId messageId : BitVec 32)
      (received missingSegmentNumber : Nat)
  | maxSegmentsExceeded (publisherId messageId : BitVec 32) (maxSegments : BitVec 16)

/-- The segments of a message that have arrived, by their numbers. Times are instants of
a monotonic clock. -/
structure ReassemblyBuffer where
  timestamp : Nat
  hasLast : Bool
  expectedCount : BitVec 16
  segments : Map Nat UdpNotifPacket

namespace ReassemblyBuffer

def default (now : Nat) : ReassemblyBuffer := ⟨now, false, 1, ∅⟩

variable (buf : ReassemblyBuffer)

def isTimedOut (now timeoutDuration : Nat) : Bool :=
  now - buf.timestamp > timeoutDuration

def addSegment (segmentNumber : BitVec 16) (packet : UdpNotifPacket) (isLast : Bool) :
    ReassemblyBuffer :=
  { buf with
    expectedCount := if isLast then segmentNumber + 1 else buf.expectedCount
    hasLast := isLast || buf.hasLast
    segments := buf.segments.insert segmentNumber.toNat packet }

def readyToReassemble : Bool :=
  buf.hasLast && buf.segments.entries.length = buf.expectedCount.toNat

/-- The first number, from `expected` on, that the entries skip. -/
def firstMissing (expected : Nat) : List ((_ : Nat) × UdpNotifPacket) → Option Nat
  | [] => none
  | entry :: entries =>
    if expected ≠ entry.1 then some expected else firstMissing (expected + 1) entries

/-- The header is that of the first segment, without the option for segments. -/
def reassemble (mediaType : MediaType) (publisherId messageId : BitVec 32) :
    Except ReassemblyBufferError UdpNotifPacket :=
  let received := buf.segments.entries.length
  if !buf.hasLast then
    .error (.lastSegmentIsNotReceived mediaType publisherId messageId received)
  else if buf.expectedCount.toNat ≠ received then
    .error (.incompleteSegments mediaType publisherId messageId buf.expectedCount.toNat
      (received % 65536))
  else
    match firstMissing 0 (inOrder buf.segments) with
    | some missing =>
      .error (.missingSegment mediaType publisherId messageId received (missing % 65536))
    | none =>
      match (inOrder buf.segments).map (·.2) with
      | [] => .error (.incompleteSegments mediaType publisherId messageId buf.expectedCount.toNat 0)
      | first :: others =>
        .ok ⟨first.mediaType, first.publisherId, first.messageId,
          retain (fun code _ => code ≠ .segment) first.options,
          first.payload ++ others.flatMap (·.payload)⟩

end ReassemblyBuffer

/-! ## The codec -/

structure ReassemblyEventCounts where
  timeoutEvictions : Nat
  duplicateDrops : Nat
  maxSegmentsExceeded : Nat

inductive UdpPacketCodecError where
  | truncatedHeader (received : Nat)
  | invalidHeaderLength (length : BitVec 8)
  | invalidMessageLength (length : BitVec 16)
  | udpNotifError (err : UdpNotifPacketParsingError)
  | reassemblyError (err : ReassemblyBufferError)
  | internalError (text : String)

/-- A publisher and one of its messages. -/
abbrev MessageKey := BitVec 32 × BitVec 32

def UdpNotifPacket.key (pkt : UdpNotifPacket) : MessageKey := (pkt.publisherId, pkt.messageId)

structure UdpPacketCodec where
  incompleteMessages : Map MessageKey ReassemblyBuffer
  maxSegments : BitVec 16
  reassemblyTimeout : Nat
  reassemblyEvents : ReassemblyEventCounts

/-- How a call ends: with a packet, with nothing yet, or not at all. -/
abbrev Reassembled := Except (Stop UdpPacketCodecError) (Option UdpNotifPacket)

/-- The datagram is exactly the message its header announces. -/
def checkLen (buf : Octets) : Except UdpPacketCodecError (BitVec 8 × BitVec 16) :=
  if buf.length < 12 then .error (.truncatedHeader buf.length)
  else
    let headerLen := ofOctets 8 ((buf.drop 1).take 1)
    if headerLen.toNat < 12 ∨ buf.length < headerLen.toNat then
      .error (.invalidHeaderLength headerLen)
    else
      let messageLength := ofOctets 16 ((buf.drop 2).take 2)
      if messageLength.toNat < headerLen.toNat ∨ buf.length ≠ messageLength.toNat then
        .error (.invalidMessageLength messageLength)
      else .ok (headerLen, messageLength)

def parsingError : Err UdpNotifPacketParsingError → UdpPacketCodecError
  | .incomplete _ => .udpNotifError (.nomError .eof)
  | .error err => .udpNotifError err

/-- The packet in a datagram. -/
def readDatagram (buf : Octets) : Except UdpPacketCodecError UdpNotifPacket := do
  let (_, messageLength) ← checkLen buf
  match UdpNotifPacket.fromWire buf with
  | .ok (rest, pkt) =>
    if buf.length - rest.length ≠ messageLength.toNat ∨ ¬ rest.isEmpty then
      .error (.invalidMessageLength messageLength)
    else .ok pkt
  | .error err => .error (parsingError err)

/-- Number and last flag of a segment; a packet without the option is a whole message.
`none` is an option under a code that is not its own, which is not parsed. -/
def extractSegmentInfo (options : UdpNotifOptions) : Option (BitVec 16 × Bool) :=
  match options.lookup .segment with
  | none => some (0, true)
  | some (.segment number last) => some (number, last)
  | some _ => none

namespace UdpPacketCodec

def new (maxSegments : BitVec 16) (reassemblyTimeout : Nat) : UdpPacketCodec :=
  ⟨∅, maxSegments, reassemblyTimeout, ⟨0, 0, 0⟩⟩

variable (codec : UdpPacketCodec)

/-- `later` is the time at which a new buffer is created. -/
def tryReassembleSegments (later : Nat) (pkt : UdpNotifPacket) : UdpPacketCodec × Reassembled :=
  match extractSegmentInfo pkt.options with
  | none => (codec, .error .panic)
  | some (segNo, isLast) =>
    -- whole messages and messages of one segment
    if segNo = 0 ∧ isLast then (codec, .ok (some pkt))
    else if ((codec.incompleteMessages.lookup pkt.key).map
        fun buf => (buf.segments.lookup segNo.toNat).isSome).getD false then
      ({ codec with reassemblyEvents := { codec.reassemblyEvents with
          duplicateDrops := codec.reassemblyEvents.duplicateDrops + 1 } }, .ok none)
    else if (codec.incompleteMessages.lookup pkt.key).any
        fun buf => buf.segments.entries.length ≥ codec.maxSegments.toNat then
      ({ codec with
          incompleteMessages := codec.incompleteMessages.erase pkt.key
          reassemblyEvents := { codec.reassemblyEvents with
            maxSegmentsExceeded := codec.reassemblyEvents.maxSegmentsExceeded + 1 } },
        .error (.error (.reassemblyError
          (.maxSegmentsExceeded pkt.publisherId pkt.messageId codec.maxSegments))))
    else
      let buf := ((codec.incompleteMessages.lookup pkt.key).getD (.default later)).addSegment
        segNo pkt isLast
      if !buf.readyToReassemble then
        ({ codec with incompleteMessages := codec.incompleteMessages.insert pkt.key buf }, .ok none)
      else
        ({ codec with incompleteMessages := codec.incompleteMessages.erase pkt.key },
          match buf.reassemble pkt.mediaType pkt.publisherId pkt.messageId with
          | .ok reassembled => .ok (some reassembled)
          | .error err => .error (.error (.reassemblyError err)))

/-- Drop the buffers that are too old. -/
def evict (now : Nat) : UdpPacketCodec :=
  let kept := retain (fun _ buf => !buf.isTimedOut now codec.reassemblyTimeout)
    codec.incompleteMessages
  { codec with
    incompleteMessages := kept
    reassemblyEvents := { codec.reassemblyEvents with
      timeoutEvictions := codec.reassemblyEvents.timeoutEvictions +
        (codec.incompleteMessages.entries.length - kept.entries.length) } }

/-- One datagram, and what is left of the buffer it is in. -/
def decode (now later : Nat) (buf : Octets) : UdpPacketCodec × Octets × Reassembled :=
  let codec := codec.evict now
  if buf.isEmpty then (codec, buf, .ok none)
  else
    match checkLen buf with
    | .error err => (codec, buf, .error (.error err))
    | .ok _ =>
      match readDatagram buf with
      | .error err => (codec, [], .error (.error err))
      | .ok pkt =>
        let (codec, result) := codec.tryReassembleSegments later pkt
        (codec, [], result)

end UdpPacketCodec

open UdpPacketCodec

/-! ## The life of one buffer -/

/-- What a segment does to the buffer of its message, if there is one. -/
def ownStep (maxSegments : BitVec 16) (later : Nat) (pkt : UdpNotifPacket)
    (entry : Option ReassemblyBuffer) : Option ReassemblyBuffer × Reassembled :=
  match extractSegmentInfo pkt.options with
  | none => (entry, .error .panic)
  | some (segNo, isLast) =>
    if segNo = 0 ∧ isLast then (entry, .ok (some pkt))
    else if (entry.map fun buf => (buf.segments.lookup segNo.toNat).isSome).getD false then
      (entry, .ok none)
    else if entry.any fun buf => buf.segments.entries.length ≥ maxSegments.toNat then
      (none, .error (.error (.reassemblyError
        (.maxSegmentsExceeded pkt.publisherId pkt.messageId maxSegments))))
    else
      let buf := (entry.getD (.default later)).addSegment segNo pkt isLast
      if !buf.readyToReassemble then (some buf, .ok none)
      else (none,
        match buf.reassemble pkt.mediaType pkt.publisherId pkt.messageId with
        | .ok reassembled => .ok (some reassembled)
        | .error err => .error (.error (.reassemblyError err)))

namespace UdpPacketCodec

variable {codec : UdpPacketCodec} {now later : Nat} {buf : Octets} {pkt : UdpNotifPacket}

@[simp] theorem evict_lookup (codec : UdpPacketCodec) (now : Nat) (key : MessageKey) :
    (codec.evict now).incompleteMessages.lookup key =
      (codec.incompleteMessages.lookup key).filter
        fun buf => !buf.isTimedOut now codec.reassemblyTimeout :=
  lookup_retain _ _ _

@[simp] theorem evict_maxSegments (codec : UdpPacketCodec) (now : Nat) :
    (codec.evict now).maxSegments = codec.maxSegments := rfl

/-- The codec handles a segment as the buffer of its message does. -/
theorem tryReassembleSegments_own :
    ((codec.tryReassembleSegments later pkt).1.incompleteMessages.lookup pkt.key,
        (codec.tryReassembleSegments later pkt).2) =
      ownStep codec.maxSegments later pkt (codec.incompleteMessages.lookup pkt.key) := by
  unfold tryReassembleSegments ownStep
  cases extractSegmentInfo pkt.options with
  | none => rfl
  | some info =>
    dsimp only
    split
    · rfl
    · split
      · rfl
      · split
        · simp
        · split <;> simp

/-- It leaves the buffers of other messages and its limits alone. -/
theorem tryReassembleSegments_other :
    (codec.tryReassembleSegments later pkt).1.maxSegments = codec.maxSegments ∧
      (codec.tryReassembleSegments later pkt).1.reassemblyTimeout = codec.reassemblyTimeout ∧
      ∀ key ≠ pkt.key, (codec.tryReassembleSegments later pkt).1.incompleteMessages.lookup key =
        codec.incompleteMessages.lookup key := by
  unfold tryReassembleSegments
  cases extractSegmentInfo pkt.options with
  | none => exact ⟨rfl, rfl, fun _ _ => rfl⟩
  | some info =>
    dsimp only
    split
    · exact ⟨rfl, rfl, fun _ _ => rfl⟩
    · split
      · exact ⟨rfl, rfl, fun _ _ => rfl⟩
      · split
        · exact ⟨rfl, rfl, fun key hne => AList.lookup_erase_ne hne⟩
        · split
          · exact ⟨rfl, rfl, fun key hne => AList.lookup_insert_ne hne⟩
          · exact ⟨rfl, rfl, fun key hne => AList.lookup_erase_ne hne⟩

/-- A datagram that can be read is handed to the reassembly. -/
theorem decode_read (h : readDatagram buf = .ok pkt) :
    codec.decode now later buf = (((codec.evict now).tryReassembleSegments later pkt).1, [],
      ((codec.evict now).tryReassembleSegments later pkt).2) := by
  have hcheck : ∃ lens, checkLen buf = .ok lens := by
    cases hlens : checkLen buf with
    | ok lens => exact ⟨lens, rfl⟩
    | error err =>
      rw [readDatagram, hlens] at h
      cases h
  obtain ⟨lens, hlens⟩ := hcheck
  have hne : buf.isEmpty = false := by
    cases buf with
    | nil => cases hlens
    | cons b bs => rfl
  simp only [decode, hne, Bool.false_eq_true, if_false, hlens, h]

/-- The buffers that are not too old. -/
def fresh (codec : UdpPacketCodec) (now : Nat) (key : MessageKey) : Option ReassemblyBuffer :=
  (codec.incompleteMessages.lookup key).filter
    fun buf => !buf.isTimedOut now codec.reassemblyTimeout

theorem decode_own (codec : UdpPacketCodec) (now later : Nat) (h : readDatagram buf = .ok pkt) :
    ((codec.decode now later buf).1.incompleteMessages.lookup pkt.key,
        (codec.decode now later buf).2.2) =
      ownStep codec.maxSegments later pkt (codec.fresh now pkt.key) := by
  rw [decode_read h, tryReassembleSegments_own, evict_lookup, evict_maxSegments]
  rfl

theorem decode_other (h : readDatagram buf = .ok pkt) {key : MessageKey} (hne : key ≠ pkt.key) :
    (codec.decode now later buf).1.incompleteMessages.lookup key = codec.fresh now key := by
  rw [decode_read h, tryReassembleSegments_other.2.2 key hne, evict_lookup]
  rfl

theorem decode_limits (codec : UdpPacketCodec) (now later : Nat)
    (h : readDatagram buf = .ok pkt) :
    (codec.decode now later buf).1.maxSegments = codec.maxSegments ∧
      (codec.decode now later buf).1.reassemblyTimeout = codec.reassemblyTimeout := by
  rw [decode_read h]
  exact ⟨tryReassembleSegments_other.1, tryReassembleSegments_other.2.1⟩

end UdpPacketCodec

/-! ## Messages in segments -/

/-- A message cut into segments, numbered from zero, with the flag on the last one. -/
structure SplitMessage where
  publisherId : BitVec 32
  messageId : BitVec 32
  segments : List UdpNotifPacket
  nonempty : segments ≠ []
  ids : ∀ pkt ∈ segments, pkt.key = (publisherId, messageId)
  numbers : ∀ i pkt, segments[i]? = some pkt →
    extractSegmentInfo pkt.options = some (BitVec.ofNat 16 i, decide (i + 1 = segments.length))

namespace SplitMessage

def key (m : SplitMessage) : MessageKey := (m.publisherId, m.messageId)

/-- The message its segments make up. A message of a single segment is returned as it has
arrived; otherwise the header is that of the first segment, without the option for
segments. -/
def assembled (m : SplitMessage) : UdpNotifPacket :=
  if m.segments.length = 1 then m.segments.head m.nonempty
  else
    { m.segments.head m.nonempty with
      options := retain (fun code _ => code ≠ .segment) (m.segments.head m.nonempty).options
      payload := m.segments.flatMap (·.payload) }

end SplitMessage

/-- The buffer of a message of which the segments with the numbers in `Arrived` have
arrived. -/
structure ReassemblyBuffer.Holds (m : SplitMessage) (Arrived : Nat → Prop)
    (buf : ReassemblyBuffer) : Prop where
  segments : ∀ i pkt, buf.segments.lookup i = some pkt ↔ Arrived i ∧ m.segments[i]? = some pkt
  last : buf.hasLast = true ↔ Arrived (m.segments.length - 1)
  count : buf.hasLast = true → buf.expectedCount.toNat = m.segments.length

/-- All segments of a message have arrived. -/
def SplitMessage.Complete (m : SplitMessage) (Arrived : Nat → Prop) : Prop :=
  ∀ i < m.segments.length, Arrived i

variable {m : SplitMessage}

namespace ReassemblyBuffer

variable {Arrived : Nat → Prop} {buf : ReassemblyBuffer}

theorem holds_default (m : SplitMessage) (later : Nat) :
    (ReassemblyBuffer.default later).Holds m fun _ => False where
  segments i pkt := by simp [ReassemblyBuffer.default]
  last := by simp [ReassemblyBuffer.default]
  count h := by simp [ReassemblyBuffer.default] at h

namespace Holds

variable (h : buf.Holds m Arrived)
include h

theorem isSome_lookup (i : Nat) :
    (buf.segments.lookup i).isSome ↔ Arrived i ∧ i < m.segments.length := by
  rw [Option.isSome_iff_exists]
  constructor
  · rintro ⟨pkt, hpkt⟩
    obtain ⟨harr, hget⟩ := (h.segments i pkt).mp hpkt
    exact ⟨harr, (List.getElem?_eq_some_iff.mp hget).1⟩
  · rintro ⟨harr, hlt⟩
    exact ⟨m.segments[i], (h.segments i _).mpr ⟨harr, getElem?_eq_getElem hlt⟩⟩

theorem size :
    buf.segments.entries.length ≤ m.segments.length ∧
      (buf.segments.entries.length = m.segments.length ↔ m.Complete Arrived) := by
  obtain ⟨hle, hiff⟩ := length_eq_iff fun i hi => ((h.isSome_lookup i).mp hi).2
  refine ⟨hle, hiff.trans ⟨fun hall i hi => ?_, fun hall i hi => ?_⟩⟩
  · exact ((h.isSome_lookup i).mp (hall i hi)).1
  · exact (h.isSome_lookup i).mpr ⟨hall i hi, hi⟩

/-- A buffer is ready exactly when all segments have arrived. -/
theorem readyToReassemble_iff : buf.readyToReassemble = true ↔ m.Complete Arrived := by
  have hpos := length_pos_iff.mpr m.nonempty
  rw [readyToReassemble, Bool.and_eq_true, decide_eq_true_iff, ← h.size.2]
  constructor
  · rintro ⟨hlast, hlen⟩
    rw [hlen, h.count hlast]
  · intro hlen
    have hlast := h.last.mpr (h.size.2.mp hlen _ (by omega))
    exact ⟨hlast, by rw [hlen, h.count hlast]⟩

/-- Segment `i` arrives. -/
theorem addSegment {i : Nat} {pkt : UdpNotifPacket} (hget : m.segments[i]? = some pkt)
    (hsmall : m.segments.length < 65536) :
    (buf.addSegment (BitVec.ofNat 16 i) pkt (decide (i + 1 = m.segments.length))).Holds m
      fun j => Arrived j ∨ j = i := by
  have hlt : i < m.segments.length := (List.getElem?_eq_some_iff.mp hget).1
  have hnumber : (BitVec.ofNat 16 i).toNat = i := by
    rw [BitVec.toNat_ofNat]
    omega
  refine ⟨fun j other => ?_, ?_, ?_⟩
  · simp only [ReassemblyBuffer.addSegment, hnumber]
    by_cases hj : j = i
    · subst hj
      rw [AList.lookup_insert, hget]
      simp
    · rw [AList.lookup_insert_ne hj, h.segments]
      simp [hj]
  · simp only [ReassemblyBuffer.addSegment, Bool.or_eq_true, decide_eq_true_iff, h.last]
    constructor
    · rintro (hi | harr)
      · exact .inr (by omega)
      · exact .inl harr
    · rintro (harr | hi)
      · exact .inr harr
      · exact .inl (by omega)
  · simp only [ReassemblyBuffer.addSegment, Bool.or_eq_true, decide_eq_true_iff]
    intro hlast
    split
    · rename_i hi
      rw [← hi, BitVec.toNat_add, hnumber]
      exact Nat.mod_eq_of_lt (by simpa [hi] using hsmall)
    · rename_i hi
      exact h.count (hlast.resolve_left hi)

omit h

theorem firstMissing_numbered (pkts : List UdpNotifPacket) (start : Nat) :
    firstMissing start (numbered start pkts) = none := by
  induction pkts generalizing start with
  | nil => rfl
  | cons pkt pkts ih => rw [numbered, firstMissing, if_neg (by simp), ih]

/-- A complete buffer is reassembled. -/
theorem reassemble_eq (h : buf.Holds m Arrived) (hall : m.Complete Arrived)
    (hmany : m.segments.length ≠ 1) (mediaType : MediaType) (publisherId messageId : BitVec 32) :
    buf.reassemble mediaType publisherId messageId = .ok m.assembled := by
  have hpos := length_pos_iff.mpr m.nonempty
  have hlast : buf.hasLast = true := h.last.mpr (hall _ (by omega))
  have hlookup : ∀ i, buf.segments.lookup i = m.segments[i]? := by
    intro i
    refine Option.ext fun pkt => (h.segments i pkt).trans ⟨And.right, fun hget => ⟨?_, hget⟩⟩
    exact hall i (List.getElem?_eq_some_iff.mp hget).1
  simp only [reassemble, hlast, h.count hlast, h.size.2.mpr hall, inOrder_eq_numbered hlookup,
    firstMissing_numbered, map_numbered, SplitMessage.assembled, if_neg hmany]
  obtain ⟨first, others, hsegments⟩ := exists_cons_of_ne_nil m.nonempty
  simp [hsegments]

end Holds

end ReassemblyBuffer

/-- What is kept for a message that is not complete: nothing before its first segment, and
then a buffer. -/
def Kept (m : SplitMessage) (Arrived : Nat → Prop) : Option ReassemblyBuffer → Prop
  | none => ∀ i, ¬ Arrived i
  | some buf => buf.Holds m Arrived ∧ ∃ i < m.segments.length, Arrived i

section OwnStep

variable {Arrived : Nat → Prop} {entry : Option ReassemblyBuffer}

theorem Kept.getD (h : Kept m Arrived entry) (later : Nat) :
    (entry.getD (.default later)).Holds m Arrived := by
  cases entry with
  | some buf => exact h.1
  | none =>
    have hnone : Arrived = fun _ => False := funext fun i => eq_false (h i)
    rw [hnone]
    exact ReassemblyBuffer.holds_default m later

/-- A segment of a message that is not complete yet: the message is returned if this was
the last missing segment, and else the segment is kept. -/
theorem ownStep_spec {i : Nat} {pkt : UdpNotifPacket} {maxSegments : BitVec 16}
    (hget : m.segments[i]? = some pkt) (hsmall : m.segments.length ≤ maxSegments.toNat)
    (hkept : Kept m Arrived entry) (hopen : ¬ m.Complete Arrived) (later : Nat) :
    (m.Complete (fun j => Arrived j ∨ j = i) →
      ownStep maxSegments later pkt entry = (none, .ok (some m.assembled))) ∧
    (¬ m.Complete (fun j => Arrived j ∨ j = i) → ∃ buf,
      ownStep maxSegments later pkt entry = (some buf, .ok none) ∧
      buf.Holds m (fun j => Arrived j ∨ j = i) ∧
      ∀ t, t ≤ later → (∀ old ∈ entry, t ≤ old.timestamp) → t ≤ buf.timestamp) := by
  have hlt : i < m.segments.length := (List.getElem?_eq_some_iff.mp hget).1
  have hmax := maxSegments.isLt
  have hnumber : (BitVec.ofNat 16 i).toNat = i := by
    rw [BitVec.toNat_ofNat]
    omega
  simp only [ownStep, m.numbers i pkt hget]
  by_cases hone : m.segments.length = 1
  · -- the only segment
    have hi : i = 0 := by omega
    subst hi
    have hcomplete : m.Complete fun j => Arrived j ∨ j = 0 := fun j hj => .inr (by omega)
    have hnone : entry = none := by
      cases entry with
      | none => rfl
      | some buf =>
        obtain ⟨j, hj, harr⟩ := hkept.2
        exact absurd (fun k hk => by rwa [show k = j by omega]) hopen
    have hhead : m.segments.head m.nonempty = pkt := by
      rw [head_eq_iff_head?_eq_some, head?_eq_getElem?, hget]
    refine ⟨fun _ => ?_, fun hnot => absurd hcomplete hnot⟩
    simp [hone, hnone, SplitMessage.assembled, hhead]
  · have hnotWhole : ¬ (BitVec.ofNat 16 i = 0 ∧ decide (i + 1 = m.segments.length) = true) := by
      rintro ⟨hzero, hend⟩
      have : i = 0 := by
        rw [← hnumber, hzero]
        rfl
      rw [decide_eq_true_iff] at hend
      omega
    rw [if_neg hnotWhole]
    by_cases hdup : ((entry.map fun buf =>
        (buf.segments.lookup (BitVec.ofNat 16 i).toNat).isSome).getD false) = true
    · -- a repeated segment
      rw [if_pos hdup]
      cases entry with
      | none => cases hdup
      | some buf =>
        have harr : Arrived i := hnumber ▸ ((hkept.1.isSome_lookup _).mp hdup).1
        have hsame : (fun j => Arrived j ∨ j = i) = Arrived :=
          funext fun j => propext ⟨fun h => h.elim id (· ▸ harr), .inl⟩
        rw [hsame]
        exact ⟨fun hall => absurd hall hopen, fun _ =>
          ⟨buf, rfl, hkept.1, fun t _ hold => hold buf rfl⟩⟩
    · rw [if_neg hdup]
      have hroom : ¬ (entry.any fun buf =>
          decide (buf.segments.entries.length ≥ maxSegments.toNat)) = true := by
        cases entry with
        | none => simp
        | some buf =>
          have hsize := hkept.1.size
          have hless : buf.segments.entries.length ≠ m.segments.length :=
            fun heq => hopen (hsize.2.mp heq)
          simp only [Option.any_some, decide_eq_true_iff]
          omega
      rw [if_neg hroom]
      have hadded := (hkept.getD later).addSegment hget (by omega)
      refine ⟨fun hall => ?_, fun hnot => ?_⟩
      · rw [hadded.readyToReassemble_iff.mpr hall, hadded.reassemble_eq hall hone]
        rfl
      · have hready := Bool.eq_false_iff.mpr (mt hadded.readyToReassemble_iff.mp hnot)
        rw [hready]
        refine ⟨_, rfl, hadded, fun t hlater hold => ?_⟩
        cases entry with
        | none => exact hlater
        | some buf => exact hold buf rfl

end OwnStep

/-! ## Runs -/

/-- A segment arrives in a datagram; `now` and `later` are the times the codec reads. -/
structure Arrival where
  message : SplitMessage
  number : Nat
  inRange : number < message.segments.length
  now : Nat
  later : Nat
  octets : Octets

def Arrival.packet (a : Arrival) : UdpNotifPacket := a.message.segments.get ⟨a.number, a.inRange⟩

/-- Segment `i` of the message is among the arrivals. -/
def Arrived (arrivals : List Arrival) (m : SplitMessage) (i : Nat) : Prop :=
  ∃ a ∈ arrivals, a.message = m ∧ a.number = i

/-- Segments of messages with different keys, in any order and with repetitions, each
message within the timeout and without segments that arrive after its completion. -/
structure Schedule (maxSegments : BitVec 16) (timeout : Nat) (arrivals : List Arrival) :
    Prop where
  read : ∀ a ∈ arrivals, readDatagram a.octets = .ok a.packet
  small : ∀ a ∈ arrivals, a.message.segments.length ≤ maxSegments.toNat
  distinct : ∀ a ∈ arrivals, ∀ b ∈ arrivals,
    a.message.key = b.message.key → a.message = b.message
  clock : ∀ a ∈ arrivals, a.now ≤ a.later
  ordered : arrivals.Pairwise fun a b => a.now ≤ b.now
  inTime : ∀ a ∈ arrivals, ∀ b ∈ arrivals, a.message = b.message → b.now ≤ a.now + timeout
  unfinished : ∀ before a after, arrivals = before ++ a :: after →
    ¬ a.message.Complete (Arrived before a.message)

theorem arrived_concat_iff {before : List Arrival} {a : Arrival} {i : Nat} :
    Arrived (before ++ [a]) m i ↔ Arrived before m i ∨ a.message = m ∧ a.number = i := by
  simp [Arrived, or_and_right, exists_or]

theorem arrived_concat (before : List Arrival) (a : Arrival) :
    Arrived (before ++ [a]) a.message = fun i => Arrived before a.message i ∨ i = a.number := by
  funext i
  simp [arrived_concat_iff, eq_comm]

theorem arrived_concat_other (before : List Arrival) {a : Arrival} (hne : a.message ≠ m) :
    Arrived (before ++ [a]) m = Arrived before m := by
  funext i
  simp [arrived_concat_iff, hne]

theorem Arrival.getElem?_number (a : Arrival) :
    a.message.segments[a.number]? = some a.packet := getElem?_eq_getElem a.inRange

theorem Arrival.packet_key (a : Arrival) : a.packet.key = a.message.key :=
  a.message.ids _ (get_mem _ _)

namespace UdpPacketCodec

/-- The codec after the arrivals, and what its calls have returned. -/
def run (codec : UdpPacketCodec) : List Arrival → UdpPacketCodec × List Reassembled
  | [] => (codec, [])
  | a :: arrivals =>
    let (next, _, result) := codec.decode a.now a.later a.octets
    let (last, results) := next.run arrivals
    (last, result :: results)

variable (codec : UdpPacketCodec)

theorem run_concat (arrivals : List Arrival) (a : Arrival) :
    codec.run (arrivals ++ [a]) =
      (((codec.run arrivals).1.decode a.now a.later a.octets).1,
        (codec.run arrivals).2 ++ [((codec.run arrivals).1.decode a.now a.later a.octets).2.2]) := by
  induction arrivals generalizing codec with
  | nil => rfl
  | cons b arrivals ih => simp only [cons_append, run, ih]

theorem run_getElem? (before : List Arrival) (a : Arrival) (after : List Arrival) :
    (codec.run (before ++ a :: after)).2[before.length]? =
      some ((codec.run before).1.decode a.now a.later a.octets).2.2 := by
  induction before generalizing codec with
  | nil => rfl
  | cons b before ih => simp only [cons_append, run, length_cons,
      getElem?_cons_succ, ih]

/-- The packets that calls have returned. -/
def returned (results : List Reassembled) : List UdpNotifPacket :=
  results.filterMap fun result => result.toOption.join

theorem returned_concat (results : List Reassembled) (pkt : Option UdpNotifPacket) :
    returned (results ++ [.ok pkt]) = returned results ++ pkt.toList := by
  cases pkt <;> simp [returned, Except.toOption]

theorem fresh_eq (now : Nat) (key : MessageKey)
    (h : ∀ buf ∈ codec.incompleteMessages.lookup key, now ≤ buf.timestamp + codec.reassemblyTimeout) :
    codec.fresh now key = codec.incompleteMessages.lookup key := by
  rw [fresh]
  cases hlookup : codec.incompleteMessages.lookup key with
  | none => rfl
  | some buf =>
    have hnow := h buf hlookup
    rw [Option.filter_some, if_pos]
    simp only [ReassemblyBuffer.isTimedOut, Bool.not_eq_true', decide_eq_false_iff_not]
    omega

end UdpPacketCodec

theorem SplitMessage.assembled_key (m : SplitMessage) : m.assembled.key = m.key := by
  have hhead : (m.segments.head m.nonempty).key = m.key := m.ids _ (head_mem _)
  rw [assembled]
  split
  · exact hhead
  · exact hhead

/-- The state of a message after the arrivals: while it is not complete nothing has been
returned, and its buffer is there as long as it is not too old; when it is complete it has
been returned once and its buffer is gone. -/
structure Tracked (timeout : Nat) (arrivals : List Arrival) (m : SplitMessage)
    (entry : Option ReassemblyBuffer) (handed : List UdpNotifPacket) : Prop where
  finished : m.Complete (Arrived arrivals m) → entry = none ∧ handed = [m.assembled]
  waiting : ¬ m.Complete (Arrived arrivals m) → handed = []
  kept : ¬ m.Complete (Arrived arrivals m) →
    (∀ a ∈ arrivals, ∀ b ∈ arrivals, b.message = m → a.now ≤ b.now + timeout) →
    Kept m (Arrived arrivals m) entry ∧
      ∀ buf ∈ entry, ∃ b ∈ arrivals, b.message = m ∧ b.now ≤ buf.timestamp

theorem tracked_nil (timeout : Nat) (m : SplitMessage) : Tracked timeout [] m none [] where
  finished hall := by
    obtain ⟨a, ha, -⟩ := hall 0 (length_pos_iff.mpr m.nonempty)
    cases ha
  waiting _ := rfl
  kept _ _ := by
    refine ⟨?_, fun buf hbuf => by cases hbuf⟩
    rintro i ⟨a, ha, -⟩
    cases ha

section Step

variable {maxSegments : BitVec 16} {timeout : Nat} {arrivals before after : List Arrival}
  {a : Arrival} {codec : UdpPacketCodec} {results : List Reassembled}

/-- The packets among the results that belong to the message. -/
def handedOver (results : List Reassembled) (m : SplitMessage) : List UdpNotifPacket :=
  (UdpPacketCodec.returned results).filter fun pkt => pkt.key = m.key

theorem handedOver_concat (results : List Reassembled) (m : SplitMessage)
    (pkt : Option UdpNotifPacket) :
    handedOver (results ++ [.ok pkt]) m =
      handedOver results m ++ pkt.toList.filter fun pkt => pkt.key = m.key := by
  rw [handedOver, returned_concat, filter_append]
  rfl

/-- What the arrival of a segment returns, and what becomes of its own message. -/
theorem Tracked.own (hs : Schedule maxSegments timeout arrivals)
    (hsplit : arrivals = before ++ a :: after) (hmax : codec.maxSegments = maxSegments)
    (htimeout : codec.reassemblyTimeout = timeout)
    (h : Tracked timeout before a.message (codec.incompleteMessages.lookup a.message.key)
      (handedOver results a.message)) :
    ∃ pkt, (codec.decode a.now a.later a.octets).2.2 = .ok pkt ∧
      (∀ p ∈ pkt, p.key = a.message.key) ∧
      (a.message.Complete (Arrived (before ++ [a]) a.message) → pkt = some a.message.assembled) ∧
      (¬ a.message.Complete (Arrived (before ++ [a]) a.message) → pkt = none) ∧
      Tracked timeout (before ++ [a]) a.message
        ((codec.decode a.now a.later a.octets).1.incompleteMessages.lookup a.message.key)
        (handedOver (results ++ [.ok pkt]) a.message) := by
  have hmem : ∀ b ∈ before, b ∈ arrivals := fun b hb => hsplit ▸ mem_append_left _ hb
  have ha : a ∈ arrivals := by rw [hsplit]; simp
  have hopen := hs.unfinished before a after hsplit
  have hearlier : ∀ b ∈ before, b.now ≤ a.now := by
    have hpairs := hs.ordered
    rw [hsplit, pairwise_append] at hpairs
    exact fun b hb => hpairs.2.2 b hb a mem_cons_self
  -- the buffer is still there
  obtain ⟨hkept, hsince⟩ := h.kept hopen fun c hc b hb hmessage =>
    (hearlier c hc).trans (hs.inTime b (hmem b hb) a ha hmessage)
  have hfresh : codec.fresh a.now a.packet.key =
      codec.incompleteMessages.lookup a.message.key := by
    rw [a.packet_key]
    refine codec.fresh_eq _ _ fun buf hbuf => ?_
    obtain ⟨b, hb, hmessage, hnow⟩ := hsince buf hbuf
    have := hs.inTime b (hmem b hb) a ha hmessage
    omega
  have hown := decode_own codec a.now a.later (hs.read a ha)
  rw [hfresh, a.packet_key, hmax] at hown
  obtain ⟨hdone, hmore⟩ := ownStep_spec a.getElem?_number (hs.small a ha) hkept hopen a.later
  rw [← arrived_concat] at hdone hmore
  by_cases hall : a.message.Complete (Arrived (before ++ [a]) a.message)
  · rw [hdone hall, Prod.mk.injEq] at hown
    refine ⟨some a.message.assembled, hown.2, ?_, fun _ => rfl, fun hnot => absurd hall hnot, ?_⟩
    · rintro p ⟨⟩
      exact a.message.assembled_key
    · refine ⟨fun _ => ⟨hown.1, ?_⟩, fun hnot => absurd hall hnot, fun hnot => absurd hall hnot⟩
      rw [handedOver_concat, h.waiting hopen]
      simp [a.message.assembled_key]
  · obtain ⟨buf, hstep, hholds, htime⟩ := hmore hall
    rw [hstep, Prod.mk.injEq] at hown
    refine ⟨none, hown.2, by simp, fun hyes => absurd hyes hall, fun _ => rfl, ?_⟩
    refine ⟨fun hyes => absurd hyes hall, fun _ => ?_, fun _ _ => ?_⟩
    · rw [handedOver_concat, h.waiting hopen]
      rfl
    · rw [hown.1]
      refine ⟨⟨hholds, a.number, a.inRange, a, by simp, rfl, rfl⟩, ?_⟩
      rintro new ⟨⟩
      cases hentry : codec.incompleteMessages.lookup a.message.key with
      | none =>
        refine ⟨a, by simp, rfl, htime a.now (hs.clock a ha) ?_⟩
        simp [hentry]
      | some old =>
        obtain ⟨b, hb, hmessage, hnow⟩ := hsince old hentry
        refine ⟨b, by simp [hb], hmessage, htime b.now ((hearlier b hb).trans (hs.clock a ha)) ?_⟩
        rw [hentry]
        rintro other ⟨⟩
        exact hnow

/-- The arrival leaves other messages as they were. -/
theorem Tracked.other (hs : Schedule maxSegments timeout arrivals) (ha : a ∈ arrivals)
    (hm : ∃ b ∈ arrivals, b.message = m) (hne : a.message ≠ m)
    (htimeout : codec.reassemblyTimeout = timeout) {pkt : Option UdpNotifPacket}
    (hpkt : ∀ p ∈ pkt, p.key = a.message.key)
    (h : Tracked timeout before m (codec.incompleteMessages.lookup m.key) (handedOver results m)) :
    Tracked timeout (before ++ [a]) m
      ((codec.decode a.now a.later a.octets).1.incompleteMessages.lookup m.key)
      (handedOver (results ++ [.ok pkt]) m) := by
  have hkey : m.key ≠ a.message.key := by
    obtain ⟨b, hb, rfl⟩ := hm
    exact fun heq => hne (hs.distinct b hb a ha heq).symm
  have hhanded : handedOver (results ++ [.ok pkt]) m = handedOver results m := by
    rw [handedOver_concat, append_right_eq_self, filter_eq_nil_iff]
    intro p hp
    rw [Option.mem_toList] at hp
    simpa [hpkt p hp] using hkey.symm
  rw [decode_other (hs.read a ha) (a.packet_key ▸ hkey), hhanded]
  refine ⟨fun hall => ?_, fun hnot => ?_, fun hnot hlive => ?_⟩
  · rw [arrived_concat_other before hne] at hall
    obtain ⟨hnone, hreturned⟩ := h.finished hall
    exact ⟨by rw [UdpPacketCodec.fresh, hnone]; rfl, hreturned⟩
  · rw [arrived_concat_other before hne] at hnot
    exact h.waiting hnot
  · rw [arrived_concat_other before hne] at hnot ⊢
    obtain ⟨hkept, hsince⟩ := h.kept hnot fun c hc b hb =>
      hlive c (mem_append_left _ hc) b (mem_append_left _ hb)
    have hfresh := codec.fresh_eq a.now m.key fun buf hbuf => by
        obtain ⟨b, hb, hmessage, hnow⟩ := hsince buf hbuf
        have := hlive a (by simp) b (mem_append_left _ hb) hmessage
        omega
    rw [hfresh]
    refine ⟨hkept, fun buf hbuf => ?_⟩
    obtain ⟨b, hb, hmessage, hnow⟩ := hsince buf hbuf
    exact ⟨b, mem_append_left _ hb, hmessage, hnow⟩

namespace Schedule

/-- Every message is tracked along the run. -/
theorem run_tracked (hs : Schedule maxSegments timeout arrivals)
    (hsplit : arrivals = before ++ after) :
    ((UdpPacketCodec.new maxSegments timeout).run before).1.maxSegments = maxSegments ∧
    ((UdpPacketCodec.new maxSegments timeout).run before).1.reassemblyTimeout = timeout ∧
    ∀ m, (∃ a ∈ arrivals, a.message = m) →
      Tracked timeout before m
        (((UdpPacketCodec.new maxSegments timeout).run before).1.incompleteMessages.lookup m.key)
        (handedOver ((UdpPacketCodec.new maxSegments timeout).run before).2 m) := by
  induction before using List.reverseRecOn generalizing after with
  | nil => exact ⟨rfl, rfl, fun m _ => tracked_nil timeout m⟩
  | append_singleton before a ih =>
    rw [append_assoc, singleton_append] at hsplit
    obtain ⟨hmax, htimeout, htracked⟩ := ih hsplit
    have ha : a ∈ arrivals := by rw [hsplit]; simp
    obtain ⟨pkt, hresult, hkey, -, -, hown⟩ :=
      Tracked.own hs hsplit hmax htimeout (htracked a.message ⟨a, ha, rfl⟩)
    have hlimits := decode_limits
      ((UdpPacketCodec.new maxSegments timeout).run before).1 a.now a.later (hs.read a ha)
    rw [run_concat, hresult]
    refine ⟨hlimits.1.trans hmax, hlimits.2.trans htimeout, fun m hm => ?_⟩
    by_cases hsame : a.message = m
    · exact hsame ▸ hown
    · exact (htracked m hm).other hs ha hm hsame htimeout hkey

/-- A segment that completes its message returns it, other segments return nothing, and
every message whose segments have all arrived has been returned once. -/
theorem run_reassembles (maxSegments : BitVec 16) (timeout : Nat) (arrivals : List Arrival)
    (hs : Schedule maxSegments timeout arrivals) :
    (∀ before a after, arrivals = before ++ a :: after →
      (a.message.Complete (Arrived (before ++ [a]) a.message) →
        ((UdpPacketCodec.new maxSegments timeout).run arrivals).2[before.length]? =
          some (.ok (some a.message.assembled))) ∧
      (¬ a.message.Complete (Arrived (before ++ [a]) a.message) →
        ((UdpPacketCodec.new maxSegments timeout).run arrivals).2[before.length]? =
          some (.ok none))) ∧
    ∀ a ∈ arrivals, a.message.Complete (Arrived arrivals a.message) →
      handedOver ((UdpPacketCodec.new maxSegments timeout).run arrivals).2 a.message =
        [a.message.assembled] := by
  refine ⟨fun before a after hsplit => ?_, fun a ha hall => ?_⟩
  · obtain ⟨hmax, htimeout, htracked⟩ := run_tracked hs hsplit
    have ha : a ∈ arrivals := by rw [hsplit]; simp
    obtain ⟨pkt, hresult, -, hdone, hmore, -⟩ :=
      Tracked.own hs hsplit hmax htimeout (htracked a.message ⟨a, ha, rfl⟩)
    rw [hsplit, run_getElem?, hresult]
    exact ⟨fun hall => by rw [hdone hall], fun hnot => by rw [hmore hnot]⟩
  · obtain ⟨-, -, htracked⟩ := run_tracked hs (append_nil arrivals).symm
    exact ((htracked a.message ⟨a, ha, rfl⟩).finished hall).2

end Schedule

end Step

/-! ## A run -/

/-- A segment with one octet of payload. -/
def piece (messageId : BitVec 32) (number : BitVec 16) (last : Bool) (octet : BitVec 8) :
    UdpNotifPacket :=
  ⟨.yangDataJson, 1, messageId, AList.singleton .segment (.segment number last), [octet]⟩

def twoPieces : SplitMessage where
  publisherId := 1
  messageId := 2
  segments := [piece 2 0 false 0xaa, piece 2 1 true 0xbb]
  nonempty := by simp
  ids := by simp [piece, UdpNotifPacket.key]
  numbers
    | 0, _, rfl => rfl
    | 1, _, rfl => rfl

def onePiece : SplitMessage where
  publisherId := 1
  messageId := 3
  segments := [piece 3 0 true 0xcc]
  nonempty := by simp
  ids := by simp [piece, UdpNotifPacket.key]
  numbers
    | 0, _, rfl => rfl

/-- The second piece, another message, the second piece again, and the first piece. -/
def outOfOrder : List Arrival :=
  [⟨twoPieces, 1, by decide, 0, 0, [0x21, 16, 0, 17, 0, 0, 0, 1, 0, 0, 0, 2, 1, 4, 0, 3, 0xbb]⟩,
    ⟨onePiece, 0, by decide, 1, 2, [0x21, 16, 0, 17, 0, 0, 0, 1, 0, 0, 0, 3, 1, 4, 0, 1, 0xcc]⟩,
    ⟨twoPieces, 1, by decide, 4, 4, [0x21, 16, 0, 17, 0, 0, 0, 1, 0, 0, 0, 2, 1, 4, 0, 3, 0xbb]⟩,
    ⟨twoPieces, 0, by decide, 5, 5, [0x21, 16, 0, 17, 0, 0, 0, 1, 0, 0, 0, 2, 1, 4, 0, 0, 0xaa]⟩]

theorem schedule_outOfOrder : Schedule 2 10 outOfOrder where
  read := by
    simp only [outOfOrder, forall_mem_cons]
    exact ⟨rfl, rfl, rfl, rfl, by simp⟩
  small := by
    simp only [outOfOrder, forall_mem_cons]
    exact ⟨by decide, by decide, by decide, by decide, by simp⟩
  distinct := by
    simp only [outOfOrder, forall_mem_cons]
    simp [twoPieces, onePiece, SplitMessage.key]
  clock := by simp [outOfOrder]
  ordered := by simp [outOfOrder]
  inTime := by simp [outOfOrder]
  unfinished
    | [], a, after, _, hall => by
      obtain ⟨b, hb, -⟩ := hall 0 (length_pos_iff.mpr a.message.nonempty)
      cases hb
    | [_], _, _, rfl, hall => by
      obtain ⟨b, hb, hmessage, -⟩ := hall 0 (by decide)
      rw [mem_singleton.mp hb] at hmessage
      exact absurd (congrArg SplitMessage.messageId hmessage) (by decide)
    | [_, _], _, _, rfl, hall => by
      obtain ⟨b, hb, hmessage, hnumber⟩ := hall 0 (by decide)
      rcases mem_pair.mp hb with rfl | rfl
      · cases hnumber
      · exact absurd (congrArg SplitMessage.messageId hmessage) (by decide)
    | [_, _, _], _, _, rfl, hall => by
      obtain ⟨b, hb, hmessage, hnumber⟩ := hall 0 (by decide)
      simp only [mem_cons, not_mem_nil, or_false] at hb
      rcases hb with rfl | rfl | rfl
      · cases hnumber
      · exact absurd (congrArg SplitMessage.messageId hmessage) (by decide)
      · cases hnumber
    | _ :: _ :: _ :: _ :: _, _, _, h, _ => by simp [outOfOrder] at h

theorem outOfOrder_reassembled :
    Schedule 2 10 outOfOrder ∧
      handedOver ((UdpPacketCodec.new 2 10).run outOfOrder).2 twoPieces =
        [⟨.yangDataJson, 1, 2, ∅, [0xaa, 0xbb]⟩] := by
  have hall : twoPieces.Complete (Arrived outOfOrder twoPieces)
    | 0, _ => ⟨_, .tail _ (.tail _ (.tail _ (.head _))), rfl, rfl⟩
    | 1, _ => ⟨_, .head _, rfl, rfl⟩
    | _ + 2, h => absurd h (by simp [twoPieces])
  exact ⟨schedule_outOfOrder,
    (Schedule.run_reassembles 2 10 outOfOrder schedule_outOfOrder).2 _ (.head _) hall⟩

/-- A message of one segment keeps its option. -/
theorem onePiece_keeps_option :
    ((UdpPacketCodec.new 2 10).decode 0 0
        [0x21, 16, 0, 17, 0, 0, 0, 1, 0, 0, 0, 3, 1, 4, 0, 1, 0xcc]).2.2 =
      .ok (some (piece 3 0 true 0xcc)) ∧
    onePiece.segments = [piece 3 0 true 0xcc] ∧
    (piece 3 0 true 0xcc).options.lookup .segment = some (.segment 0 true) :=
  ⟨rfl, rfl, rfl⟩

end NetCalyx.UdpNotif
