import NetCalyx.UdpNotif.Reassembly

/-!
# Purging idle UDP-Notif peers

The actor keeps a codec for each peer, and beside it the time of the peer's last datagram.
Peers that have been silent for some time are purged, and with them whatever their codecs
have collected of unfinished messages.

Nothing of this is seen as long as the time is not shorter than the time after which a codec
drops an unfinished message by itself. All buffers of a purged codec were made before the
last datagram of the peer, so that the codec would have dropped them at the next one.
-/

namespace NetCalyx.UdpNotif
open Wire Collections

/-- The part of the actor that belongs to its peers. -/
structure UdpNotifActor (Peer : Type) where
  reassemblyMaxSegments : BitVec 16
  reassemblyTimeout : Nat
  peersUsage : Map Peer Nat
  clients : Map Peer UdpPacketCodec

/-- The counts are handed over and start again. -/
def UdpPacketCodec.takeReassemblyEvents (codec : UdpPacketCodec) :
    UdpPacketCodec × ReassemblyEventCounts :=
  ({ codec with reassemblyEvents := ⟨0, 0, 0⟩ }, codec.reassemblyEvents)

/-- A datagram, with the times at which the codec looks at its buffers, a new buffer is made
and the datagram is noted; or a purge. -/
inductive Turn (Peer : Type) where
  | datagram (now later noted : Nat) (buf : Octets) (addr : Peer)
  | purge (now dur : Nat)

def Turn.isDatagram {Peer : Type} : Turn Peer → Bool
  | datagram .. => true
  | purge .. => false

namespace UdpNotifActor

variable {Peer : Type} [DecidableEq Peer]

def new (reassemblyMaxSegments : BitVec 16) (reassemblyTimeout : Nat) : UdpNotifActor Peer :=
  ⟨reassemblyMaxSegments, reassemblyTimeout, ∅, ∅⟩

variable (actor : UdpNotifActor Peer)

/-- The codec of a peer, or a fresh one. -/
def codec (addr : Peer) : UdpPacketCodec :=
  (actor.clients.lookup addr).getD (.new actor.reassemblyMaxSegments actor.reassemblyTimeout)

/-- Every datagram is noted, whether it can be decoded or not. -/
def decodePkt (now later noted : Nat) (buf : Octets) (addr : Peer) :
    UdpNotifActor Peer × Reassembled :=
  let (codec, _, result) := (actor.codec addr).decode now later buf
  ({ actor with
      peersUsage := actor.peersUsage.insert addr noted
      clients := actor.clients.insert addr codec.takeReassemblyEvents.1 },
    result)

/-- The peers that have been silent for longer than `dur`. -/
def clearedPeers (now dur : Nat) : List Peer :=
  (actor.peersUsage.entries.filter fun entry => dur < now - entry.2).map (·.1)

def purgeUnusedPeers (now dur : Nat) : UdpNotifActor Peer × List Peer :=
  ({ actor with
      peersUsage := retain (fun _ lastSet => !decide (dur < now - lastSet)) actor.peersUsage
      clients := (actor.clearedPeers now dur).foldl (fun clients peer => clients.erase peer)
        actor.clients },
    actor.clearedPeers now dur)

/-- One turn, with what a datagram gives. -/
def turn : Turn Peer → UdpNotifActor Peer × Option (Peer × Reassembled)
  | .datagram now later noted buf addr =>
    let (actor, result) := actor.decodePkt now later noted buf addr
    (actor, some (addr, result))
  | .purge now dur => ((actor.purgeUnusedPeers now dur).1, none)

def run (actor : UdpNotifActor Peer) : List (Turn Peer) → UdpNotifActor Peer × List (Peer × Reassembled)
  | [] => (actor, [])
  | turn :: turns =>
    let (actor, result) := actor.turn turn
    let (actor, results) := actor.run turns
    (actor, result.toList ++ results)

end UdpNotifActor

open UdpNotifActor

namespace Turn

variable {Peer : Type}

/-- The times of a turn, one after the other and not before `t`. -/
def After (t : Nat) : Turn Peer → Prop
  | datagram now later noted _ _ => t ≤ now ∧ now ≤ later ∧ later ≤ noted
  | purge now _ => t ≤ now

/-- The last time of a turn. -/
def stop : Turn Peer → Nat
  | datagram _ _ noted _ _ => noted
  | purge now _ => now

end Turn

/-- The clock does not go back. -/
def Timely {Peer : Type} : Nat → List (Turn Peer) → Prop
  | _, [] => True
  | t, turn :: turns => turn.After t ∧ Timely turn.stop turns

/-- When the last datagram of a peer was noted. -/
def lastDatagram {Peer : Type} [DecidableEq Peer] (addr : Peer) (turns : List (Turn Peer)) :
    Option Nat :=
  turns.foldl (fun last turn => match turn with
    | .datagram _ _ noted _ peer => if addr = peer then some noted else last
    | .purge .. => last) none

/-! ## The codec and its buffers -/

/-- What a segment can do to the buffer of its message. -/
inductive OwnStep (maxSegments : BitVec 16) (later : Nat) (pkt : UdpNotifPacket)
    (entry : Option ReassemblyBuffer) : Option ReassemblyBuffer × Reassembled → Prop where
  | panics (info : extractSegmentInfo pkt.options = none) :
      OwnStep maxSegments later pkt entry (entry, .error .panic)
  | whole (info : extractSegmentInfo pkt.options = some (0, true)) :
      OwnStep maxSegments later pkt entry (entry, .ok (some pkt))
  | repeated : OwnStep maxSegments later pkt entry (entry, .ok none)
  | exceeded (err : Stop UdpPacketCodecError) :
      OwnStep maxSegments later pkt entry (none, .error err)
  | added {number : BitVec 16} {last : Bool}
      (new : ∀ old, entry = some old → old.segments.lookup number.toNat = none)
      (room : ∀ old, entry = some old → old.segments.entries.length < maxSegments.toNat) :
      OwnStep maxSegments later pkt entry
        (some ((entry.getD (.default later)).addSegment number pkt last), .ok none)
  | finished (result : Reassembled) : OwnStep maxSegments later pkt entry (none, result)

theorem ownStep_cases (maxSegments : BitVec 16) (later : Nat) (pkt : UdpNotifPacket)
    (entry : Option ReassemblyBuffer) :
    OwnStep maxSegments later pkt entry (ownStep maxSegments later pkt entry) := by
  unfold ownStep
  cases hinfo : extractSegmentInfo pkt.options with
  | none => exact .panics hinfo
  | some info =>
    obtain ⟨number, last⟩ := info
    dsimp only
    split
    · rename_i hwhole
      obtain ⟨rfl, rfl⟩ := hwhole
      exact .whole hinfo
    · split
      · exact .repeated
      · rename_i hnew
        split
        · exact .exceeded _
        · rename_i hroom
          split
          · refine .added (fun old hold => ?_) fun old hold => ?_
            · simpa [hold] using hnew
            · simpa [hold] using hroom
          · exact .finished _

theorem ownStep_timestamp {maxSegments : BitVec 16} {later : Nat} {pkt : UdpNotifPacket}
    {entry : Option ReassemblyBuffer} {buf : ReassemblyBuffer}
    (h : (ownStep maxSegments later pkt entry).1 = some buf) :
    (∃ old, entry = some old ∧ buf.timestamp = old.timestamp) ∨ buf.timestamp = later := by
  have hcases := ownStep_cases maxSegments later pkt entry
  generalize ownStep maxSegments later pkt entry = result at h hcases
  cases hcases with
  | panics | whole | repeated => exact .inl ⟨buf, h, rfl⟩
  | exceeded | finished => cases h
  | added =>
    cases h
    cases entry with
    | none => exact .inr rfl
    | some old => exact .inl ⟨old, rfl, rfl⟩

namespace UdpPacketCodec

variable {codec codec' : UdpPacketCodec} {now later : Nat} {buf : Octets}

/-- A datagram that cannot be read does nothing but drop the old buffers. -/
theorem decode_unread {err : UdpPacketCodecError} (h : readDatagram buf = .error err) :
    (codec.decode now later buf).1 = codec.evict now ∧
      (codec.decode now later buf).2.2 =
        if buf.isEmpty then .ok none else .error (.error err) := by
  unfold decode
  cases hempty : buf.isEmpty with
  | true => exact ⟨rfl, rfl⟩
  | false =>
    simp only [Bool.false_eq_true, if_false]
    cases hlen : checkLen buf with
    | error err' =>
      rw [readDatagram, hlen] at h
      cases h
      exact ⟨rfl, rfl⟩
    | ok lens =>
      rw [h]
      exact ⟨rfl, rfl⟩

variable (codec)

theorem decode_same_limits (now later : Nat) (buf : Octets) :
    (codec.decode now later buf).1.maxSegments = codec.maxSegments ∧
      (codec.decode now later buf).1.reassemblyTimeout = codec.reassemblyTimeout := by
  cases hread : readDatagram buf with
  | error err =>
    rw [(decode_unread hread).1]
    exact ⟨rfl, rfl⟩
  | ok pkt => exact decode_limits codec now later hread

/-- What a buffer is behind a datagram, from those that were not too old. -/
def lookupBehind (maxSegments : BitVec 16) (later : Nat) (buf : Octets)
    (fresh : MessageKey → Option ReassemblyBuffer) (key : MessageKey) : Option ReassemblyBuffer :=
  match readDatagram buf with
  | .error _ => fresh key
  | .ok pkt => if key = pkt.key then (ownStep maxSegments later pkt (fresh pkt.key)).1 else fresh key

theorem decode_lookup (now later : Nat) (buf : Octets) (key : MessageKey) :
    (codec.decode now later buf).1.incompleteMessages.lookup key =
      lookupBehind codec.maxSegments later buf (codec.fresh now) key := by
  unfold lookupBehind
  cases hread : readDatagram buf with
  | error err =>
    rw [(decode_unread hread).1]
    exact evict_lookup codec now key
  | ok pkt =>
    dsimp only
    split
    · rename_i hkey
      rw [hkey]
      exact congrArg Prod.fst (decode_own codec now later hread)
    · rename_i hkey
      exact decode_other hread hkey

/-- What is still fresh of it later on. -/
theorem fresh_decode (now later : Nat) (buf : Octets) (key : MessageKey) (time : Nat) :
    (codec.decode now later buf).1.takeReassemblyEvents.1.fresh time key =
      (lookupBehind codec.maxSegments later buf (codec.fresh now) key).filter
        fun b => !b.isTimedOut time codec.reassemblyTimeout := by
  rw [← decode_lookup, ← (codec.decode_same_limits now later buf).2]
  rfl

variable {codec}

/-- What a datagram gives depends on the buffers that are not too old alone. -/
theorem decode_result (hmax : codec.maxSegments = codec'.maxSegments)
    (hfresh : ∀ key, codec.fresh now key = codec'.fresh now key) :
    (codec.decode now later buf).2.2 = (codec'.decode now later buf).2.2 := by
  cases hread : readDatagram buf with
  | error err => rw [(decode_unread hread).2, (decode_unread hread).2]
  | ok pkt =>
    have hown := congrArg Prod.snd (decode_own codec now later hread)
    have hown' := congrArg Prod.snd (decode_own codec' now later hread)
    dsimp only at hown hown'
    rw [hown, hown', hmax, hfresh]

/-- A buffer behind a datagram was there before or is new. -/
theorem decode_timestamp {key : MessageKey} {b : ReassemblyBuffer}
    (h : (codec.decode now later buf).1.incompleteMessages.lookup key = some b) :
    (∃ old, codec.incompleteMessages.lookup key = some old ∧ b.timestamp = old.timestamp) ∨
      b.timestamp = later := by
  have hold {key : MessageKey} {b : ReassemblyBuffer} (hb : codec.fresh now key = some b) :
      codec.incompleteMessages.lookup key = some b := (Option.filter_eq_some_iff.mp hb).1
  rw [decode_lookup, lookupBehind] at h
  split at h
  · exact .inl ⟨b, hold h, rfl⟩
  · split at h
    · rename_i hkey
      obtain ⟨old, hentry, hsame⟩ | hnew := ownStep_timestamp h
      · exact .inl ⟨old, hkey ▸ hold hentry, hsame⟩
      · exact .inr hnew
    · exact .inl ⟨b, hold h, rfl⟩

end UdpPacketCodec

/-! ## The actor -/

namespace UdpNotifActor

variable {Peer : Type} [DecidableEq Peer] {maxSegments : BitVec 16} {timeout t : Nat}
  {before : List (Turn Peer)} {actor actor' : UdpNotifActor Peer}

/-- What holds of an actor with the given limits at the time `t`, behind the turns `before`. -/
structure Sound (maxSegments : BitVec 16) (timeout t : Nat) (before : List (Turn Peer))
    (actor : UdpNotifActor Peer) : Prop where
  limits : actor.reassemblyMaxSegments = maxSegments ∧ actor.reassemblyTimeout = timeout
  codecs : ∀ addr codec, actor.clients.lookup addr = some codec →
    codec.maxSegments = maxSegments ∧ codec.reassemblyTimeout = timeout
  same : ∀ addr, (actor.clients.lookup addr).isSome = (actor.peersUsage.lookup addr).isSome
  noted : ∀ addr last, actor.peersUsage.lookup addr = some last →
    last ≤ t ∧ lastDatagram addr before = some last
  /-- No buffer is younger than the last datagram of its peer. -/
  dated : ∀ addr codec last, actor.clients.lookup addr = some codec →
    actor.peersUsage.lookup addr = some last →
    ∀ key b, codec.incompleteMessages.lookup key = some b → b.timestamp ≤ last

theorem sound_new : Sound maxSegments timeout t ([] : List (Turn Peer)) (new maxSegments timeout) where
  limits := ⟨rfl, rfl⟩
  codecs _ _ h := by cases h
  same _ := rfl
  noted _ _ h := by cases h
  dated _ _ _ h := by cases h

theorem Sound.codec_limits (h : Sound maxSegments timeout t before actor) (addr : Peer) :
    (actor.codec addr).maxSegments = maxSegments ∧
      (actor.codec addr).reassemblyTimeout = timeout := by
  unfold codec
  cases hcodec : actor.clients.lookup addr with
  | none => exact h.limits
  | some codec => exact h.codecs addr codec hcodec

variable {addr : Peer}

theorem Sound.dated_codec (h : Sound maxSegments timeout t before actor) {key : MessageKey}
    {b : ReassemblyBuffer} (hb : (actor.codec addr).incompleteMessages.lookup key = some b) :
    ∃ last, actor.peersUsage.lookup addr = some last ∧ b.timestamp ≤ last := by
  have hsome := h.same addr
  unfold codec at hb
  cases hcodec : actor.clients.lookup addr with
  | none =>
    rw [hcodec] at hb
    cases hb
  | some codec =>
    rw [hcodec] at hb hsome
    obtain ⟨last, hlast⟩ := Option.isSome_iff_exists.mp hsome.symm
    exact ⟨last, hlast, h.dated addr codec last hcodec hlast key b hb⟩

theorem lastDatagram_concat (addr : Peer) (before : List (Turn Peer)) (turn : Turn Peer) :
    lastDatagram addr (before ++ [turn]) = match turn with
      | .datagram _ _ noted _ peer => if addr = peer then some noted else lastDatagram addr before
      | .purge .. => lastDatagram addr before := by
  rw [lastDatagram, List.foldl_append]
  rfl

theorem mem_clearedPeers {now dur : Nat} :
    addr ∈ actor.clearedPeers now dur ↔
      ∃ last, actor.peersUsage.lookup addr = some last ∧ dur < now - last := by
  simp only [clearedPeers, List.mem_map, List.mem_filter, decide_eq_true_iff]
  constructor
  · rintro ⟨⟨peer, last⟩, ⟨hmem, hsilent⟩, rfl⟩
    exact ⟨last, AList.mem_lookup_iff.mpr hmem, hsilent⟩
  · rintro ⟨last, hlookup, hsilent⟩
    exact ⟨⟨addr, last⟩, ⟨AList.mem_lookup_iff.mp hlookup, hsilent⟩, rfl⟩

theorem mem_clearedPeers_of_lookup {now dur last : Nat}
    (hlast : actor.peersUsage.lookup addr = some last) :
    addr ∈ actor.clearedPeers now dur ↔ dur < now - last := by
  simp [mem_clearedPeers, hlast]

theorem lookup_purged (now dur : Nat) (addr : Peer) :
    ((actor.purgeUnusedPeers now dur).1.clients.lookup addr =
        if addr ∈ actor.clearedPeers now dur then none else actor.clients.lookup addr) ∧
      (actor.purgeUnusedPeers now dur).1.peersUsage.lookup addr =
        if addr ∈ actor.clearedPeers now dur then none else actor.peersUsage.lookup addr := by
  refine ⟨lookup_foldl_erase _ _ _, ?_⟩
  show (retain _ actor.peersUsage).lookup addr = _
  rw [lookup_retain]
  cases hlast : actor.peersUsage.lookup addr with
  | none => simp
  | some last =>
    simp only [mem_clearedPeers_of_lookup hlast]
    by_cases hsilent : dur < now - last <;> simp [Option.filter, hsilent]

variable (h : Sound maxSegments timeout t before actor)
include h

theorem Sound.purge {now : Nat} (ht : t ≤ now) (dur : Nat) :
    Sound maxSegments timeout now (before ++ [.purge now dur])
      (actor.purgeUnusedPeers now dur).1 := by
  have hclient {addr : Peer} {codec : UdpPacketCodec}
      (hc : (actor.purgeUnusedPeers now dur).1.clients.lookup addr = some codec) :
      actor.clients.lookup addr = some codec := by
    rw [(lookup_purged now dur addr).1, Option.ite_none_left_eq_some] at hc
    exact hc.2
  have husage {addr : Peer} {last : Nat}
      (hu : (actor.purgeUnusedPeers now dur).1.peersUsage.lookup addr = some last) :
      actor.peersUsage.lookup addr = some last := by
    rw [(lookup_purged now dur addr).2, Option.ite_none_left_eq_some] at hu
    exact hu.2
  refine ⟨h.limits, fun addr codec hc => h.codecs addr codec (hclient hc), fun addr => ?_,
    fun addr last hu => ?_, fun addr codec last hc hu => h.dated addr codec last (hclient hc) (husage hu)⟩
  · rw [(lookup_purged now dur addr).1, (lookup_purged now dur addr).2]
    split
    · rfl
    · exact h.same addr
  · obtain ⟨hle, hlast⟩ := h.noted addr last (husage hu)
    rw [lastDatagram_concat]
    exact ⟨hle.trans ht, hlast⟩

theorem Sound.datagram {now later noted : Nat} (hafter : t ≤ now ∧ now ≤ later ∧ later ≤ noted)
    (buf : Octets) (peer : Peer) :
    Sound maxSegments timeout noted (before ++ [.datagram now later noted buf peer])
      (actor.decodePkt now later noted buf peer).1 := by
  have hclients (addr : Peer) : (actor.decodePkt now later noted buf peer).1.clients.lookup addr =
      if addr = peer then some ((actor.codec peer).decode now later buf).1.takeReassemblyEvents.1
      else actor.clients.lookup addr := lookup_insert_ite _ _ _ _
  have husage (addr : Peer) : (actor.decodePkt now later noted buf peer).1.peersUsage.lookup addr =
      if addr = peer then some noted else actor.peersUsage.lookup addr := lookup_insert_ite _ _ _ _
  refine ⟨h.limits, fun addr codec hc => ?_, fun addr => ?_, fun addr last hu => ?_,
    fun addr codec last hc hu key b hb => ?_⟩
  · rw [hclients] at hc
    split at hc
    · cases hc
      obtain ⟨hmax, htimeout⟩ := (actor.codec peer).decode_same_limits now later buf
      exact ⟨hmax.trans (h.codec_limits peer).1, htimeout.trans (h.codec_limits peer).2⟩
    · exact h.codecs addr codec hc
  · rw [hclients, husage]
    split
    · rfl
    · exact h.same addr
  · rw [husage] at hu
    rw [lastDatagram_concat]
    dsimp only
    split at hu
    · rename_i haddr
      cases hu
      rw [if_pos haddr]
      exact ⟨le_refl _, rfl⟩
    · rename_i haddr
      rw [if_neg haddr]
      obtain ⟨hle, hlast⟩ := h.noted addr last hu
      exact ⟨by omega, hlast⟩
  · rw [hclients] at hc
    rw [husage] at hu
    split at hc
    · rename_i haddr
      rw [if_pos haddr] at hu
      cases hc
      cases hu
      obtain ⟨old, hold, hsame⟩ | hnew := UdpPacketCodec.decode_timestamp hb
      · -- the buffer was made for an earlier datagram of the peer
        obtain ⟨last, hlast, hle⟩ := h.dated_codec hold
        have hle' := (h.noted peer last hlast).1
        omega
      · omega
    · rename_i haddr
      rw [if_neg haddr] at hu
      exact h.dated addr codec last hc hu key b hb

theorem Sound.turn {turn : Turn Peer} (hafter : turn.After t) :
    Sound maxSegments timeout turn.stop (before ++ [turn]) (actor.turn turn).1 := by
  cases turn with
  | datagram now later noted buf addr => exact h.datagram hafter buf addr
  | purge now dur => exact h.purge hafter dur

/-- Along a run the actor stays sound. -/
theorem Sound.run {done turns : List (Turn Peer)} (htimely : Timely t (done ++ turns)) :
    ∃ t', Sound maxSegments timeout t' (before ++ done) (actor.run done).1 ∧ Timely t' turns := by
  induction done generalizing t before actor with
  | nil => exact ⟨t, by rwa [List.append_nil], htimely⟩
  | cons turn done ih =>
    obtain ⟨t', hsound, hrest⟩ := ih (h.turn htimely.1) htimely.2
    refine ⟨t', ?_, hrest⟩
    rwa [List.append_assoc] at hsound

omit h

/-! ## Two actors side by side -/

/-- From the time `t` on, the buffers that are not too old are the same. -/
def Agree (t : Nat) (actor actor' : UdpNotifActor Peer) : Prop :=
  ∀ addr key now, t ≤ now → (actor.codec addr).fresh now key = (actor'.codec addr).fresh now key

theorem codec_decodePkt (now later noted : Nat) (buf : Octets) (peer addr : Peer) :
    (actor.decodePkt now later noted buf peer).1.codec addr =
      if addr = peer then ((actor.codec peer).decode now later buf).1.takeReassemblyEvents.1
      else actor.codec addr := by
  show ((actor.clients.insert peer _).lookup addr).getD _ = _
  rw [lookup_insert_ite]
  split <;> rfl

/-- Two actors that agree give the same for a datagram, and agree behind it. -/
theorem agree_datagram {before' : List (Turn Peer)} {t' : Nat}
    (h : Sound maxSegments timeout t before actor) (h' : Sound maxSegments timeout t' before' actor')
    (hagree : Agree t actor actor') {now later noted : Nat}
    (hafter : t ≤ now ∧ now ≤ later ∧ later ≤ noted) (buf : Octets) (peer : Peer) :
    (actor.decodePkt now later noted buf peer).2 = (actor'.decodePkt now later noted buf peer).2 ∧
      Agree noted (actor.decodePkt now later noted buf peer).1
        (actor'.decodePkt now later noted buf peer).1 := by
  obtain ⟨hmax, htimeout⟩ := h.codec_limits peer
  obtain ⟨hmax', htimeout'⟩ := h'.codec_limits peer
  have hfresh (key : MessageKey) := hagree peer key now hafter.1
  refine ⟨UdpPacketCodec.decode_result (hmax.trans hmax'.symm) hfresh, fun addr key later' hlater => ?_⟩
  rw [codec_decodePkt, codec_decodePkt]
  split
  · rw [UdpPacketCodec.fresh_decode, UdpPacketCodec.fresh_decode, funext hfresh, hmax, hmax',
      htimeout, htimeout']
  · exact hagree addr key later' (by omega)

/-- Nothing of a purged codec is fresh when it is next looked at. -/
theorem fresh_cleared (h : Sound maxSegments timeout t before actor) {now dur : Nat}
    (hdur : timeout ≤ dur) (hcleared : addr ∈ actor.clearedPeers now dur) (key : MessageKey)
    {later : Nat} (hlater : now ≤ later) : (actor.codec addr).fresh later key = none := by
  obtain ⟨last, hlast, hsilent⟩ := mem_clearedPeers.mp hcleared
  rw [UdpPacketCodec.fresh, Option.filter_eq_none_iff]
  intro b hb
  obtain ⟨last', hlast', hdated⟩ := h.dated_codec hb
  obtain rfl : last = last' := Option.some.inj (hlast.symm.trans hlast')
  rw [(h.codec_limits addr).2]
  simp only [ReassemblyBuffer.isTimedOut, Bool.not_eq_true, Bool.not_eq_false', decide_eq_true_iff]
  omega

theorem agree_purge (h : Sound maxSegments timeout t before actor) (hagree : Agree t actor actor')
    {now dur : Nat} (ht : t ≤ now) (hdur : timeout ≤ dur) :
    Agree now (actor.purgeUnusedPeers now dur).1 actor' := by
  intro addr key later hlater
  rw [← hagree addr key later (by omega)]
  by_cases hcleared : addr ∈ actor.clearedPeers now dur
  · rw [fresh_cleared h hdur hcleared key hlater]
    have hgone : (actor.purgeUnusedPeers now dur).1.clients.lookup addr = none := by
      rw [(lookup_purged now dur addr).1, if_pos hcleared]
    rw [codec, hgone]
    rfl
  · have hkept : (actor.purgeUnusedPeers now dur).1.codec addr = actor.codec addr := by
      rw [codec, (lookup_purged now dur addr).1, if_neg hcleared]
      rfl
    rw [hkept]

/-- The turns of a run without its purges give the same. -/
theorem run_agree {turns before' : List (Turn Peer)} {t' : Nat}
    (h : Sound maxSegments timeout t before actor) (h' : Sound maxSegments timeout t' before' actor')
    (hle : t' ≤ t) (hagree : Agree t actor actor') (htimely : Timely t turns)
    (hdur : ∀ now dur, .purge now dur ∈ turns → timeout ≤ dur) :
    (actor.run turns).2 = (actor'.run (turns.filter (·.isDatagram))).2 := by
  induction turns generalizing t t' before before' actor actor' with
  | nil => rfl
  | cons turn turns ih =>
    have hdur' (now dur : Nat) (hmem : .purge now dur ∈ turns) : timeout ≤ dur :=
      hdur now dur (List.mem_cons_of_mem turn hmem)
    cases turn with
    | datagram now later noted buf addr =>
      have hafter : t ≤ now ∧ now ≤ later ∧ later ≤ noted := htimely.1
      obtain ⟨hresult, hagree⟩ := agree_datagram h h' hagree hafter buf addr
      have hrest := ih (h.datagram hafter buf addr)
        (h'.datagram ⟨by omega, hafter.2⟩ buf addr) (le_refl _) hagree htimely.2 hdur'
      show (addr, (actor.decodePkt now later noted buf addr).2) ::
          ((actor.decodePkt now later noted buf addr).1.run turns).2 =
        (addr, (actor'.decodePkt now later noted buf addr).2) ::
          ((actor'.decodePkt now later noted buf addr).1.run (turns.filter (·.isDatagram))).2
      rw [hresult, hrest]
    | purge now dur =>
      have hnow : t ≤ now := htimely.1
      have hpurged := agree_purge h hagree hnow (hdur now dur List.mem_cons_self)
      exact ih (h.purge hnow dur) h' (hle.trans hnow) hpurged htimely.2 hdur'

end UdpNotifActor

/-- Purges change nothing of what the datagrams give. In every state there is a codec for exactly
the peers whose last datagram is noted, and a purge removes exactly those whose last datagram is
longer ago than it allows. -/
theorem purging_unobservable {Peer : Type} [DecidableEq Peer] (maxSegments : BitVec 16)
    (timeout : Nat) (turns : List (Turn Peer)) (htimely : Timely 0 turns)
    (hdur : ∀ now dur, .purge now dur ∈ turns → timeout ≤ dur) :
    ((UdpNotifActor.new maxSegments timeout).run turns).2 =
        ((UdpNotifActor.new maxSegments timeout).run (turns.filter (·.isDatagram))).2 ∧
      ∀ before after, turns = before ++ after → ∀ addr : Peer,
        let actor := ((UdpNotifActor.new maxSegments timeout).run before).1
        (addr ∈ actor.clients ↔ addr ∈ actor.peersUsage) ∧
        ∀ now dur, after.head? = some (.purge now dur) → addr ∈ actor.clients →
          ∃ last, lastDatagram addr before = some last ∧
            (addr ∉ (actor.purgeUnusedPeers now dur).1.clients ↔ dur < now - last) ∧
            (addr ∈ (actor.purgeUnusedPeers now dur).2 ↔ dur < now - last) := by
  refine ⟨run_agree sound_new sound_new (le_refl 0)
    (fun _ _ _ _ => rfl) htimely hdur, ?_⟩
  rintro before after rfl addr
  obtain ⟨t, hsound, -⟩ := sound_new.run htimely
  rw [List.nil_append] at hsound
  set actor := ((UdpNotifActor.new maxSegments timeout).run before).1
  have hsame : addr ∈ actor.clients ↔ addr ∈ actor.peersUsage := by
    rw [← AList.lookup_isSome, ← AList.lookup_isSome, hsound.same addr]
  refine ⟨hsame, fun now dur _ hclient => ?_⟩
  obtain ⟨last, hlast⟩ := Option.isSome_iff_exists.mp (AList.lookup_isSome.mpr (hsame.mp hclient))
  have hcleared : addr ∈ actor.clearedPeers now dur ↔ dur < now - last :=
    mem_clearedPeers_of_lookup hlast
  refine ⟨last, (hsound.noted addr last hlast).2, ?_, hcleared⟩
  rw [← hcleared, ← AList.lookup_isSome, (lookup_purged now dur addr).1]
  by_cases hmem : addr ∈ actor.clearedPeers now dur
  · simp [hmem]
  · simp [hmem, AList.lookup_isSome, hclient]

/-- The two pieces of a message, with a purge in between. -/
def purgedBetween : List (Turn Unit) :=
  [.datagram 0 0 1 [0x21, 16, 0, 17, 0, 0, 0, 1, 0, 0, 0, 2, 1, 4, 0, 0, 0xaa] (),
    .purge 12 10,
    .datagram 13 13 13 [0x21, 16, 0, 17, 0, 0, 0, 1, 0, 0, 0, 2, 1, 4, 0, 3, 0xbb] ()]

/-- The peer is purged, and its message would not have been finished without that either. -/
theorem purgedBetween_unobserved :
    ((UdpNotifActor.new 2 10).run purgedBetween).2 =
        ((UdpNotifActor.new 2 10).run (purgedBetween.filter (·.isDatagram))).2 ∧
      () ∉ ((UdpNotifActor.new 2 10).run (purgedBetween.take 2)).1.clients := by
  obtain ⟨hsame, hstates⟩ := purging_unobservable 2 10 purgedBetween
    (by simp [purgedBetween, Timely, Turn.After, Turn.stop]) (by simp [purgedBetween])
  refine ⟨hsame, ?_⟩
  obtain ⟨-, hpurge⟩ := hstates (purgedBetween.take 1) (purgedBetween.drop 1) rfl ()
  obtain ⟨last, hlast, hgone, -⟩ := hpurge 12 10 rfl (by decide +kernel)
  cases hlast
  exact hgone.mpr (by decide)

end NetCalyx.UdpNotif
