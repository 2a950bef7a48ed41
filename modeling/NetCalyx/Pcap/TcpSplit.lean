import Mathlib.Data.BitVec
import NetCalyx.Wire.Coverage

/-!
# Reassembly of a TCP flow

Segments that are ahead of the expected sequence number wait. A pass goes over the
waiting segments in the order of their arrival and appends what each of them has to
add; passes are repeated until one of them appends nothing.

For a stream that the sequence numbers can tell apart, `pushAll_spec` says what the
state is after any segments, as a function of the set of their slices: it is the
longest prefix they cover, and whatever starts behind it waits.
-/

namespace NetCalyx.Pcap
open Wire List

/-- A sequence number and the octets that start there. -/
abbrev Segment := BitVec 32 × Octets

structure FlowState where
  buf : Octets
  /-- The sequence number that extends `buf`. -/
  expectedSeq : BitVec 32
  /-- Segments received ahead of `expectedSeq`. -/
  pending : List Segment
  /-- The sequence number of the next written segment. -/
  nextSeq : BitVec 32

def FlowState.new (seq : BitVec 32) : FlowState := ⟨[], seq, [], seq⟩

/-- What a pass over the waiting segments gives. -/
structure Pass where
  buf : Octets
  expectedSeq : BitVec 32
  kept : List Segment
  duplicates : Nat
  progressed : Bool

/-- One pass: a segment ahead of the expected number is kept, the part of a segment
that is new is appended, and a segment with nothing new is a duplicate. -/
def retain (buf : Octets) (expectedSeq : BitVec 32) : List Segment → Pass
  | [] => ⟨buf, expectedSeq, [], 0, false⟩
  | (seq, data) :: pending =>
    -- serial number arithmetic: the difference is taken as a signed number
    let alreadyReceived := (expectedSeq - seq).toInt
    if alreadyReceived < 0 then
      let pass := retain buf expectedSeq pending
      { pass with kept := (seq, data) :: pass.kept }
    else if alreadyReceived.toNat < data.length then
      let pass := retain (buf ++ data.drop alreadyReceived.toNat)
        (expectedSeq + BitVec.ofNat 32 (data.length - alreadyReceived.toNat)) pending
      { pass with progressed := true }
    else
      let pass := retain buf expectedSeq pending
      { pass with duplicates := pass.duplicates + 1 }

namespace FlowState

/-- Passes until one makes no progress. A pass with progress takes a segment off, so
that more rounds than segments are never used. -/
def drain : Nat → FlowState → FlowState × Nat
  | 0, flow => (flow, 0)
  | rounds + 1, flow =>
    let pass := retain flow.buf flow.expectedSeq flow.pending
    let flow' := { flow with
      buf := pass.buf, expectedSeq := pass.expectedSeq, pending := pass.kept }
    if pass.progressed then
      let (flow'', duplicates) := drain rounds flow'
      (flow'', pass.duplicates + duplicates)
    else (flow', pass.duplicates)

/-- Add a segment; the number is that of the duplicates dropped. -/
def pushSegment (flow : FlowState) (segment : Segment) : FlowState × Nat :=
  drain (flow.pending.length + 2) { flow with pending := flow.pending ++ [segment] }

def pushAll (flow : FlowState) (segments : List Segment) : FlowState :=
  segments.foldl (fun flow segment => (flow.pushSegment segment).1) flow

end FlowState

open FlowState

/-! ## Segments of one stream -/

/-- The segment that carries a slice of a stream starting at `seq`. -/
def segmentOf {stream : Octets} (seq : BitVec 32) (slice : Slice stream) : Segment :=
  (seq + BitVec.ofNat 32 slice.offset, slice.data)

/-- Within half of the number space, the signed difference is the true one. -/
theorem toInt_sub_seq (seq : BitVec 32) {n m : Nat} (hn : n < m + 2 ^ 31) (hm : m < n + 2 ^ 31) :
    ((seq + BitVec.ofNat 32 n) - (seq + BitVec.ofNat 32 m)).toInt = (n : Int) - m := by
  rw [add_sub_add_left_eq_sub, BitVec.toInt_sub, BitVec.toInt_ofNat', BitVec.toInt_ofNat',
    Int.bmod_sub_bmod, Int.sub_bmod_bmod]
  exact Int.bmod_eq_of_le (by omega) (by omega)

section

variable {stream : Octets} {seq : BitVec 32} {n n' : Nat} {waiting kept : List (Slice stream)}

/-- What a pass does when the first `n` octets are there and the given slices wait: it
ends with the first `n'` octets and keeps the slices `kept`. -/
structure PassSpec (seq : BitVec 32) (n : Nat) (waiting : List (Slice stream)) (pass : Pass)
    (n' : Nat) (kept : List (Slice stream)) : Prop where
  mono : n ≤ n'
  bound : n' ≤ stream.length
  buf_eq : pass.buf = stream.take n'
  expected_eq : pass.expectedSeq = seq + BitVec.ofNat 32 n'
  kept_eq : pass.kept = kept.map (segmentOf seq)
  sub : kept.Sublist waiting
  ahead : ∀ m, n' ≤ m →
    kept.filter (fun slice => m < slice.offset) = waiting.filter (fun slice => m < slice.offset)
  seen : ∀ slice ∈ waiting, slice ∈ kept ∨ slice.offset + slice.length ≤ n'
  new : ∀ p, n ≤ p → p < n' → ∃ slice ∈ waiting, slice.Covers p
  still : pass.progressed = false → n' = n ∧ ∀ slice ∈ kept, n < slice.offset
  shrinks : pass.progressed = true → kept.length < waiting.length

namespace PassSpec

variable {pass : Pass} {slice : Slice stream}

/-- A slice ahead of the prefix waits on. -/
theorem keep (h : PassSpec seq n waiting pass n' kept) (hahead : n < slice.offset) :
    PassSpec seq n (slice :: waiting) { pass with kept := segmentOf seq slice :: pass.kept } n'
      (slice :: kept) where
  __ := h
  kept_eq := congrArg _ h.kept_eq
  sub := h.sub.cons_cons slice
  ahead m hm := by rw [filter_cons, filter_cons, h.ahead m hm]
  seen := by
    intro other hother
    rcases mem_cons.mp hother with rfl | hother
    · exact .inl mem_cons_self
    · exact (h.seen other hother).imp_left (mem_cons_of_mem slice)
  new p hp hp' := by
    obtain ⟨other, hmem, hcovers⟩ := h.new p hp hp'
    exact ⟨other, mem_cons_of_mem slice hmem, hcovers⟩
  still hstill := by
    obtain ⟨heq, hkept⟩ := h.still hstill
    refine ⟨heq, fun other hother => ?_⟩
    rcases mem_cons.mp hother with rfl | hother
    · exact hahead
    · exact hkept other hother
  shrinks hprogress := Nat.succ_lt_succ (h.shrinks hprogress)

/-- A slice that ends within the prefix is dropped. -/
theorem drop (h : PassSpec seq n waiting pass n' kept) (hseen : slice.offset + slice.length ≤ n) :
    PassSpec seq n (slice :: waiting) { pass with duplicates := pass.duplicates + 1 } n' kept where
  __ := h
  sub := h.sub.cons slice
  ahead m hm := by
    have hmono := h.mono
    have hbehind : ¬ m < slice.offset := by omega
    rw [filter_cons_of_neg (by simpa using hbehind), h.ahead m hm]
  seen := by
    intro other hother
    rcases mem_cons.mp hother with rfl | hother
    · exact .inr (hseen.trans h.mono)
    · exact h.seen other hother
  new p hp hp' := by
    obtain ⟨other, hmem, hcovers⟩ := h.new p hp hp'
    exact ⟨other, mem_cons_of_mem slice hmem, hcovers⟩
  shrinks hprogress := Nat.lt_succ_of_lt (h.shrinks hprogress)

/-- A slice that starts within the prefix and ends behind it extends it to its end. -/
theorem extend (h : PassSpec seq (slice.offset + slice.length) waiting pass n' kept)
    (hstart : slice.offset ≤ n) (hend : n ≤ slice.offset + slice.length) :
    PassSpec seq n (slice :: waiting) { pass with progressed := true } n' kept where
  __ := h
  mono := hend.trans h.mono
  sub := h.sub.cons slice
  ahead m hm := by
    have hmono := h.mono
    have hbehind : ¬ m < slice.offset := by omega
    rw [filter_cons_of_neg (by simpa using hbehind), h.ahead m hm]
  seen := by
    intro other hother
    rcases mem_cons.mp hother with rfl | hother
    · exact .inr h.mono
    · exact h.seen other hother
  new p hp hp' := by
    by_cases hin : p < slice.offset + slice.length
    · exact ⟨slice, mem_cons_self, by omega, hin⟩
    · obtain ⟨other, hmem, hcovers⟩ := h.new p (by omega) hp'
      exact ⟨other, mem_cons_of_mem slice hmem, hcovers⟩
  still hstill := by cases hstill
  shrinks _ := Nat.lt_succ_of_le h.sub.length_le

end PassSpec

/-- The prefix and all that waits lie within half of the number space: `hi` is the
highest end, and less than half of the space ahead of everything. -/
structure Near (n hi : Nat) (waiting : List (Slice stream)) : Prop where
  le : n ≤ hi
  lt : hi < n + 2 ^ 31
  ends : ∀ slice ∈ waiting, slice.offset + slice.length ≤ hi
  near : ∀ slice ∈ waiting, hi < slice.offset + 2 ^ 31

namespace Near

variable {hi : Nat}

theorem advance (h : Near n hi waiting) (hmono : n ≤ n') (hle : n' ≤ hi)
    (hsub : ∀ slice ∈ kept, slice ∈ waiting) : Near n' hi kept where
  le := hle
  lt := by
    have := h.lt
    omega
  ends slice hslice := h.ends slice (hsub slice hslice)
  near slice hslice := h.near slice (hsub slice hslice)

/-- A stream that is shorter than half of the number space. -/
theorem of_short (hstream : stream.length < 2 ^ 31) (hn : n ≤ stream.length)
    (waiting : List (Slice stream)) : Near n stream.length waiting where
  le := hn
  lt := by omega
  ends slice _ := slice.within
  near slice _ := by omega

/-- A pass does not go beyond the highest end. -/
theorem pass_le (h : Near n hi waiting) {pass : Pass}
    (hpass : PassSpec seq n waiting pass n' kept) : n' ≤ hi := by
  by_cases hsame : n' = n
  · exact hsame ▸ h.le
  · have hmono := hpass.mono
    obtain ⟨slice, hslice, -, hend⟩ := hpass.new (n' - 1) (by omega) (by omega)
    have := h.ends slice hslice
    omega

end Near

/-- The induction is on the waiting slices; each of them is kept, appended or dropped. -/
theorem retain_spec (seq : BitVec 32) (waiting : List (Slice stream)) {n hi : Nat}
    (hn : n ≤ stream.length) (hnear : Near n hi waiting) :
    ∃ n' kept, PassSpec seq n waiting
      (retain (stream.take n) (seq + BitVec.ofNat 32 n) (waiting.map (segmentOf seq))) n' kept := by
  induction waiting generalizing n with
  | nil =>
    exact ⟨n, [], le_refl n, hn, rfl, rfl, rfl, List.Sublist.refl [], fun _ _ => rfl, by simp,
      fun p hp hp' => by omega, fun _ => ⟨rfl, by simp⟩, fun h => by cases h⟩
  | cons slice waiting ih =>
    have hbelow := hnear.le
    have hspace := hnear.lt
    have hend := hnear.ends slice mem_cons_self
    have hstart := hnear.near slice mem_cons_self
    have hdiff := toInt_sub_seq seq (show n < slice.offset + 2 ^ 31 by omega)
      (show slice.offset < n + 2 ^ 31 by omega)
    have hrest : Near n hi waiting :=
      hnear.advance le_rfl hbelow fun other hother => mem_cons_of_mem slice hother
    rw [map_cons, segmentOf, retain]
    simp only [hdiff, Slice.length_data]
    by_cases hahead : (n : Int) - slice.offset < 0
    · rw [if_pos hahead]
      obtain ⟨n', kept, h⟩ := ih hn hrest
      exact ⟨n', slice :: kept, h.keep (by omega)⟩
    · have hoffset : ((n : Int) - slice.offset).toNat = n - slice.offset := by omega
      rw [if_neg hahead, hoffset]
      by_cases hnew : n - slice.offset < slice.length
      · have hstart : slice.offset ≤ n := by omega
        have hmono : n ≤ slice.offset + slice.length := by omega
        have hseq : seq + BitVec.ofNat 32 n + BitVec.ofNat 32 (slice.length - (n - slice.offset)) =
            seq + BitVec.ofNat 32 (slice.offset + slice.length) := by
          rw [add_assoc, ← BitVec.ofNat_add]
          congr 2
          omega
        obtain ⟨n', kept, h⟩ :=
          ih slice.within (hrest.advance hmono hend fun other hother => hother)
        rw [if_pos hnew, Slice.take_append_data hstart hmono, hseq]
        exact ⟨n', kept, h.extend hstart hmono⟩
      · obtain ⟨n', kept, h⟩ := ih hn hrest
        rw [if_neg hnew]
        exact ⟨n', kept, h.drop (by omega)⟩

/-! ## The state after any segments -/

/-- The slices `pushed` have arrived. The first `n` octets of the stream are there, which
the slices cover; `waiting` are the slices that still wait, among them all that start
behind the prefix, and all other slices end within it. -/
structure Holds (seq : BitVec 32) (pushed : List (Slice stream)) (flow : FlowState) (n : Nat)
    (waiting : List (Slice stream)) : Prop where
  bound : n ≤ stream.length
  buf_eq : flow.buf = stream.take n
  expected_eq : flow.expectedSeq = seq + BitVec.ofNat 32 n
  pending_eq : flow.pending = waiting.map (segmentOf seq)
  covered : Covered pushed n
  sub : ∀ slice ∈ waiting, slice ∈ pushed
  ahead : ∀ m, n ≤ m →
    waiting.filter (fun slice => m < slice.offset) = pushed.filter (fun slice => m < slice.offset)
  seen : ∀ slice ∈ pushed, slice ∈ waiting ∨ slice.offset + slice.length ≤ n

/-- Nothing that waits can be appended. -/
def Settled (n : Nat) (waiting : List (Slice stream)) : Prop :=
  ∀ slice ∈ waiting, n < slice.offset

theorem holds_new (seq : BitVec 32) : Holds seq ([] : List (Slice stream)) (.new seq) 0 [] where
  bound := Nat.zero_le _
  buf_eq := rfl
  expected_eq := by simp [FlowState.new]
  pending_eq := rfl
  covered p hp := by omega
  sub := by simp
  ahead _ _ := rfl
  seen := by simp

namespace Holds

variable {pushed : List (Slice stream)} {flow : FlowState}

/-- A segment that has just arrived waits. -/
theorem arrive (h : Holds seq pushed flow n waiting) (slice : Slice stream) :
    Holds seq (pushed ++ [slice]) { flow with pending := flow.pending ++ [segmentOf seq slice] } n
      (waiting ++ [slice]) where
  __ := h
  pending_eq := by simp [h.pending_eq]
  covered p hp := by
    obtain ⟨other, hmem, hcovers⟩ := h.covered p hp
    exact ⟨other, mem_append_left _ hmem, hcovers⟩
  sub other hother := by
    rcases mem_append.mp hother with hother | hother
    · exact mem_append_left _ (h.sub other hother)
    · exact mem_append_right _ hother
  ahead m hm := by rw [filter_append, filter_append, h.ahead m hm]
  seen other hother := by
    rcases mem_append.mp hother with hother | hother
    · exact (h.seen other hother).imp_left (mem_append_left _)
    · exact .inl (mem_append_right _ hother)

/-- A pass keeps the invariant. -/
theorem pass (h : Holds seq pushed flow n waiting) {pass : Pass}
    (hpass : PassSpec seq n waiting pass n' kept) :
    Holds seq pushed { flow with
      buf := pass.buf, expectedSeq := pass.expectedSeq, pending := pass.kept } n' kept where
  bound := hpass.bound
  buf_eq := hpass.buf_eq
  expected_eq := hpass.expected_eq
  pending_eq := hpass.kept_eq
  covered p hp := by
    by_cases hold : p < n
    · exact h.covered p hold
    · obtain ⟨slice, hmem, hcovers⟩ := hpass.new p (by omega) hp
      exact ⟨slice, h.sub slice hmem, hcovers⟩
  sub slice hslice := h.sub slice (hpass.sub.subset hslice)
  ahead m hm := (hpass.ahead m hm).trans (h.ahead m (hpass.mono.trans hm))
  seen slice hslice := by
    rcases h.seen slice hslice with hwait | hend
    · exact hpass.seen slice hwait
    · exact .inr (hend.trans hpass.mono)

/-- With enough rounds, the passes end with nothing left to append. -/
theorem drain {hi : Nat} (hnear : Near n hi waiting) (h : Holds seq pushed flow n waiting)
    {rounds : Nat} (hrounds : waiting.length < rounds) :
    ∃ n' kept, Holds seq pushed (flow.drain rounds).1 n' kept ∧ Settled n' kept := by
  induction rounds generalizing flow n waiting with
  | zero => omega
  | succ rounds ih =>
    obtain ⟨n', kept, hpass⟩ := retain_spec seq waiting h.bound hnear
    have hnear' := hnear.advance hpass.mono (hnear.pass_le hpass) hpass.sub.subset
    rw [← h.buf_eq, ← h.expected_eq, ← h.pending_eq] at hpass
    have hnext := h.pass hpass
    rw [FlowState.drain]
    cases hprogress : (retain flow.buf flow.expectedSeq flow.pending).progressed with
    | true =>
      have hshrinks := hpass.shrinks hprogress
      exact ih hnear' hnext (by omega)
    | false =>
      obtain ⟨rfl, hsettled⟩ := hpass.still hprogress
      exact ⟨n', kept, hnext, hsettled⟩

/-- What is settled is the longest prefix that is covered, and what starts behind it waits. -/
theorem settled_spec (h : Holds seq pushed flow n waiting) (hsettled : Settled n waiting) :
    IsGreatest (coveredEnds pushed) n ∧
      flow.pending = (pushed.filter fun slice => n < slice.offset).map (segmentOf seq) := by
  constructor
  · refine isGreatest_covered h.bound h.covered fun slice hslice hcovers => ?_
    obtain ⟨hstart, hend⟩ := hcovers
    rcases h.seen slice hslice with hwait | hseen
    · have := hsettled slice hwait
      omega
    · omega
  · rw [h.pending_eq, ← h.ahead n (le_refl n), filter_eq_self.mpr]
    intro slice hslice
    simpa using hsettled slice hslice

/-- A segment arrives, and everything that can be appended is. -/
theorem pushSegment {hi : Nat} (h : Holds seq pushed flow n waiting) (slice : Slice stream)
    (hnear : Near n hi (waiting ++ [slice])) :
    ∃ n' kept, Holds seq (pushed ++ [slice]) (flow.pushSegment (segmentOf seq slice)).1 n' kept ∧
      Settled n' kept := by
  have hrounds : (waiting ++ [slice]).length < flow.pending.length + 2 := by
    simp [h.pending_eq]
  exact (h.arrive slice).drain hnear hrounds

end Holds

/-- Whatever the order of the slices, the run ends with all of them taken in. -/
theorem pushAll_holds (hstream : stream.length < 2 ^ 31) (slices : List (Slice stream))
    {pushed : List (Slice stream)} {flow : FlowState}
    (h : Holds seq pushed flow n waiting) (hsettled : Settled n waiting) :
    ∃ n' kept, Holds seq (pushed ++ slices) (flow.pushAll (slices.map (segmentOf seq))) n' kept ∧
      Settled n' kept := by
  induction slices generalizing pushed flow n waiting with
  | nil =>
    rw [append_nil]
    exact ⟨n, waiting, h, hsettled⟩
  | cons slice slices ih =>
    obtain ⟨n', kept, hone, hkept⟩ := h.pushSegment slice (Near.of_short hstream h.bound _)
    obtain ⟨n'', kept', hall, hkept'⟩ := ih hone hkept
    rw [append_assoc, singleton_append] at hall
    exact ⟨n'', kept', hall, hkept'⟩

/-- The state after any slices of a stream, from the start of a flow. -/
theorem pushAll_spec (hstream : stream.length < 2 ^ 31) (seq : BitVec 32)
    (slices : List (Slice stream)) :
    ∃ n, IsGreatest (coveredEnds slices) n ∧
      (pushAll (.new seq) (slices.map (segmentOf seq))).buf = stream.take n ∧
      (pushAll (.new seq) (slices.map (segmentOf seq))).expectedSeq =
        seq + BitVec.ofNat 32 n ∧
      (pushAll (.new seq) (slices.map (segmentOf seq))).pending =
        (slices.filter fun slice => n < slice.offset).map (segmentOf seq) := by
  obtain ⟨n, kept, h, hsettled⟩ :=
    pushAll_holds hstream slices (holds_new seq) (fun _ h => absurd h not_mem_nil)
  rw [nil_append] at h
  obtain ⟨hgreatest, hpending⟩ := h.settled_spec hsettled
  exact ⟨n, hgreatest, h.buf_eq, h.expected_eq, hpending⟩

/-- Reassembly ends with the longest prefix that the segments cover, and with the
segments behind the first gap waiting, in whatever order the segments arrive. -/
theorem pushAll_confluent (stream : Octets) (hstream : stream.length < 2 ^ 31) (seq : BitVec 32)
    (slices : List (Slice stream)) :
    (∃ n, IsGreatest (coveredEnds slices) n ∧
      (pushAll (.new seq) (slices.map (segmentOf seq))).buf = stream.take n ∧
      (pushAll (.new seq) (slices.map (segmentOf seq))).expectedSeq =
        seq + BitVec.ofNat 32 n ∧
      (pushAll (.new seq) (slices.map (segmentOf seq))).pending =
        (slices.filter fun slice => n < slice.offset).map (segmentOf seq)) ∧
    ∀ slices' : List (Slice stream), slices'.Perm slices →
      (pushAll (.new seq) (slices'.map (segmentOf seq))).buf =
        (pushAll (.new seq) (slices.map (segmentOf seq))).buf ∧
      (pushAll (.new seq) (slices'.map (segmentOf seq))).expectedSeq =
        (pushAll (.new seq) (slices.map (segmentOf seq))).expectedSeq ∧
      (pushAll (.new seq) (slices'.map (segmentOf seq))).pending.Perm
        (pushAll (.new seq) (slices.map (segmentOf seq))).pending := by
  have hspec := pushAll_spec hstream seq slices
  refine ⟨hspec, fun slices' hperm => ?_⟩
  obtain ⟨n, hgreatest, hbuf, hexpected, hpending⟩ := hspec
  obtain ⟨n', hgreatest', hbuf', hexpected', hpending'⟩ := pushAll_spec hstream seq slices'
  rw [coveredEnds_congr fun slice => hperm.mem_iff] at hgreatest'
  obtain rfl := hgreatest'.unique hgreatest
  rw [hbuf, hbuf', hexpected, hexpected', hpending, hpending']
  exact ⟨rfl, rfl, (hperm.filter _).map _⟩

end

/-- Six octets from a sequence number just before the wrap, the end of them first. -/
theorem pushAll_confluent_wrap :
    ∃ n, IsGreatest (coveredEnds
        [(⟨4, 2, by decide⟩ : Slice [1, 2, 3, 4, 5, 6]), ⟨1, 3, by decide⟩, ⟨0, 2, by decide⟩]) n ∧
      (pushAll (.new 0xfffffffe)
        [(2, [5, 6]), (0xffffffff, [2, 3, 4]), (0xfffffffe, [1, 2])]).buf =
          List.take n [1, 2, 3, 4, 5, 6] := by
  obtain ⟨⟨n, hgreatest, hbuf, -⟩, -⟩ := pushAll_confluent [1, 2, 3, 4, 5, 6] (by decide)
    0xfffffffe [⟨4, 2, by decide⟩, ⟨1, 3, by decide⟩, ⟨0, 2, by decide⟩]
  exact ⟨n, hgreatest, hbuf⟩

end NetCalyx.Pcap
