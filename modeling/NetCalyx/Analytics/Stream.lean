import NetCalyx.Analytics.Window

/-!
# Aggregation of a stream

The stream adaptor does what the iterator does, for a source that is polled: it may say that
nothing has come yet, between any two items. A poll that gives a result is a call of `next` on
the items alone, and a poll that does not leaves the next result as it was.
-/

namespace NetCalyx.Analytics
open TimeSeriesData WindowedAggregationAdaptor

inductive Poll (α : Type) where
  | pending
  | ready (value : α)

namespace Poll

variable {α : Type}

def value : Poll α → Option α
  | pending => none
  | ready value => some value

/-- The values, in order. -/
def values (polls : List (Poll α)) : List α := polls.filterMap value

def isPending : Poll α → Bool
  | pending => true
  | ready _ => false

theorem length_values (polls : List (Poll α)) :
    (values polls).length + polls.countP isPending = polls.length := by
  induction polls with
  | nil => rfl
  | cons poll polls ih =>
    rw [values] at ih
    cases poll with
    | pending =>
      simp only [values, value, isPending, List.filterMap_cons, List.countP_cons, if_true,
        List.length_cons]
      omega
    | ready a =>
      simp only [values, value, isPending, List.filterMap_cons, List.countP_cons,
        Bool.false_eq_true, if_false, List.length_cons]
      omega

end Poll

open Poll

/-- The source gives what is in the list, and after that it has ended. -/
structure WindowedAggregationStreamAdaptor (Key Input Init Output A : Type) where
  source : List (Poll Input)
  aggregator : WindowAggregator Key Init A
  buffer : List (Window × Output)
  lateBuffer : List Input

namespace WindowedAggregationStreamAdaptor

variable {Key Input Init Output A : Type} [DecidableEq Key] [TimeSeriesData Input Key]

def new (source : List (Poll Input)) (duration lateness : Nat) (aggInit : Init) :
    WindowedAggregationStreamAdaptor Key Input Init Output A :=
  ⟨source, .new duration lateness aggInit, [], []⟩

variable (a : WindowedAggregationStreamAdaptor Key Input Init Output A)

/-- The tests of the two buffers, late items first. -/
def popFront :
    WindowedAggregationStreamAdaptor Key Input Init Output A ×
      Option ((Window × Output) ⊕ Input) :=
  match a.lateBuffer, a.buffer with
  | late :: lateBuffer, _ => ({ a with lateBuffer }, some (.inr late))
  | [], aggValue :: buffer => ({ a with buffer }, some (.inl aggValue))
  | [], [] => (a, none)

/-- The loop of `poll_next`, over what the source will answer. -/
def pollLoop (agg : Aggregator Init Input Output A) (order : List Key → List Key) :
    List (Poll Input) → WindowedAggregationStreamAdaptor Key Input Init Output A →
      WindowedAggregationStreamAdaptor Key Input Init Output A ×
        Poll (Option ((Window × Output) ⊕ Input))
  | source, a =>
    match a.popFront with
    | (next, some out) => ({ next with source }, .ready (some out))
    | (_, none) =>
      match source with
      | .ready item :: source =>
        let (aggregator, results, late) := a.aggregator.processItem agg item
        pollLoop agg order source
          ⟨source, aggregator, a.buffer ++ results, a.lateBuffer ++ late⟩
      | [] =>
        let (aggregator, results) :=
          if a.buffer.isEmpty then a.aggregator.flush agg order else (a.aggregator, [])
        let (next, out) := popFront ⟨[], aggregator, a.buffer ++ results, a.lateBuffer⟩
        (next, .ready out)
      | .pending :: source => ({ a with source }, .pending)

def pollNext (agg : Aggregator Init Input Output A) (order : List Key → List Key)
    (a : WindowedAggregationStreamAdaptor Key Input Init Output A) :
    WindowedAggregationStreamAdaptor Key Input Init Output A ×
      Poll (Option ((Window × Output) ⊕ Input)) :=
  pollLoop agg order a.source a

/-- What `n` polls return. -/
def polls (agg : Aggregator Init Input Output A) (order : List Key → List Key) :
    Nat → WindowedAggregationStreamAdaptor Key Input Init Output A →
      List (Poll (Option ((Window × Output) ⊕ Input)))
  | 0, _ => []
  | n + 1, a => (a.pollNext agg order).2 :: polls agg order n (a.pollNext agg order).1

/-! ## Polls and calls of the iterator -/

/-- The iterator over the items that are still to come. -/
def iterator : WindowedAggregationAdaptor Key Input Init Output A :=
  ⟨Poll.values a.source, a.aggregator, a.buffer, a.lateBuffer⟩

variable (agg : Aggregator Init Input Output A) (order : List Key → List Key)

omit [DecidableEq Key] [TimeSeriesData Input Key] in
theorem getNext_iterator : a.iterator.getNext = (a.popFront.1.iterator, a.popFront.2) := by
  obtain ⟨source, w, buffer, lateBuffer⟩ := a
  cases lateBuffer <;> cases buffer <;> rfl

variable {next a : WindowedAggregationStreamAdaptor Key Input Init Output A}

omit [DecidableEq Key] [TimeSeriesData Input Key] in
theorem popFront_cases (a : WindowedAggregationStreamAdaptor Key Input Init Output A) :
    (∃ next out, a.popFront = (next, some out)) ∨ a = ⟨a.source, a.aggregator, [], []⟩ := by
  obtain ⟨source, w, buffer, lateBuffer⟩ := a
  cases lateBuffer with
  | cons late lateBuffer => exact .inl ⟨_, _, rfl⟩
  | nil =>
    cases buffer with
    | cons result buffer => exact .inl ⟨_, _, rfl⟩
    | nil => exact .inr rfl

variable (source : List (Poll Input)) {out : (Window × Output) ⊕ Input}

/-- What is buffered does not wait for the source. -/
theorem pollLoop_buffered (h : a.popFront = (next, some out)) :
    pollLoop agg order source a = ({ next with source }, .ready (some out)) := by
  rw [pollLoop.eq_def]
  dsimp only
  rw [h]

theorem nextLoop_buffered (h : a.popFront = (next, some out)) :
    nextLoop agg order (Poll.values source) a.iterator =
      (iterator { next with source }, some out) := by
  have hnext : a.iterator.getNext = (next.iterator, some out) := by
    rw [getNext_iterator, h]
  cases hitems : Poll.values source with
  | nil | cons item items =>
    rw [nextLoop, hnext]
    simp [iterator, hitems]

/-- The loop of a poll is that of a call, except that it stops when nothing has come yet. -/
theorem nextLoop_eq (a : WindowedAggregationStreamAdaptor Key Input Init Output A) :
    nextLoop agg order (Poll.values source) a.iterator =
      match pollLoop agg order source a with
      | (next, .ready out) => (next.iterator, out)
      | (next, .pending) => next.iterator.next agg order := by
  induction source generalizing a with
  | nil =>
    rcases a.popFront_cases with ⟨next, out, hpop⟩ | hempty
    · rw [pollLoop_buffered agg order [] hpop]
      exact nextLoop_buffered agg order [] hpop
    · rw [hempty]
      exact getNext_iterator ⟨[], (a.aggregator.flush agg order).1,
        (a.aggregator.flush agg order).2, []⟩
  | cons poll source ih =>
    rcases a.popFront_cases with ⟨next, out, hpop⟩ | hempty
    · rw [pollLoop_buffered agg order (poll :: source) hpop]
      exact nextLoop_buffered agg order (poll :: source) hpop
    · rw [hempty]
      cases poll with
      | pending =>
        -- the items are the same, and so is what comes next
        change nextLoop agg order (Poll.values source) _ =
          nextLoop agg order (Poll.values source) _
        cases Poll.values source <;> rfl
      | ready item => exact ih ⟨source, _, _, _⟩

theorem next_iterator (a : WindowedAggregationStreamAdaptor Key Input Init Output A) :
    a.iterator.next agg order =
      match a.pollNext agg order with
      | (next, .ready out) => (next.iterator, out)
      | (next, .pending) => next.iterator.next agg order :=
  nextLoop_eq agg order a.source a

variable (n : Nat)

/-- The results of polls are those of as many calls as there are results. -/
theorem values_polls (a : WindowedAggregationStreamAdaptor Key Input Init Output A) :
    Poll.values (polls agg order n a) =
      a.iterator.nexts agg order (Poll.values (polls agg order n a)).length := by
  induction n generalizing a with
  | zero => rfl
  | succ n ih =>
    have hnext := next_iterator agg order a
    have hrest := ih (a.pollNext agg order).1
    rw [polls]
    revert hnext hrest
    cases a.pollNext agg order with
    | mk next result =>
      intro hnext hrest
      cases result with
      | ready out =>
        change out :: Poll.values (polls agg order n next) =
          a.iterator.nexts agg order ((Poll.values (polls agg order n next)).length + 1)
        rw [WindowedAggregationAdaptor.nexts, hnext, ← hrest]
      | pending =>
        change Poll.values (polls agg order n next) =
          a.iterator.nexts agg order (Poll.values (polls agg order n next)).length
        -- the call that has not been answered gives what the next one gives
        cases hlength : (Poll.values (polls agg order n next)).length with
        | zero => exact List.length_eq_zero_iff.mp hlength
        | succ k =>
          rw [hlength] at hrest
          rw [hrest, WindowedAggregationAdaptor.nexts, WindowedAggregationAdaptor.nexts, hnext]

/-- A poll that gives nothing uses up one answer of the source that says so. -/
theorem pending_pollLoop (a : WindowedAggregationStreamAdaptor Key Input Init Output A) :
    (pollLoop agg order source a).1.source.countP isPending +
      [(pollLoop agg order source a).2].countP isPending ≤ source.countP isPending := by
  induction source generalizing a with
  | nil =>
    rcases a.popFront_cases with ⟨next, out, hpop⟩ | hempty
    · rw [pollLoop_buffered agg order [] hpop]
      simp [isPending]
    · rw [hempty, pollLoop]
      simp only [popFront, List.isEmpty_nil, if_true, List.nil_append]
      cases (a.aggregator.flush agg order).2 <;> simp [isPending]
  | cons poll source ih =>
    rcases a.popFront_cases with ⟨next, out, hpop⟩ | hempty
    · rw [pollLoop_buffered agg order (poll :: source) hpop]
      simp [isPending]
    · rw [hempty]
      cases poll with
      | pending =>
        change source.countP isPending + 1 ≤ (Poll.pending :: source).countP isPending
        rw [List.countP_cons_of_pos rfl]
      | ready item =>
        refine (ih ⟨source, _, _, _⟩).trans ?_
        simp [isPending]

theorem pending_polls (a : WindowedAggregationStreamAdaptor Key Input Init Output A) :
    (polls agg order n a).countP isPending ≤ a.source.countP isPending := by
  induction n generalizing a with
  | zero => exact Nat.zero_le _
  | succ n ih =>
    have hpoll := pending_pollLoop agg order a.source a
    have hrest := ih (a.pollNext agg order).1
    rw [polls, ← List.singleton_append, List.countP_append]
    rw [pollNext] at hrest ⊢
    omega

theorem length_polls (a : WindowedAggregationStreamAdaptor Key Input Init Output A) :
    (polls agg order n a).length = n := by
  induction n generalizing a with
  | zero => rfl
  | succ n ih => rw [polls, List.length_cons, ih]

/-- All but as many polls as the source has nothing for give a result. -/
theorem le_length_values (a : WindowedAggregationStreamAdaptor Key Input Init Output A) :
    n ≤ (Poll.values (polls agg order n a)).length + a.source.countP isPending := by
  have hlength := length_values (polls agg order n a)
  have hpending := pending_polls agg order n a
  rw [length_polls] at hlength
  omega

/-- What is still to come. -/
def outputs (a : WindowedAggregationStreamAdaptor Key Input Init Output A) :
    List ((Window × Output) ⊕ Input) :=
  a.lateBuffer.map .inr ++ a.buffer.map .inl ++
    a.aggregator.outputs agg order (Poll.values a.source)

theorem nexts_iterator (a : WindowedAggregationStreamAdaptor Key Input Init Output A) :
    a.iterator.nexts agg order (n + (a.outputs agg order).length) =
      (a.outputs agg order).map some ++ List.replicate n none := by
  have h := nexts_eq agg order n (Poll.values a.source) a.aggregator
    a.buffer a.lateBuffer
  have hlength : n + (a.outputs agg order).length =
      n + (a.aggregator.outputs agg order (Poll.values a.source)).length + a.buffer.length +
        a.lateBuffer.length := by
    simp only [outputs, List.length_append, List.length_map]
    omega
  rw [hlength]
  exact h

/-- With enough polls everything has come, and then nothing comes any more. -/
theorem exists_values_polls (a : WindowedAggregationStreamAdaptor Key Input Init Output A) :
    ∃ k ≥ n, Poll.values (polls agg order
        (n + (a.outputs agg order).length + a.source.countP isPending) a) =
      (a.outputs agg order).map some ++ List.replicate k none := by
  have hlength := le_length_values agg order
    (n + (a.outputs agg order).length + a.source.countP isPending) a
  have hresults := values_polls agg order
    (n + (a.outputs agg order).length + a.source.countP isPending) a
  generalize Poll.values (polls agg order
    (n + (a.outputs agg order).length + a.source.countP isPending) a) = results
    at hlength hresults ⊢
  obtain ⟨k, hk⟩ : ∃ k, results.length = k + (a.outputs agg order).length :=
    ⟨results.length - (a.outputs agg order).length, by omega⟩
  refine ⟨k, by omega, ?_⟩
  rw [hresults, hk, nexts_iterator]

variable (duration lateness : Nat) (aggInit : Init) (events : List (Poll Input))

/-- Whatever the source has nothing for, the results of polls are those of as many calls of
the iterator over the items. Both give the outputs of the aggregator and then `None` for ever;
the outputs of a step are its late item and then the windows it completes. -/
theorem stream_agrees :
    let stream : WindowedAggregationStreamAdaptor Key Input Init Output A :=
      new events duration lateness aggInit
    let iterator : WindowedAggregationAdaptor Key Input Init Output A :=
      .new (Poll.values events) duration lateness aggInit
    let w : WindowAggregator Key Init A := .new duration lateness aggInit
    (∀ n, Poll.values (polls agg order n stream) =
      iterator.nexts agg order (Poll.values (polls agg order n stream)).length) ∧
    (∀ n, iterator.nexts agg order (n + (w.outputs agg order (Poll.values events)).length) =
      (w.outputs agg order (Poll.values events)).map some ++ List.replicate n none) ∧
    (∀ n, ∃ k ≥ n, Poll.values (polls agg order
        (n + (w.outputs agg order (Poll.values events)).length + events.countP isPending)
          stream) =
      (w.outputs agg order (Poll.values events)).map some ++ List.replicate k none) ∧
    ∀ before item rest, Poll.values events = before ++ item :: rest →
      let step := (w.process agg before).1.processItem agg item
      w.outputs agg order (Poll.values events) = (w.process agg before).2 ++
        (step.2.2.map .inr ++ step.2.1.map .inl) ++ step.1.outputs agg order rest := by
  intro stream iterator w
  refine ⟨fun n => values_polls agg order n stream, fun n => nexts_iterator agg order n stream,
    fun n => exists_values_polls agg order n stream, fun before item rest hsplit => ?_⟩
  intro step
  rw [hsplit, WindowAggregator.outputs, WindowAggregator.process_append, WindowAggregator.process,
    WindowAggregator.outputs]
  simp only [List.append_assoc]
  rfl

end WindowedAggregationStreamAdaptor

end NetCalyx.Analytics
