import NetCalyx.Collections.Map
import NetCalyx.Runs.Isolation

/-!
# Aggregation over time windows

Items carry a key and a timestamp. For each key they are aggregated into windows; a window
is emitted when the time of its key, less the lateness that is allowed, has passed it, and
an item that is older than this time is handed back as late. At the end of the input what
is left is emitted.

The aggregator is a parameter. `Aggregator.collecting` keeps the items as they are, and a
run with any other aggregator is the image of the run that collects (`outputs_image`), so
that the items of a window can be spoken of. Keys do not disturb each other (`key_isolated`).
-/

namespace NetCalyx.Analytics
open Collections List

/-- Start and (noninclusive) end. Points in time are nanoseconds since the epoch, without
leap seconds; `Accounted.computed_inRange` says when all of them are in the range of a
`DateTime`. -/
abbrev Window := Int × Int

class TimeSeriesData (Input : Type) (Key : outParam Type) where
  getKey : Input → Key
  getTs : Input → Int

open TimeSeriesData

structure Aggregator (Init Input Output A : Type) where
  init : Init → A
  push : A → Input → A
  flush : A → Output

def minute : Int := 60000000000

/-- The date and time without the seconds. -/
def getWindowStart (timestamp : Int) : Int := timestamp / minute * minute

structure WindowAggregator (Key Init A : Type) where
  activeWindows : Map Key (Map Int A)
  currentTime : Map Key Int
  /-- Nanoseconds, as is the lateness. -/
  windowDuration : Nat
  lateness : Nat
  aggInit : Init

/-- The entries up to the cutoff, and the others. -/
def splitAtCutoff {A : Type} (cutoffTime : Int) (activeWindows : Map Int A) :
    Map Int A × Map Int A :=
  let split := retain (fun start _ => decide (start < cutoffTime)) activeWindows
  let activeWindows := retain (fun start _ => !decide (start < cutoffTime)) activeWindows
  match activeWindows.lookup cutoffTime with
  | some entry => (split.insert cutoffTime entry, activeWindows.erase cutoffTime)
  | none => (split, activeWindows)

variable {Key Input Init Output A : Type} [DecidableEq Key] [TimeSeriesData Input Key]

namespace WindowAggregator

def new (windowDuration lateness : Nat) (aggInit : Init) : WindowAggregator Key Init A :=
  ⟨∅, ∅, windowDuration, lateness, aggInit⟩

variable (agg : Aggregator Init Input Output A)

/-- What windows that are complete are turned into. -/
def emit (windowDuration : Nat) (windows : Map Int A) : List (Window × Output) :=
  (inOrder windows).map fun entry =>
    ((entry.1, entry.1 + windowDuration), agg.flush entry.2)

/-- The item goes into its window, which is created if needed. -/
def pushItem (aggInit : Init) (item : Input) (activeWindows : Map Int A) : Map Int A :=
  let windowStart := getWindowStart (getTs item)
  activeWindows.insert windowStart
    (agg.push ((activeWindows.lookup windowStart).getD (agg.init aggInit)) item)

/-- The aggregator, the windows that are complete, and the item if it is late. -/
def processItem (w : WindowAggregator Key Init A) (item : Input) :
    WindowAggregator Key Init A × List (Window × Output) × List Input :=
  let ts := getTs item
  let key := getKey item
  let currentTime := (w.currentTime.lookup key).getD ts
  if ts < currentTime - w.lateness then
    ({ w with currentTime := w.currentTime.insert key currentTime }, [], [item])
  else
    let currentTime := max currentTime ts
    let activeWindows := pushItem agg w.aggInit item ((w.activeWindows.lookup key).getD ∅)
    let cutoffTime := getWindowStart (currentTime - w.lateness) - w.windowDuration
    let (split, activeWindows) := splitAtCutoff cutoffTime activeWindows
    ({ w with
        currentTime := w.currentTime.insert key currentTime
        activeWindows := w.activeWindows.insert key activeWindows },
      emit agg w.windowDuration split, [])

/-- All windows; the keys come in the order of the hash map. -/
def flush (order : List Key → List Key) (w : WindowAggregator Key Init A) :
    WindowAggregator Key Init A × List (Window × Output) :=
  ({ w with activeWindows := ∅, currentTime := ∅ },
    ((order w.activeWindows.keys).filterMap w.activeWindows.lookup).flatMap
      (emit agg w.windowDuration))

end WindowAggregator

/-! ## The iterator -/

structure WindowedAggregationAdaptor (Key Input Init Output A : Type) where
  source : List Input
  aggregator : WindowAggregator Key Init A
  buffer : List (Window × Output)
  lateBuffer : List Input

namespace WindowedAggregationAdaptor

def new (source : List Input) (duration lateness : Nat) (aggInit : Init) :
    WindowedAggregationAdaptor Key Input Init Output A :=
  ⟨source, .new duration lateness aggInit, [], []⟩

/-- Late items come before results. -/
def getNext (a : WindowedAggregationAdaptor Key Input Init Output A) :
    WindowedAggregationAdaptor Key Input Init Output A × Option ((Window × Output) ⊕ Input) :=
  match a.lateBuffer, a.buffer with
  | late :: lateBuffer, _ => ({ a with lateBuffer }, some (.inr late))
  | [], aggValue :: buffer => ({ a with buffer }, some (.inl aggValue))
  | [], [] => (a, none)

/-- The loop of `next`, over what the source still has. -/
def nextLoop (agg : Aggregator Init Input Output A) (order : List Key → List Key) :
    List Input → WindowedAggregationAdaptor Key Input Init Output A →
      WindowedAggregationAdaptor Key Input Init Output A × Option ((Window × Output) ⊕ Input)
  | [], a =>
    match a.getNext with
    | (next, some out) => ({ next with source := [] }, some out)
    | (_, none) =>
      let (aggregator, results) :=
        if a.buffer.isEmpty then a.aggregator.flush agg order else (a.aggregator, [])
      getNext ⟨[], aggregator, a.buffer ++ results, a.lateBuffer⟩
  | item :: source, a =>
    match a.getNext with
    | (next, some out) => ({ next with source := item :: source }, some out)
    | (_, none) =>
      let (aggregator, results, late) := a.aggregator.processItem agg item
      nextLoop agg order source
        ⟨source, aggregator, a.buffer ++ results, a.lateBuffer ++ late⟩

def next (agg : Aggregator Init Input Output A) (order : List Key → List Key)
    (a : WindowedAggregationAdaptor Key Input Init Output A) :
    WindowedAggregationAdaptor Key Input Init Output A × Option ((Window × Output) ⊕ Input) :=
  nextLoop agg order a.source a

/-- What `n` calls of `next` return. -/
def nexts (agg : Aggregator Init Input Output A) (order : List Key → List Key) :
    Nat → WindowedAggregationAdaptor Key Input Init Output A →
      List (Option ((Window × Output) ⊕ Input))
  | 0, _ => []
  | n + 1, a => (a.next agg order).2 :: nexts agg order n (a.next agg order).1

/-- What at most `n` calls of `next` return, up to the first `None`. -/
def collect (agg : Aggregator Init Input Output A) (order : List Key → List Key) :
    Nat → WindowedAggregationAdaptor Key Input Init Output A → List ((Window × Output) ⊕ Input)
  | 0, _ => []
  | n + 1, a =>
    match a.next agg order with
    | (_, none) => []
    | (a, some out) => out :: collect agg order n a

end WindowedAggregationAdaptor

/-! ## What the iterator yields -/

section Outputs

variable (agg : Aggregator Init Input Output A) (order : List Key → List Key)

/-- One item after the other. -/
def WindowAggregator.process (w : WindowAggregator Key Init A) :
    List Input → WindowAggregator Key Init A × List ((Window × Output) ⊕ Input)
  | [] => (w, [])
  | item :: items =>
    let (next, results, late) := w.processItem agg item
    let (last, outs) := next.process items
    (last, late.map .inr ++ results.map .inl ++ outs)

variable (w : WindowAggregator Key Init A)

/-- The items, and then the end of the input. -/
def WindowAggregator.outputs (items : List Input) : List ((Window × Output) ⊕ Input) :=
  (w.process agg items).2 ++ ((w.process agg items).1.flush agg order).2.map .inl

theorem WindowAggregator.process_append (items others : List Input) :
    w.process agg (items ++ others) =
      (((w.process agg items).1.process agg others).1,
        (w.process agg items).2 ++ ((w.process agg items).1.process agg others).2) := by
  induction items generalizing w with
  | nil => rfl
  | cons first items ih => simp only [cons_append, process, ih, append_assoc]

theorem WindowAggregator.process_concat (items : List Input) (item : Input) :
    w.process agg (items ++ [item]) =
      (((w.process agg items).1.processItem agg item).1,
        (w.process agg items).2 ++
          (((w.process agg items).1.processItem agg item).2.2.map .inr ++
            ((w.process agg items).1.processItem agg item).2.1.map .inl)) := by
  rw [process_append]
  simp [process]

namespace WindowedAggregationAdaptor

variable (n : Nat)
variable (source : List Input)

/-- What is buffered comes first. -/
theorem nexts_buffered (w : WindowAggregator Key Init A) (buffer : List (Window × Output))
    (lateBuffer : List Input) :
    nexts agg order (n + buffer.length + lateBuffer.length) ⟨source, w, buffer, lateBuffer⟩ =
      (lateBuffer.map Sum.inr ++ buffer.map Sum.inl).map some ++
        nexts agg order n ⟨source, w, [], []⟩ := by
  induction lateBuffer with
  | nil =>
    induction buffer with
    | nil => rfl
    | cons result buffer ih =>
      have hstep : nexts agg order (n + (buffer.length + 1)) ⟨source, w, result :: buffer, []⟩ =
          some (.inl result) :: nexts agg order (n + buffer.length) ⟨source, w, buffer, []⟩ := by
        cases source <;> rfl
      exact hstep.trans (congrArg _ ih)
  | cons late lateBuffer ih =>
    have hstep : nexts agg order (n + buffer.length + (lateBuffer.length + 1))
          ⟨source, w, buffer, late :: lateBuffer⟩ =
        some (.inr late) :: nexts agg order (n + buffer.length + lateBuffer.length)
          ⟨source, w, buffer, lateBuffer⟩ := by
      cases source <;> rfl
    exact hstep.trans (congrArg _ ih)

/-- At the end of the input the windows are flushed into the buffer. -/
theorem nexts_flush (w : WindowAggregator Key Init A) :
    nexts agg order (n + 1) ⟨[], w, [], []⟩ =
      (getNext (⟨[], (w.flush agg order).1, (w.flush agg order).2, []⟩ :
        WindowedAggregationAdaptor Key Input Init Output A)).2 ::
      nexts agg order n (getNext ⟨[], (w.flush agg order).1, (w.flush agg order).2, []⟩).1 :=
  rfl

/-- After the last flush nothing comes any more. -/
theorem nexts_flushed (w : WindowAggregator Key Init A) (h : (w.flush agg order).2 = []) :
    nexts agg order n ⟨[], w, [], []⟩ = List.replicate n none := by
  induction n generalizing w with
  | zero => rfl
  | succ n ih =>
    have hflushed : ((w.flush agg order).1.flush agg order).2 = [] := by
      simp [WindowAggregator.flush]
    rw [nexts_flush, h, replicate_succ]
    exact congrArg _ (ih _ hflushed)

theorem nexts_exhausted (w : WindowAggregator Key Init A) :
    nexts agg order (n + (w.flush agg order).2.length) ⟨[], w, [], []⟩ =
      ((w.flush agg order).2.map .inl).map some ++ List.replicate n none := by
  have hflushed : ((w.flush agg order).1.flush agg order).2 = [] := by
    simp [WindowAggregator.flush]
  cases hresults : (w.flush agg order).2 with
  | nil => exact nexts_flushed agg order n w hresults
  | cons result results =>
    rw [length_cons, ← Nat.add_assoc, nexts_flush, hresults]
    have hrest := nexts_buffered agg order n [] (w.flush agg order).1 results []
    rw [nexts_flushed agg order n _ hflushed] at hrest
    exact congrArg _ hrest

/-- The iterator yields the outputs, and then nothing. -/
theorem nexts_eq (w : WindowAggregator Key Init A) (buffer : List (Window × Output))
    (lateBuffer : List Input) :
    nexts agg order (n + (w.outputs agg order source).length + buffer.length + lateBuffer.length)
        ⟨source, w, buffer, lateBuffer⟩ =
      (lateBuffer.map Sum.inr ++ buffer.map Sum.inl ++ w.outputs agg order source).map some ++
        List.replicate n none := by
  induction source generalizing n w buffer lateBuffer with
  | nil =>
    have hlength : (w.outputs agg order []).length = (w.flush agg order).2.length := by
      simp [WindowAggregator.outputs, WindowAggregator.process]
    rw [hlength, nexts_buffered, nexts_exhausted, ← append_assoc, ← map_append]
    rfl
  | cons item source ih =>
    -- the loop goes on with what the item has left in the buffers
    have hstep (n : Nat) : nexts agg order n ⟨item :: source, w, [], []⟩ =
        nexts agg order n ⟨source, (w.processItem agg item).1, (w.processItem agg item).2.1,
          (w.processItem agg item).2.2⟩ := by
      cases n with
      | zero => rfl
      | succ n => rw [nexts, nexts]; rfl
    have houts : w.outputs agg order (item :: source) = (w.processItem agg item).2.2.map .inr ++
        (w.processItem agg item).2.1.map .inl ++
        (w.processItem agg item).1.outputs agg order source := by
      simp [WindowAggregator.outputs, WindowAggregator.process]
    have hlength : n + (w.outputs agg order (item :: source)).length =
        n + ((w.processItem agg item).1.outputs agg order source).length +
          (w.processItem agg item).2.1.length + (w.processItem agg item).2.2.length := by
      rw [houts]
      simp only [length_append, length_map]
      omega
    rw [nexts_buffered, hstep, hlength, ih, ← append_assoc, ← map_append, houts]

theorem collect_eq (a : WindowedAggregationAdaptor Key Input Init Output A) :
    collect agg order n a = ((nexts agg order n a).takeWhile Option.isSome).filterMap id := by
  induction n generalizing a with
  | zero => rfl
  | succ n ih =>
    rw [collect, nexts]
    cases hnext : a.next agg order with
    | mk next out =>
      cases out with
      | none => rfl
      | some out => simp [ih]

/-- With enough calls the iterator yields the outputs. -/
theorem exists_collect_eq (w : WindowAggregator Key Init A) (buffer : List (Window × Output))
    (lateBuffer : List Input) :
    ∃ enough, ∀ n, collect agg order (n + enough) ⟨source, w, buffer, lateBuffer⟩ =
      lateBuffer.map .inr ++ buffer.map .inl ++ w.outputs agg order source := by
  refine ⟨(w.outputs agg order source).length + buffer.length + lateBuffer.length, fun n => ?_⟩
  rw [← Nat.add_assoc, ← Nat.add_assoc, collect_eq, nexts_eq]
  generalize lateBuffer.map Sum.inr ++ buffer.map Sum.inl ++ w.outputs agg order source = outs
  rw [takeWhile_append_of_pos, takeWhile_replicate]
  · simp
  · intro out hout
    obtain ⟨value, -, rfl⟩ := mem_map.mp hout
    rfl

end WindowedAggregationAdaptor

end Outputs

/-! ## The items of a window -/

/-- The aggregator that keeps the items. -/
def Aggregator.collecting (Init Input : Type) : Aggregator Init Input (List Input) (List Input) where
  init _ := []
  push items item := items ++ [item]
  flush items := items

section Image

variable (agg : Aggregator Init Input Output A) (aggInit : Init)

/-- An aggregator into which the items have been pushed. -/
def Aggregator.pushAll (items : List Input) : A := items.foldl agg.push (agg.init aggInit)

theorem Aggregator.pushAll_concat (items : List Input) (item : Input) :
    agg.pushAll aggInit (items ++ [item]) = agg.push (agg.pushAll aggInit items) item := by
  rw [pushAll, foldl_append]
  rfl

/-- The result of a window, from its items. -/
def Aggregator.result (entry : Window × List Input) : Window × Output :=
  (entry.1, agg.flush (agg.pushAll aggInit entry.2))

namespace WindowAggregator

variable (w : WindowAggregator Key Init (List Input))

/-- The state in which the windows hold the aggregators of their items. -/
def image : WindowAggregator Key Init A :=
  ⟨mapValues (mapValues (agg.pushAll w.aggInit)) w.activeWindows, w.currentTime,
    w.windowDuration, w.lateness, w.aggInit⟩

theorem emit_image (windowDuration : Nat) (windows : Map Int (List Input)) :
    emit agg windowDuration (mapValues (agg.pushAll aggInit) windows) =
      (emit (.collecting Init Input) windowDuration windows).map (agg.result aggInit) := by
  rw [emit, emit, inOrder_mapValues, map_map, map_map]
  rfl

omit [DecidableEq Key] in
theorem pushItem_image (item : Input) (windows : Map Int (List Input)) :
    pushItem agg aggInit item (mapValues (agg.pushAll aggInit) windows) =
      mapValues (agg.pushAll aggInit) (pushItem (.collecting Init Input) aggInit item windows) := by
  rw [pushItem, pushItem, mapValues_insert, lookup_mapValues]
  cases hlookup : windows.lookup (getWindowStart (getTs item)) with
  | none => rfl
  | some items =>
    rw [Option.map_some, Option.getD_some, Option.getD_some, ← agg.pushAll_concat]
    rfl

theorem splitAtCutoff_image {B : Type} (f : B → A) (cutoffTime : Int)
    (windows : Map Int B) :
    splitAtCutoff cutoffTime (mapValues f windows) =
      (mapValues f (splitAtCutoff cutoffTime windows).1,
        mapValues f (splitAtCutoff cutoffTime windows).2) := by
  simp only [splitAtCutoff, ← mapValues_retain f (fun start => decide (start < cutoffTime)),
    ← mapValues_retain f (fun start => !decide (start < cutoffTime)), lookup_mapValues]
  cases (retain (fun start _ => !decide (start < cutoffTime)) windows).lookup cutoffTime with
  | none => rfl
  | some entry => simp only [Option.map_some, mapValues_insert, mapValues_erase]

theorem processItem_image (item : Input) :
    (w.image agg).processItem agg item =
      ((w.processItem (.collecting Init Input) item).1.image agg,
        (w.processItem (.collecting Init Input) item).2.1.map (agg.result w.aggInit),
        (w.processItem (.collecting Init Input) item).2.2) := by
  have hactive : (((w.image agg).activeWindows.lookup (getKey item)).getD ∅) =
      mapValues (agg.pushAll w.aggInit) ((w.activeWindows.lookup (getKey item)).getD ∅) := by
    rw [image, lookup_mapValues]
    cases w.activeWindows.lookup (getKey item) <;> rfl
  simp only [processItem, hactive]
  by_cases hlate : getTs item <
      (w.currentTime.lookup (getKey item)).getD (getTs item) - (w.lateness : Int)
  · simp only [image, hlate, if_true]
    rfl
  · simp only [image, hlate, if_false, pushItem_image, splitAtCutoff_image, emit_image,
      mapValues_insert]

theorem aggInit_processItem (w : WindowAggregator Key Init A) (item : Input) :
    (w.processItem agg item).1.aggInit = w.aggInit := by
  rw [processItem]
  dsimp only
  split <;> rfl

theorem process_image (items : List Input) :
    (w.image agg).process agg items =
      ((w.process (.collecting Init Input) items).1.image agg,
        (w.process (.collecting Init Input) items).2.map
          (Sum.map (agg.result w.aggInit) id)) := by
  induction items generalizing w with
  | nil => rfl
  | cons item items ih =>
    simp only [process, processItem_image, ih, aggInit_processItem, map_append, map_map]
    rfl

theorem aggInit_process (w : WindowAggregator Key Init A) (items : List Input) :
    (w.process agg items).1.aggInit = w.aggInit := by
  induction items generalizing w with
  | nil => rfl
  | cons item items ih => exact (ih _).trans (aggInit_processItem agg w item)

/-- The outputs with any aggregator are the results of the items that are collected. -/
theorem outputs_image (order : List Key → List Key) (w : WindowAggregator Key Init (List Input))
    (items : List Input) :
    (w.image agg).outputs agg order items =
      (w.outputs (.collecting Init Input) order items).map (Sum.map (agg.result w.aggInit) id) := by
  have hflush (v : WindowAggregator Key Init (List Input)) :
      ((v.image agg).flush agg order).2 =
        (v.flush (.collecting Init Input) order).2.map (agg.result v.aggInit) := by
    have hkeys : (v.image agg).activeWindows.keys = v.activeWindows.keys := by
      simp only [image, mapValues, AList.keys, List.keys, map_map]
      rfl
    have hlookup : (v.image agg).activeWindows.lookup =
        fun key => (v.activeWindows.lookup key).map (mapValues (agg.pushAll v.aggInit)) :=
      funext fun key => lookup_mapValues _ _ key
    simp only [flush, hkeys, hlookup, ← map_filterMap, map_flatMap, flatMap_map]
    congr 1
    funext windows
    exact emit_image agg v.aggInit v.windowDuration windows
  rw [outputs, outputs, process_image, hflush, aggInit_process, map_append, map_map,
    map_map]
  rfl

end WindowAggregator

end Image

/-! ## Keys do not disturb each other -/

namespace WindowAggregator

variable (agg : Aggregator Init Input Output A) {w w' : WindowAggregator Key Init A}

/-- What there is for a key. -/
def view (key : Key) (w : WindowAggregator Key Init A) :
    Option (Map Int A) × Option Int × Nat × Nat × Init :=
  (w.activeWindows.lookup key, w.currentTime.lookup key, w.windowDuration, w.lateness, w.aggInit)

theorem processItem_own {item : Input} (h : w.view (getKey item) = w'.view (getKey item)) :
    (w.processItem agg item).2 = (w'.processItem agg item).2 ∧
      (w.processItem agg item).1.view (getKey item) =
        (w'.processItem agg item).1.view (getKey item) := by
  simp only [view, Prod.mk.injEq] at h
  obtain ⟨hwindows, htime, hduration, hlateness, hinit⟩ := h
  simp only [processItem, hwindows, htime, hduration, hlateness, hinit]
  split <;> simp [view, hwindows]

theorem view_processItem {item : Input} {key : Key} (h : getKey item ≠ key) :
    (w.processItem agg item).1.view key = w.view key := by
  unfold processItem
  dsimp only
  split <;> simp [view, AList.lookup_insert_ne (Ne.symm h)]

/-- **Keys do not disturb each other.** What an item gives, and the windows of its key that are left
for the end of the input, are the same as if all items before had had this key. -/
theorem key_isolated (w : WindowAggregator Key Init A) (items : List Input) (item : Input) :
    let own := (w.process agg (items.filter fun other => getKey other = getKey item)).1
    ((w.process agg items).1.processItem agg item).2 = (own.processItem agg item).2 ∧
      (w.process agg items).1.activeWindows.lookup (getKey item) =
        own.activeWindows.lookup (getKey item) := by
  intro own
  have hview : (w.process agg items).1.view (getKey item) = own.view (getKey item) := by
    refine Isolation.run_filter (fun w item => (processItem agg w item).1)
      (fun w items => (process agg w items).1) (fun _ => rfl) (fun _ _ _ => rfl)
      (view (getKey item)) _ ?_ ?_ rfl items
    · intro w w' other hown h
      rw [← of_decide_eq_true hown] at h ⊢
      exact (processItem_own agg h).2
    · exact fun w other hother => view_processItem agg (of_decide_eq_false hother)
  exact ⟨(processItem_own agg hview).1, congrArg Prod.fst hview⟩

end WindowAggregator

end NetCalyx.Analytics
