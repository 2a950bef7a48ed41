import Mathlib.Order.Bounds.Basic
import NetCalyx.Analytics.Window

/-!
# Where the items of a run go

`Accounted` is the invariant of a run: the time of a key is the latest timestamp that has
been seen for it, active windows hold items of their key and start, windows that have been
emitted lie behind the time of their key, and every item is late, emitted, or held in an
active window.
-/

namespace NetCalyx.Analytics
open Collections TimeSeriesData WindowAggregator List AList

/-! ## Splitting at the cutoff -/

section Split

variable {A β : Type} (cutoffTime : Int) (windows : Map Int A)

theorem lookup_splitAtCutoff (start : Int) :
    (splitAtCutoff cutoffTime windows).1.lookup start =
        (if start ≤ cutoffTime then windows.lookup start else none) ∧
      (splitAtCutoff cutoffTime windows).2.lookup start =
        if start ≤ cutoffTime then none else windows.lookup start := by
  have hbelow := lookup_retain_keys (fun start => decide (start < cutoffTime)) windows
  have habove := lookup_retain_keys (fun start => !decide (start < cutoffTime)) windows
  simp only [splitAtCutoff, habove, lt_self_iff_false, decide_false, Bool.not_false, if_true]
  rcases eq_or_ne start cutoffTime with rfl | hne
  · cases hentry : windows.lookup start <;> simp [hbelow, habove, hentry, lookup_erase]
  · have hiff : start < cutoffTime ↔ start ≤ cutoffTime := by omega
    cases windows.lookup cutoffTime <;> by_cases hle : start ≤ cutoffTime <;>
      simp [lookup_insert_ne hne, lookup_erase_ne hne, hbelow, habove, hiff, hle]

theorem lookup_split {start : Int} {a : A}
    (h : (splitAtCutoff cutoffTime windows).1.lookup start = some a) :
    windows.lookup start = some a ∧ start ≤ cutoffTime := by
  rw [(lookup_splitAtCutoff ..).1] at h
  split at h
  · exact ⟨h, by assumption⟩
  · cases h

theorem lookup_rest {start : Int} {a : A}
    (h : (splitAtCutoff cutoffTime windows).2.lookup start = some a) :
    windows.lookup start = some a ∧ cutoffTime < start := by
  rw [(lookup_splitAtCutoff ..).2] at h
  split at h
  · cases h
  · exact ⟨h, by omega⟩

theorem mem_split_or_rest {start : Int} (h : start ∈ windows) :
    start ∈ (splitAtCutoff cutoffTime windows).1 ∨
      start ∈ (splitAtCutoff cutoffTime windows).2 := by
  rw [← lookup_isSome] at h ⊢
  rw [← lookup_isSome, (lookup_splitAtCutoff ..).1, (lookup_splitAtCutoff ..).2]
  split
  · exact .inl h
  · exact .inr h

/-- Nothing is lost between the two halves. -/
theorem contents_split (held : Int → A → List β) :
    (contents held (splitAtCutoff cutoffTime windows).1 ++
      contents held (splitAtCutoff cutoffTime windows).2).Perm (contents held windows) := by
  have hboth := contents_retain held (fun start _ => decide (start < cutoffTime)) windows
  rw [splitAtCutoff]
  split
  · rename_i entry hentry
    have hbelow := contents_erase held
      (retain (fun start _ => decide (start < cutoffTime)) windows) cutoffTime
    have habove := contents_erase held
      (retain (fun start _ => !decide (start < cutoffTime)) windows) cutoffTime
    have hnone : (retain (fun start _ => decide (start < cutoffTime)) windows).lookup cutoffTime =
        none := by
      rw [lookup_retain, Option.filter_eq_none_iff]
      simp
    rw [hnone, Option.map_none, Option.getD_none, nil_append] at hbelow
    rw [hentry] at habove
    rw [contents_insert, append_assoc]
    refine List.Perm.trans ?_ hboth
    refine (perm_append_comm_assoc _ _ _).trans ?_
    exact hbelow.symm.append habove.symm
  · exact hboth

end Split

/-! ## Late items -/

variable {Key Input Init : Type} [DecidableEq Key] [TimeSeriesData Input Key]

/-- An item is late when one of its key has been seen that is newer by more than the
lateness. -/
def Late (lateness : Nat) (before : List Input) (item : Input) : Prop :=
  ∃ b ∈ before, getKey b = getKey item ∧ getTs item < getTs b - lateness

instance (lateness : Nat) (before : List Input) (item : Input) :
    Decidable (Late lateness before item) :=
  inferInstanceAs (Decidable (∃ b ∈ before, _))

/-- The items that are not late when they come behind `before`. -/
def onTime (lateness : Nat) : List Input → List Input → List Input
  | _, [] => []
  | before, item :: items =>
    if Late lateness before item then onTime lateness (before ++ [item]) items
    else item :: onTime lateness (before ++ [item]) items

theorem onTime_append (lateness : Nat) (before items others : List Input) :
    onTime lateness before (items ++ others) =
      onTime lateness before items ++ onTime lateness (before ++ items) others := by
  induction items generalizing before with
  | nil => simp [onTime]
  | cons first items ih =>
    have hnext := ih (before ++ [first])
    rw [append_assoc, singleton_append] at hnext
    rw [cons_append, onTime, onTime, hnext]
    split <;> rfl

theorem onTime_concat (lateness : Nat) (before items : List Input) (item : Input) :
    onTime lateness before (items ++ [item]) = onTime lateness before items ++
      if Late lateness (before ++ items) item then [] else [item] := by
  rw [onTime_append]
  rfl

/-- What is known of the time of a key: it is the latest timestamp seen for it. -/
def Knows (before : List Input) (key : Key) : Option Int → Prop
  | none => ∀ b ∈ before, getKey b ≠ key
  | some time => IsGreatest {t | ∃ b ∈ before, getKey b = key ∧ getTs b = t} time

section Knows

variable {before : List Input} {item : Input} {entry : Option Int}

omit [DecidableEq Key]

theorem Knows.concat (h : Knows before (getKey item) entry) :
    Knows (before ++ [item]) (getKey item) (some (max (entry.getD (getTs item)) (getTs item))) := by
  have hitem : ∃ b ∈ before ++ [item], getKey b = getKey item ∧ getTs b = getTs item :=
    ⟨item, by simp, rfl, rfl⟩
  cases entry with
  | none =>
    rw [Option.getD_none, max_self]
    refine ⟨hitem, ?_⟩
    rintro t ⟨c, hc, hkey, rfl⟩
    rcases mem_append.mp hc with hc | hc
    · exact absurd hkey (h c hc)
    · rw [mem_singleton.mp hc]
  | some time =>
    obtain ⟨⟨b, hb, hkey, hts⟩, hmax⟩ := h
    rw [Option.getD_some]
    constructor
    · rcases le_total time (getTs item) with hle | hle
      · rw [max_eq_right hle]
        exact hitem
      · rw [max_eq_left hle]
        exact ⟨b, by simp [hb], hkey, hts⟩
    · rintro t ⟨c, hc, hckey, rfl⟩
      rcases mem_append.mp hc with hc | hc
      · exact le_max_of_le_left (hmax ⟨c, hc, hckey, rfl⟩)
      · rw [mem_singleton.mp hc]
        exact le_max_right _ _

theorem Knows.other {key : Key} (h : Knows before key entry) (hne : key ≠ getKey item) :
    Knows (before ++ [item]) key entry := by
  have hsame : ∀ b ∈ before ++ [item], getKey b = key → b ∈ before := by
    intro b hb hkey
    rcases mem_append.mp hb with hb | hb
    · exact hb
    · exact absurd (mem_singleton.mp hb ▸ hkey).symm hne
  cases entry with
  | none => exact fun b hb hkey => h b (hsame b hb hkey) hkey
  | some time =>
    obtain ⟨⟨b, hb, hkey, hts⟩, hmax⟩ := h
    refine ⟨⟨b, by simp [hb], hkey, hts⟩, ?_⟩
    rintro t ⟨c, hc, hckey, rfl⟩
    exact hmax ⟨c, hsame c hc hckey, hckey, rfl⟩

/-- The test of the aggregator finds the late items. -/
theorem Knows.late_iff (h : Knows before (getKey item) entry) (lateness : Nat) :
    getTs item < entry.getD (getTs item) - lateness ↔ Late lateness before item := by
  cases entry with
  | none =>
    rw [Option.getD_none]
    constructor
    · intro hlt
      omega
    · rintro ⟨b, hb, hkey, -⟩
      exact absurd hkey (h b hb)
  | some time =>
    obtain ⟨⟨b, hb, hkey, hts⟩, hmax⟩ := h
    rw [Option.getD_some]
    constructor
    · exact fun hlt => ⟨b, hb, hkey, hts ▸ hlt⟩
    · rintro ⟨c, hc, hckey, hlt⟩
      have := hmax ⟨c, hc, hckey, rfl⟩
      omega

end Knows

/-! ## The invariant of a run -/

variable (outs : List ((Window × List Input) ⊕ Input))

/-- The items of the windows that have been emitted. -/
def windowItems : List Input :=
  outs.flatMap (Sum.elim (·.2) fun _ => [])

/-- The items that have been handed back. -/
def lateItems : List Input :=
  outs.flatMap (Sum.elim (fun _ => []) fun late => [late])

/-- The items of the active windows. -/
def held (w : WindowAggregator Key Init (List Input)) : List Input :=
  contents (fun _ windows => contents (fun _ items => items) windows) w.activeWindows

/-- Items of one key, and of the window that starts at `start`. -/
def OfWindow (key : Key) (start : Int) (items : List Input) : Prop :=
  items ≠ [] ∧ ∀ item ∈ items, getKey item = key ∧ getWindowStart (getTs item) = start

structure Accounted (duration lateness : Nat) (before : List Input)
    (w : WindowAggregator Key Init (List Input)) (outs : List ((Window × List Input) ⊕ Input)) :
    Prop where
  windowDuration : w.windowDuration = duration
  allowed : w.lateness = lateness
  current : ∀ key, Knows before key (w.currentTime.lookup key)
  active : ∀ key windows start items, w.activeWindows.lookup key = some windows →
    windows.lookup start = some items → OfWindow key start items
  emitted : ∀ window items, .inl (window, items) ∈ outs →
    window.2 = window.1 + (duration : Int) ∧ ∃ key time, OfWindow key window.1 items ∧
      w.currentTime.lookup key = some time ∧ window.2 ≤ getWindowStart (time - lateness)
  conserved : (onTime lateness [] before).Perm (windowItems outs ++ held w)
  late : before.Perm (lateItems outs ++ onTime lateness [] before)

theorem getWindowStart_mono {t t' : Int} (h : t ≤ t') : getWindowStart t ≤ getWindowStart t' := by
  rw [getWindowStart, getWindowStart, minute]
  omega

theorem getWindowStart_le (t : Int) :
    getWindowStart t ≤ t ∧ t < getWindowStart t + minute := by
  rw [getWindowStart, minute]
  omega

section Items

omit [DecidableEq Key] [TimeSeriesData Input Key]

variable (outs others : List ((Window × List Input) ⊕ Input))
  (results : List (Window × List Input))

theorem windowItems_append :
    windowItems (outs ++ others) = windowItems outs ++ windowItems others := flatMap_append

theorem lateItems_append : lateItems (outs ++ others) = lateItems outs ++ lateItems others :=
  flatMap_append

theorem windowItems_results :
    windowItems (results.map Sum.inl : List (_ ⊕ Input)) = results.flatMap (·.2) := by
  simp [windowItems, flatMap_map]

theorem lateItems_results : lateItems (results.map Sum.inl : List (_ ⊕ Input)) = [] := by
  simp [lateItems, flatMap_map]

end Items

namespace WindowAggregator

theorem mem_emit {duration : Nat} {windows : Map Int (List Input)} {window : Window}
    {items : List Input}
    (h : (window, items) ∈ emit (.collecting Init Input) duration windows) :
    window.2 = window.1 + (duration : Int) ∧ windows.lookup window.1 = some items := by
  rw [emit, mem_map] at h
  obtain ⟨⟨start, list⟩, hmem, heq⟩ := h
  obtain ⟨rfl, rfl⟩ := Prod.mk.inj heq
  exact ⟨rfl, mem_inOrder.mp hmem⟩

theorem emit_items (duration : Nat) (windows : Map Int (List Input)) :
    ((emit (.collecting Init Input) duration windows).flatMap (·.2)).Perm
      (contents (fun _ items => items) windows) := by
  rw [emit, flatMap_map]
  exact (inOrder_perm windows).flatMap_right _

omit [DecidableEq Key] in
theorem pushItem_contents (aggInit : Init) (item : Input) (windows : Map Int (List Input)) :
    (contents (fun _ items => items)
      (pushItem (.collecting Init Input) aggInit item windows)).Perm
      (contents (fun _ items => items) windows ++ [item]) := by
  have herase := contents_erase (fun _ items => items) windows (getWindowStart (getTs item))
  rw [pushItem, contents_insert]
  refine List.Perm.trans ?_ (herase.symm.append_right [item])
  simp only [Aggregator.collecting]
  cases windows.lookup (getWindowStart (getTs item)) with
  | none => exact perm_append_comm
  | some items =>
    simp only [Option.getD_some, Option.map_some, append_assoc]
    exact perm_append_comm.append_left items

omit [DecidableEq Key] in
theorem pushItem_ofWindow {aggInit : Init} {item : Input} {windows : Map Int (List Input)}
    (h : ∀ start items, windows.lookup start = some items → OfWindow (getKey item) start items)
    {start : Int} {items : List Input}
    (hitems : (pushItem (.collecting Init Input) aggInit item windows).lookup start = some items) :
    OfWindow (getKey item) start items := by
  rw [pushItem] at hitems
  rcases eq_or_ne start (getWindowStart (getTs item)) with heq | hne
  · rw [heq, lookup_insert] at hitems
    obtain rfl := Option.some.inj hitems
    refine ⟨by simp [Aggregator.collecting], fun other hother => ?_⟩
    rcases mem_append.mp hother with hold | hnew
    · cases hlookup : windows.lookup (getWindowStart (getTs item)) with
      | none => simp [hlookup, Aggregator.collecting] at hold
      | some old =>
        rw [hlookup] at hold
        exact heq ▸ (h _ _ hlookup).2 other hold
    · rw [mem_singleton.mp hnew]
      exact ⟨rfl, heq.symm⟩
  · rw [lookup_insert_ne hne] at hitems
    exact h start items hitems

end WindowAggregator

namespace Accounted

variable {duration lateness : Nat} {before : List Input}
  {w : WindowAggregator Key Init (List Input)} {outs : List ((Window × List Input) ⊕ Input)}

theorem new (duration lateness : Nat) (aggInit : Init) :
    Accounted duration lateness ([] : List Input)
      (WindowAggregator.new duration lateness aggInit : WindowAggregator Key Init _) [] where
  windowDuration := rfl
  allowed := rfl
  current key b hb := by cases hb
  active key windows start items h := by cases h
  emitted window items h := by cases h
  conserved := by rfl
  late := by rfl

/-- The time of the item's key, with the item. -/
def seen (w : WindowAggregator Key Init (List Input)) (item : Input) : Int :=
  max ((w.currentTime.lookup (getKey item)).getD (getTs item)) (getTs item)

/-- The time of a key does not go back. -/
theorem exists_later {key : Key} {time : Int} (htime : w.currentTime.lookup key = some time)
    (lateness : Nat) (item : Input) :
    ∃ time', (w.currentTime.insert (getKey item) (seen w item)).lookup key = some time' ∧
      getWindowStart (time - lateness) ≤ getWindowStart (time' - lateness) := by
  rcases eq_or_ne key (getKey item) with rfl | hne
  · refine ⟨_, lookup_insert _, getWindowStart_mono (Int.sub_le_sub_right ?_ _)⟩
    rw [seen, htime]
    exact le_max_left _ _
  · exact ⟨time, (lookup_insert_ne hne).trans htime, le_rfl⟩

variable (h : Accounted duration lateness before w outs)
include h

theorem current_step (item : Input) (key : Key) :
    Knows (before ++ [item]) key
      ((w.currentTime.insert (getKey item) (seen w item)).lookup key) := by
  rcases eq_or_ne key (getKey item) with heq | hne
  · rw [heq, lookup_insert]
    exact (h.current _).concat
  · rw [lookup_insert_ne hne]
    exact (h.current key).other hne

/-- Windows that have been emitted stay behind the time of their key. -/
theorem emitted_step (item : Input) {window : Window} {items : List Input}
    (hmem : .inl (window, items) ∈ outs) :
    window.2 = window.1 + (duration : Int) ∧ ∃ key time, OfWindow key window.1 items ∧
      (w.currentTime.insert (getKey item) (seen w item)).lookup key = some time ∧
      window.2 ≤ getWindowStart (time - lateness) := by
  obtain ⟨hend, key, time, hof, htime, hbehind⟩ := h.emitted window items hmem
  obtain ⟨time', htime', hle⟩ := exists_later htime lateness item
  exact ⟨hend, key, time', hof, htime', hbehind.trans hle⟩

variable {item : Input}

/-- A late item is handed back, and nothing else happens. -/
theorem processItem_late (hlate : Late lateness before item) :
    w.processItem (.collecting Init Input) item =
      ({ w with currentTime := w.currentTime.insert (getKey item) (seen w item) }, [], [item]) := by
  have htest := ((h.current (getKey item)).late_iff lateness).mpr hlate
  have hseen : seen w item = (w.currentTime.lookup (getKey item)).getD (getTs item) := by
    rw [seen, max_eq_left]
    omega
  rw [processItem, h.allowed]
  simp only [htest, if_true, hseen]

omit h

/-- The windows of the item's key, with the item in its window. -/
def pushed (w : WindowAggregator Key Init (List Input)) (item : Input) : Map Int (List Input) :=
  pushItem (.collecting Init Input) w.aggInit item
    ((w.activeWindows.lookup (getKey item)).getD ∅)

/-- These windows, up to the cutoff, and the others. -/
def halves (duration lateness : Nat) (w : WindowAggregator Key Init (List Input)) (item : Input) :
    Map Int (List Input) × Map Int (List Input) :=
  splitAtCutoff (getWindowStart (seen w item - lateness) - (duration : Int)) (pushed w item)

/-- The aggregator after an item that is on time. -/
def after (duration lateness : Nat) (w : WindowAggregator Key Init (List Input)) (item : Input) :
    WindowAggregator Key Init (List Input) :=
  { w with
    currentTime := w.currentTime.insert (getKey item) (seen w item)
    activeWindows := w.activeWindows.insert (getKey item) (halves duration lateness w item).2 }

theorem processItem_onTime (h : Accounted duration lateness before w outs)
    (hlate : ¬ Late lateness before item) :
    w.processItem (.collecting Init Input) item =
      (after duration lateness w item, WindowAggregator.emit (.collecting Init Input) duration
        (halves duration lateness w item).1, []) := by
  have htest := mt ((h.current (getKey item)).late_iff lateness).mp hlate
  rw [processItem, h.allowed, h.windowDuration]
  simp only [htest, if_false, after, halves, h.allowed, h.windowDuration]
  rfl

theorem step_late (h : Accounted duration lateness before w outs)
    (hlate : Late lateness before item) :
    Accounted duration lateness (before ++ [item])
      { w with currentTime := w.currentTime.insert (getKey item) (seen w item) }
      (outs ++ [.inr item]) where
  __ := h
  current := h.current_step item
  emitted window items hmem := by
    refine h.emitted_step item ?_
    simpa using hmem
  conserved := by
    rw [onTime_concat, nil_append, if_pos hlate, append_nil, windowItems_append,
      show windowItems [.inr item] = [] from rfl, append_nil]
    exact h.conserved
  late := by
    rw [onTime_concat, nil_append, if_pos hlate, append_nil, lateItems_append, append_assoc]
    exact (h.late.append_right [item]).trans
      ((append_assoc _ _ _).symm ▸ perm_append_comm.append_left _)

theorem ofWindow_pushed (h : Accounted duration lateness before w outs) (item : Input)
    {start : Int} {items : List Input} (hitems : (pushed w item).lookup start = some items) :
    OfWindow (getKey item) start items := by
  refine pushItem_ofWindow (fun start' items' hlookup => ?_) hitems
  cases hwindows : w.activeWindows.lookup (getKey item) with
  | none =>
    rw [hwindows] at hlookup
    cases hlookup
  | some windows =>
    rw [hwindows] at hlookup
    exact h.active _ windows start' items' hwindows hlookup

/-- What is emitted and held after the item is what was held before, and the item. -/
theorem held_after (duration lateness : Nat) (w : WindowAggregator Key Init (List Input))
    (item : Input) :
    (contents (fun _ items => items) (halves duration lateness w item).1 ++
      held (after duration lateness w item)).Perm (held w ++ [item]) := by
  have hsplit := contents_split (getWindowStart (seen w item - lateness) - (duration : Int))
    (pushed w item) fun _ items => items
  have hpush := pushItem_contents w.aggInit item
    ((w.activeWindows.lookup (getKey item)).getD ∅)
  have hrest := contents_erase (fun _ windows => contents (fun _ items => items) windows)
    w.activeWindows (getKey item)
  have hown : ((w.activeWindows.lookup (getKey item)).map
        fun windows => contents (fun _ items => items) windows).getD [] =
      contents (fun _ items => items) ((w.activeWindows.lookup (getKey item)).getD ∅) := by
    cases w.activeWindows.lookup (getKey item) <;> rfl
  rw [hown] at hrest
  rw [held, after, contents_insert, ← append_assoc]
  refine ((hsplit.trans hpush).append_right _).trans ?_
  rw [append_assoc]
  refine (perm_append_comm.append_left _).trans ?_
  rw [← append_assoc]
  exact hrest.symm.append_right [item]

theorem step_onTime (h : Accounted duration lateness before w outs)
    (hlate : ¬ Late lateness before item) :
    Accounted duration lateness (before ++ [item]) (after duration lateness w item)
      (outs ++ (WindowAggregator.emit (.collecting Init Input) duration
        (halves duration lateness w item).1).map .inl) := by
  refine ⟨h.windowDuration, h.allowed, h.current_step item, ?_, ?_, ?_, ?_⟩
  · intro key windows start items hwindows hitems
    rw [after] at hwindows
    rcases eq_or_ne key (getKey item) with rfl | hne
    · rw [lookup_insert] at hwindows
      obtain rfl := Option.some.inj hwindows
      exact h.ofWindow_pushed item (lookup_rest _ _ hitems).1
    · rw [lookup_insert_ne hne] at hwindows
      exact h.active key windows start items hwindows hitems
  · intro window items hmem
    rcases mem_append.mp hmem with hold | hnew
    · exact h.emitted_step item hold
    · rw [mem_map_of_injective Sum.inl_injective] at hnew
      obtain ⟨hend, hlookup⟩ := mem_emit hnew
      obtain ⟨hitems, hcutoff⟩ := lookup_split _ _ hlookup
      refine ⟨hend, getKey item, seen w item, h.ofWindow_pushed item hitems,
        lookup_insert _, ?_⟩
      omega
  · rw [onTime_concat, nil_append, if_neg hlate, windowItems_append, windowItems_results,
      append_assoc]
    refine (h.conserved.append_right [item]).trans ?_
    rw [append_assoc]
    refine List.Perm.append_left _ ?_
    refine (held_after duration lateness w item).symm.trans ?_
    exact (emit_items duration _).symm.append_right _
  · rw [lateItems_append, lateItems_results, append_nil, onTime_concat, nil_append, if_neg hlate,
      ← append_assoc]
    exact h.late.append_right [item]

/-- The invariant holds along every run. -/
theorem process (duration lateness : Nat) (aggInit : Init) (items : List Input) :
    Accounted duration lateness items
      ((WindowAggregator.new duration lateness aggInit : WindowAggregator Key Init _).process
        (.collecting Init Input) items).1
      ((WindowAggregator.new duration lateness aggInit : WindowAggregator Key Init _).process
        (.collecting Init Input) items).2 := by
  induction items using List.reverseRecOn with
  | nil => exact new duration lateness aggInit
  | append_singleton items item ih =>
    rw [process_concat]
    by_cases hlate : Late lateness items item
    · rw [ih.processItem_late hlate]
      exact ih.step_late hlate
    · rw [ih.processItem_onTime hlate]
      exact ih.step_onTime hlate

/-- The points in time that are computed for an item. The source computes them with `DateTime`, and
panics where one is out of its range. -/
def computed (duration lateness : Nat) (w : WindowAggregator Key Init (List Input)) (item : Input) :
    List Int :=
  [(w.currentTime.lookup (getKey item)).getD (getTs item) - lateness, seen w item - lateness,
    getWindowStart (seen w item - lateness),
    getWindowStart (seen w item - lateness) - (duration : Int), getWindowStart (getTs item),
    getWindowStart (getTs item) + (duration : Int)]

/-- No point is out of a range in which there is room for the lateness, a minute and a window in
front of all timestamps, and for a window behind them. -/
theorem computed_inRange (h : Accounted duration lateness before w outs) {low high : Int}
    (hrange : ∀ i ∈ item :: before, low + lateness + minute + duration ≤ getTs i ∧ getTs i + (duration : Int) ≤ high) :
    ∀ t ∈ computed duration lateness w item, low ≤ t ∧ t ≤ high := by
  have hitem := hrange item mem_cons_self
  have hcurrent := h.current (getKey item)
  unfold computed seen
  generalize w.currentTime.lookup (getKey item) = entry at hcurrent
  have hentry : low + lateness + minute + duration ≤ entry.getD (getTs item) ∧
      entry.getD (getTs item) + (duration : Int) ≤ high := by
    cases entry with
    | none => exact hitem
    | some time =>
      obtain ⟨b, hb, -, rfl⟩ := hcurrent.1
      exact hrange b (mem_cons_of_mem item hb)
  have hseen := getWindowStart_le (max (entry.getD (getTs item)) (getTs item) - lateness)
  have hstart := getWindowStart_le (getTs item)
  have hminute : (0 : Int) < minute := by decide
  simp only [forall_mem_cons, not_mem_nil, false_implies, implies_true, and_true]
  omega

end Accounted

/-! ## The end of the input -/

section Outputs

variable (order : List Key → List Key)

namespace WindowAggregator

omit [TimeSeriesData Input Key] in
theorem flush_items (horder : ∀ keys, (order keys).Perm keys)
    (w : WindowAggregator Key Init (List Input)) :
    ((w.flush (.collecting Init Input) order).2.flatMap (·.2)).Perm (held w) := by
  have hheld : held w = (w.activeWindows.entries.map (·.2)).flatMap
      fun windows => contents (fun _ items => items) windows := (flatMap_map _ _ _).symm
  rw [flush, flatMap_assoc, hheld]
  have hvalues := (horder w.activeWindows.keys).filterMap w.activeWindows.lookup
  rw [filterMap_lookup] at hvalues
  refine (hvalues.flatMap_right _).trans (List.Perm.flatMap_left _ fun windows _ => ?_)
  exact emit_items w.windowDuration windows

omit [TimeSeriesData Input Key] in
theorem mem_flush {w : WindowAggregator Key Init (List Input)} {window : Window}
    {items : List Input} (h : (window, items) ∈ (w.flush (.collecting Init Input) order).2) :
    window.2 = window.1 + (w.windowDuration : Int) ∧ ∃ key windows,
      w.activeWindows.lookup key = some windows ∧ windows.lookup window.1 = some items := by
  rw [flush, mem_flatMap] at h
  obtain ⟨windows, hwindows, hmem⟩ := h
  obtain ⟨key, -, hkey⟩ := mem_filterMap.mp hwindows
  obtain ⟨hend, hlookup⟩ := mem_emit hmem
  exact ⟨hend, key, windows, hkey, hlookup⟩

variable (duration lateness : Nat) (aggInit : Init) (items : List Input)

/-- What the items give with the aggregator that keeps them. -/
abbrev windows : List ((Window × List Input) ⊕ Input) :=
  (new duration lateness aggInit : WindowAggregator Key Init (List Input)).outputs
    (.collecting Init Input) order items

variable {order duration lateness aggInit items} in
/-- Every window holds items of one key and start. -/
theorem ofWindow_of_mem_windows {window : Window} {aggregated : List Input}
    (h : .inl (window, aggregated) ∈ windows order duration lateness aggInit items) :
    window.2 = window.1 + (duration : Int) ∧ ∃ key, OfWindow key window.1 aggregated := by
  have hrun := Accounted.process duration lateness aggInit items
  rcases mem_append.mp h with hearlier | hflush
  · obtain ⟨hend, key, -, hof, -⟩ := hrun.emitted window aggregated hearlier
    exact ⟨hend, key, hof⟩
  · rw [mem_map_of_injective Sum.inl_injective] at hflush
    obtain ⟨hend, key, windows, hkey, hlookup⟩ := mem_flush order hflush
    rw [hrun.windowDuration] at hend
    exact ⟨hend, key, hrun.active key windows _ _ hkey hlookup⟩

/-- The items of the windows are those that are on time. -/
theorem windowItems_windows (horder : ∀ keys, (order keys).Perm keys) :
    (onTime lateness [] items).Perm
      (windowItems (windows order duration lateness aggInit items)) := by
  have hrun := Accounted.process duration lateness aggInit items
  rw [windows, outputs, windowItems_append, windowItems_results]
  exact hrun.conserved.trans ((flush_items order horder _).symm.append_left _)

theorem lateItems_windows :
    items.Perm (lateItems (windows order duration lateness aggInit items) ++
      onTime lateness [] items) := by
  rw [windows, outputs, lateItems_append, lateItems_results, append_nil]
  exact (Accounted.process duration lateness aggInit items).late

/-- Every item is handed back as late or aggregated into one window, whose result is that
of an aggregator into which exactly its items have been pushed; what has been emitted stays,
and an item that comes for a window that has been emitted is late. -/
theorem windows_conserve {Output A : Type} (agg : Aggregator Init Input Output A)
    (horder : ∀ keys, (order keys).Perm keys) :
    (∃ enough, ∀ n, (WindowedAggregationAdaptor.new items duration lateness aggInit).collect agg
        order (n + enough) =
      (windows order duration lateness aggInit items).map (Sum.map (agg.result aggInit) id)) ∧
    items.Perm (lateItems (windows order duration lateness aggInit items) ++
      windowItems (windows order duration lateness aggInit items)) ∧
    ∀ before item rest, items = before ++ item :: rest →
      ((new duration lateness aggInit : WindowAggregator Key Init (List Input)).process
          (.collecting Init Input) before).2 <+: windows order duration lateness aggInit items ∧
      ∀ window aggregated, .inl (window, aggregated) ∈
          ((new duration lateness aggInit : WindowAggregator Key Init (List Input)).process
            (.collecting Init Input) before).2 →
        (∃ other ∈ aggregated, getKey other = getKey item) →
        (getTs item < window.2 ∨ 0 < duration ∧ getWindowStart (getTs item) = window.1) →
        (((new duration lateness aggInit : WindowAggregator Key Init (List Input)).process
            (.collecting Init Input) before).1.processItem (.collecting Init Input) item).2 =
          ([], [item]) := by
  refine ⟨?_, ?_, fun before item rest hsplit => ⟨?_, ?_⟩⟩
  · obtain ⟨enough, h⟩ := WindowedAggregationAdaptor.exists_collect_eq agg order items
      (new duration lateness aggInit) [] []
    refine ⟨enough, fun n => (h n).trans ?_⟩
    exact outputs_image agg order (new duration lateness aggInit) items
  · exact (lateItems_windows order duration lateness aggInit items).trans
      ((windowItems_windows order duration lateness aggInit items horder).append_left _)
  · rw [windows, outputs, hsplit, process_append, append_assoc]
    exact prefix_append _ _
  · intro window aggregated hmem hother harrives
    have hrun := Accounted.process duration lateness aggInit before
    obtain ⟨hend, key, time, hof, htime, hbehind⟩ := hrun.emitted window aggregated hmem
    obtain ⟨other, hin, hsame⟩ := hother
    obtain rfl : key = getKey item := (hof.2 other hin).1.symm.trans hsame
    have hlate : Late lateness before item := by
      rw [← (hrun.current (getKey item)).late_iff lateness, htime, Option.getD_some]
      have hfloor := getWindowStart_le (time - lateness)
      have hitem := getWindowStart_le (getTs item)
      rcases harrives with hin | ⟨hpos, hstart⟩
      · omega
      · -- starts are whole minutes, so the time is a minute or more behind this one
        have hnext : window.1 + minute ≤ getWindowStart (time - lateness) := by
          rw [hend, ← hstart] at hbehind
          rw [← hstart]
          simp only [getWindowStart, minute] at hbehind ⊢
          omega
        omega
    rw [hrun.processItem_late hlate]

omit [DecidableEq Key] [TimeSeriesData Input Key] in
theorem mem_windowItems {outs : List ((Window × List Input) ⊕ Input)} {item : Input} :
    item ∈ windowItems outs ↔
      ∃ window aggregated, .inl (window, aggregated) ∈ outs ∧ item ∈ aggregated := by
  simp [windowItems, mem_flatMap]

/-- Items lie in their window, windows are as long as they should be, and windows of a key
do not overlap. -/
def Fit (duration : Nat) (outs : List ((Window × List Input) ⊕ Input)) : Prop :=
  (∀ window aggregated, .inl (window, aggregated) ∈ outs → window.2 - window.1 = (duration : Int) ∧
    ∀ item ∈ aggregated, window.1 ≤ getTs item ∧ getTs item < window.2) ∧
  ∀ window aggregated window' aggregated', .inl (window, aggregated) ∈ outs →
    .inl (window', aggregated') ∈ outs →
    (∃ item ∈ aggregated, ∃ item' ∈ aggregated', getKey item = getKey item') →
    window = window' ∨ window.2 ≤ window'.1 ∨ window'.2 ≤ window.1

/-- Items come within the duration after a full minute, and those of a key in the same minute
or in minutes that are the duration apart. -/
def Spaced (duration : Nat) (items : List Input) : Prop :=
  (∀ item ∈ items, getTs item < getWindowStart (getTs item) + (duration : Int)) ∧
  ∀ item ∈ items, ∀ item' ∈ items, getKey item = getKey item' →
    getWindowStart (getTs item) = getWindowStart (getTs item') ∨
    getWindowStart (getTs item) + (duration : Int) ≤ getWindowStart (getTs item') ∨
    getWindowStart (getTs item') + (duration : Int) ≤ getWindowStart (getTs item)

theorem windows_fit_iff (horder : ∀ keys, (order keys).Perm keys) :
    Fit duration (windows order duration lateness aggInit items) ↔
      Spaced duration (onTime lateness [] items) := by
  have hitems := windowItems_windows order duration lateness aggInit items horder
  constructor
  · rintro ⟨hin, hapart⟩
    -- the window of an item that is on time
    have hwindow : ∀ item ∈ onTime lateness [] items, ∃ aggregated,
        .inl ((getWindowStart (getTs item), getWindowStart (getTs item) + (duration : Int)),
          aggregated) ∈ windows order duration lateness aggInit items ∧ item ∈ aggregated := by
      intro item hitem
      obtain ⟨⟨start, stop⟩, aggregated, hmem, hinside⟩ :=
        mem_windowItems.mp (hitems.mem_iff.mp hitem)
      obtain ⟨hend, key, hof⟩ := ofWindow_of_mem_windows hmem
      simp only at hend hof
      rw [hend, ← (hof.2 item hinside).2] at hmem
      exact ⟨aggregated, hmem, hinside⟩
    refine ⟨fun item hitem => ?_, fun item hitem item' hitem' hkey => ?_⟩
    · obtain ⟨aggregated, hmem, hinside⟩ := hwindow item hitem
      exact ((hin _ _ hmem).2 item hinside).2
    · obtain ⟨aggregated, hmem, hinside⟩ := hwindow item hitem
      obtain ⟨aggregated', hmem', hinside'⟩ := hwindow item' hitem'
      have := hapart _ _ _ _ hmem hmem' ⟨item, hinside, item', hinside', hkey⟩
      exact this.imp_left fun heq => congrArg Prod.fst heq
  · rintro ⟨hshort, hapart⟩
    have honTime : ∀ {window aggregated item}, .inl (window, aggregated) ∈
        windows order duration lateness aggInit items → item ∈ aggregated →
        item ∈ onTime lateness [] items := fun hmem hinside =>
      hitems.mem_iff.mpr (mem_windowItems.mpr ⟨_, _, hmem, hinside⟩)
    refine ⟨fun window aggregated hmem => ?_,
      fun window aggregated window' aggregated' hmem hmem' ⟨item, hin, item', hin', hkey⟩ => ?_⟩
    · obtain ⟨hend, key, hof⟩ := ofWindow_of_mem_windows hmem
      refine ⟨by omega, fun item hinside => ?_⟩
      have hstart := (hof.2 item hinside).2
      have hlt := hshort item (honTime hmem hinside)
      have hle := (getWindowStart_le (getTs item)).1
      omega
    · obtain ⟨hend, key, hof⟩ := ofWindow_of_mem_windows hmem
      obtain ⟨hend', key', hof'⟩ := ofWindow_of_mem_windows hmem'
      have := hapart item (honTime hmem hin) item' (honTime hmem' hin') hkey
      rw [(hof.2 item hin).2, (hof'.2 item' hin').2] at this
      rcases this with heq | hbefore | hafter
      · exact .inl (Prod.ext heq (by omega))
      · exact .inr (.inl (by omega))
      · exact .inr (.inr (by omega))

omit [DecidableEq Key] in
/-- Windows of one minute fit. -/
theorem spaced_minute (items : List Input) : Spaced minute.toNat items := by
  refine ⟨fun item _ => (getWindowStart_le (getTs item)).2, fun item _ item' _ _ => ?_⟩
  simp only [getWindowStart, minute]
  omega

end WindowAggregator

end Outputs

/-! ## The configuration of the collector -/

inductive ConfigurationError where
  | invalidWindowDuration
  | latenessExceedsWindowDuration

/-- Both in nanoseconds. -/
structure AggregationConfig where
  windowDuration : Nat
  lateness : Nat

def AggregationConfig.validate (config : AggregationConfig) : Except ConfigurationError Unit :=
  if config.windowDuration = 0 then .error .invalidWindowDuration
  else if config.lateness > config.windowDuration then .error .latenessExceedsWindowDuration
  else .ok ()

/-- A point of a series. -/
structure Sample where
  key : Nat
  ts : Int

instance : TimeSeriesData Sample Nat := ⟨Sample.key, Sample.ts⟩

/-- With half a minute as duration, an item of the second half of a minute is aggregated
into a window that ends before it. -/
theorem halfMinute_misses :
    AggregationConfig.validate ⟨30000000000, 0⟩ = .ok () ∧
      ¬ WindowAggregator.Fit 30000000000
        (WindowAggregator.windows id 30000000000 0 () [(⟨1, 45000000000⟩ : Sample)]) := by
  refine ⟨rfl, fun hfit => ?_⟩
  have := (hfit.1 (0, 30000000000) [⟨1, 45000000000⟩] (.head _)).2 ⟨1, 45000000000⟩ (.head _)
  exact absurd this.2 (by decide)

theorem minute_fits :
    AggregationConfig.validate ⟨60000000000, 10000000000⟩ = .ok () ∧
      WindowAggregator.Fit 60000000000 (WindowAggregator.windows id 60000000000 10000000000 ()
        [(⟨1, 45000000000⟩ : Sample), ⟨1, 61000000000⟩]) :=
  ⟨rfl, (windows_fit_iff id 60000000000 10000000000 ()
    [(⟨1, 45000000000⟩ : Sample), ⟨1, 61000000000⟩] fun _ => .rfl).mpr
      (spaced_minute _)⟩

/-- The second item ends the first one's window, and the third comes too late. -/
def samples : List Sample := [⟨1, 5⟩, ⟨1, 120000000000⟩, ⟨1, 7⟩]

theorem samples_conserved :
    samples.Perm (lateItems (WindowAggregator.windows id 60000000000 0 () samples) ++
      windowItems (WindowAggregator.windows id 60000000000 0 () samples)) ∧
    (((WindowAggregator.new 60000000000 0 () : WindowAggregator Nat Unit (List Sample)).process
        (.collecting Unit Sample) [⟨1, 5⟩, ⟨1, 120000000000⟩]).1.processItem
          (.collecting Unit Sample) ⟨1, 7⟩).2 = ([], [⟨1, 7⟩]) := by
  obtain ⟨-, hperm, hlate⟩ := windows_conserve id 60000000000 0 () samples
    (.collecting Unit Sample) fun _ => .rfl
  refine ⟨hperm, (hlate [⟨1, 5⟩, ⟨1, 120000000000⟩] ⟨1, 7⟩ [] rfl).2 (0, 60000000000) [⟨1, 5⟩]
    (.head _) ⟨⟨1, 5⟩, .head _, rfl⟩ (.inl (by decide))⟩

end NetCalyx.Analytics
