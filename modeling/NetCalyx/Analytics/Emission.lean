import NetCalyx.Analytics.Accounting

/-!
# When windows are emitted

`emissions` is the log of the windows that the items of a run complete, with their keys.
`Timely` is its invariant: windows of a key come in increasing order, those in the log lie
behind the time of the key, those that are active lie ahead of it, and every item that was
accepted has opened a window that is in the log or active.
-/

namespace NetCalyx.Analytics
open Collections TimeSeriesData AList

variable {Key Input Init Output A : Type} [DecidableEq Key] [TimeSeriesData Input Key]

namespace WindowAggregator

/-- The windows that the items complete, in the order in which they are emitted. -/
def emissions (agg : Aggregator Init Input Output A) (w : WindowAggregator Key Init A) :
    List Input → List (Key × Window)
  | [] => []
  | item :: items =>
    (w.processItem agg item).2.1.map (fun out => (getKey item, out.1)) ++
      emissions agg (w.processItem agg item).1 items

variable (agg : Aggregator Init Input Output A)

theorem emissions_concat (w : WindowAggregator Key Init A) (items : List Input) (item : Input) :
    w.emissions agg (items ++ [item]) = w.emissions agg items ++
      ((w.process agg items).1.processItem agg item).2.1.map fun out => (getKey item, out.1) := by
  induction items generalizing w with
  | nil => simp [emissions, process]
  | cons first items ih => simp only [List.cons_append, emissions, process, ih, List.append_assoc]

/-- The windows do not depend on the aggregator. -/
theorem emissions_image (w : WindowAggregator Key Init (List Input)) (items : List Input) :
    (w.image agg).emissions agg items = w.emissions (.collecting Init Input) items := by
  induction items generalizing w with
  | nil => rfl
  | cons item items ih =>
    rw [emissions, emissions, processItem_image, ih, List.map_map]
    rfl

end WindowAggregator

/-! ## The invariant of a run -/

structure Timely (duration lateness : Nat) (before : List Input)
    (w : WindowAggregator Key Init (List Input)) (log : List (Key × Window)) : Prop where
  increasing : log.Pairwise fun a b => a.1 = b.1 → a.2.1 < b.2.1
  behind : ∀ key window, (key, window) ∈ log → window.2 = window.1 + (duration : Int) ∧
    ∃ time, w.currentTime.lookup key = some time ∧ window.2 ≤ getWindowStart (time - lateness)
  ahead : ∀ key windows start, w.activeWindows.lookup key = some windows → start ∈ windows →
    ∃ time, w.currentTime.lookup key = some time ∧
      getWindowStart (time - lateness) < start + (duration : Int)
  opened : ∀ item ∈ onTime lateness [] before,
    (getKey item, getWindowStart (getTs item),
      getWindowStart (getTs item) + (duration : Int)) ∈ log ∨
    ∃ windows, w.activeWindows.lookup (getKey item) = some windows ∧
      getWindowStart (getTs item) ∈ windows

namespace Timely
open Accounted

variable {duration lateness : Nat} {before : List Input}
  {w : WindowAggregator Key Init (List Input)} {outs : List ((Window × List Input) ⊕ Input)}
  {log : List (Key × Window)}

theorem new (duration lateness : Nat) (aggInit : Init) :
    Timely duration lateness ([] : List Input)
      (WindowAggregator.new duration lateness aggInit : WindowAggregator Key Init _) [] where
  increasing := .nil
  behind key window h := by cases h
  ahead key windows start h := by cases h
  opened item h := by cases h

variable {item : Input}

/-- A late item changes nothing: the time of its key is known, and stays. -/
theorem step_late (hrun : Accounted duration lateness before w outs)
    (h : Timely duration lateness before w log) (hlate : Late lateness before item) :
    Timely duration lateness (before ++ [item])
      { w with currentTime := w.currentTime.insert (getKey item) (seen w item) } log := by
  have htest := ((hrun.current (getKey item)).late_iff lateness).mpr hlate
  have hsame : ∀ key time, w.currentTime.lookup key = some time →
      (w.currentTime.insert (getKey item) (seen w item)).lookup key = some time := by
    intro key time htime
    rcases eq_or_ne key (getKey item) with rfl | hne
    · rw [htime, Option.getD_some] at htest
      rw [lookup_insert, seen, htime, Option.getD_some, max_eq_left (by omega)]
    · rw [lookup_insert_ne hne, htime]
  refine ⟨h.increasing, fun key window hmem => ?_, fun key windows start hwindows hstart => ?_, ?_⟩
  · obtain ⟨hend, time, htime, hle⟩ := h.behind key window hmem
    exact ⟨hend, time, hsame key time htime, hle⟩
  · obtain ⟨time, htime, hlt⟩ := h.ahead key windows start hwindows hstart
    exact ⟨time, hsame key time htime, hlt⟩
  · rw [onTime_concat, List.nil_append, if_pos hlate, List.append_nil]
    exact h.opened

/-- The starts of the windows of the item's key, with the one the item opens. -/
theorem mem_pushed {start : Int} :
    start ∈ pushed w item ↔ start = getWindowStart (getTs item) ∨
      ∃ windows, w.activeWindows.lookup (getKey item) = some windows ∧ start ∈ windows := by
  rw [pushed, WindowAggregator.pushItem, mem_insert]
  cases w.activeWindows.lookup (getKey item) <;> simp

/-- The windows that an item completes, as they stand in the log. -/
def completed (duration lateness : Nat) (w : WindowAggregator Key Init (List Input)) (item : Input) :
    List (Key × Window) :=
  (WindowAggregator.emit (.collecting Init Input) duration (halves duration lateness w item).1).map
    fun out => (getKey item, out.1)

theorem mem_completed {entry : Key × Window} (h : entry ∈ completed duration lateness w item) :
    entry.1 = getKey item ∧ entry.2.2 = entry.2.1 + (duration : Int) ∧
      entry.2.1 ∈ pushed w item ∧
      entry.2.2 ≤ getWindowStart (seen w item - lateness) := by
  obtain ⟨⟨window, items⟩, hout, rfl⟩ := List.mem_map.mp h
  obtain ⟨hend, hlookup⟩ := WindowAggregator.mem_emit hout
  obtain ⟨hpushed, hle⟩ := lookup_split _ _ hlookup
  refine ⟨rfl, hend, lookup_isSome.mp (by rw [hpushed]; rfl), ?_⟩
  dsimp only
  omega

theorem completed_of_mem {start : Int} (h : start ∈ (halves duration lateness w item).1) :
    (getKey item, start, start + (duration : Int)) ∈ completed duration lateness w item := by
  obtain ⟨items, hitems⟩ := Option.isSome_iff_exists.mp (lookup_isSome.mpr h)
  refine List.mem_map.mpr ⟨((start, start + (duration : Int)), items), ?_, rfl⟩
  rw [WindowAggregator.emit, List.mem_map]
  exact ⟨⟨start, items⟩, mem_inOrder.mpr hitems, rfl⟩

/-- A window that is completed comes behind those of its key in the log: it was ahead of the
time of the key, or it is the item's own, which is not late. -/
theorem start_lt_of_completed (hpos : 0 < duration)
    (hrun : Accounted duration lateness before w outs) (h : Timely duration lateness before w log)
    (hlate : ¬ Late lateness before item) {window : Window} (hmem : (getKey item, window) ∈ log)
    {start : Int} (hstart : start ∈ pushed w item) : window.1 < start := by
  obtain ⟨hend, time, htime, hle⟩ := h.behind _ _ hmem
  rcases mem_pushed.mp hstart with rfl | ⟨windows, hwindows, hactive⟩
  · have htest := mt ((hrun.current (getKey item)).late_iff lateness).mp hlate
    rw [htime, Option.getD_some] at htest
    have hfloor := getWindowStart_mono (show time - (lateness : Int) ≤ getTs item by omega)
    omega
  · obtain ⟨time', htime', hlt⟩ := h.ahead _ _ _ hwindows hactive
    obtain rfl := Option.some.inj (htime.symm.trans htime')
    omega

theorem step_increasing (hpos : 0 < duration) (hrun : Accounted duration lateness before w outs)
    (h : Timely duration lateness before w log) (hlate : ¬ Late lateness before item) :
    (log ++ completed duration lateness w item).Pairwise
      fun a b => a.1 = b.1 → a.2.1 < b.2.1 := by
  rw [List.pairwise_append]
  refine ⟨h.increasing, ?_, fun a ha b hb hkey => ?_⟩
  · rw [completed, WindowAggregator.emit, List.map_map, List.pairwise_map]
    refine (inOrder_pairwise (halves duration lateness w item).1).imp ?_
    intro a b hlt _
    exact hlt
  · obtain ⟨hitem, -, hpushed, -⟩ := mem_completed hb
    refine start_lt_of_completed hpos hrun h hlate ?_ hpushed
    rw [← hitem, ← hkey]
    exact ha

theorem step_onTime (hpos : 0 < duration) (hrun : Accounted duration lateness before w outs)
    (h : Timely duration lateness before w log) (hlate : ¬ Late lateness before item) :
    Timely duration lateness (before ++ [item]) (after duration lateness w item)
      (log ++ completed duration lateness w item) := by
  refine ⟨step_increasing hpos hrun h hlate, ?_, ?_, ?_⟩
  · intro key window hmem
    rcases List.mem_append.mp hmem with hold | hnew
    · obtain ⟨hend, time, htime, hle⟩ := h.behind key window hold
      obtain ⟨time', htime', hle'⟩ := exists_later htime lateness item
      exact ⟨hend, time', htime', hle.trans hle'⟩
    · obtain ⟨hkey, hend, -, hle⟩ := mem_completed hnew
      dsimp only at hkey
      rw [hkey]
      exact ⟨hend, _, lookup_insert _, hle⟩
  · intro key windows start hwindows hstart
    rw [after] at hwindows
    rcases eq_or_ne key (getKey item) with rfl | hne
    · rw [lookup_insert] at hwindows
      obtain rfl := Option.some.inj hwindows
      obtain ⟨items, hitems⟩ := Option.isSome_iff_exists.mp (lookup_isSome.mpr hstart)
      have hgt := (lookup_rest _ _ hitems).2
      exact ⟨_, lookup_insert _, by omega⟩
    · rw [lookup_insert_ne hne] at hwindows
      obtain ⟨time, htime, hlt⟩ := h.ahead key windows start hwindows hstart
      exact ⟨time, (lookup_insert_ne hne).trans htime, hlt⟩
  · -- a window of the item's key is among those that are split
    have hown : ∀ start, start ∈ pushed w item →
        (getKey item, start, start + (duration : Int)) ∈ completed duration lateness w item ∨
        ∃ windows, (after duration lateness w item).activeWindows.lookup (getKey item) =
          some windows ∧ start ∈ windows := by
      intro start hstart
      rcases mem_split_or_rest _ _ hstart with hsplit | hrest
      · exact .inl (completed_of_mem hsplit)
      · exact .inr ⟨_, lookup_insert _, hrest⟩
    intro other hother
    rw [onTime_concat, List.nil_append, if_neg hlate] at hother
    rcases List.mem_append.mp hother with hold | hnew
    · rcases h.opened other hold with hlog | ⟨windows, hwindows, hstart⟩
      · exact .inl (List.mem_append_left _ hlog)
      · by_cases hkey : getKey other = getKey item
        · rw [hkey] at hwindows ⊢
          exact (hown _ (mem_pushed.mpr (.inr ⟨windows, hwindows, hstart⟩))).imp_left
            (List.mem_append_right _)
        · exact .inr ⟨windows, (lookup_insert_ne hkey).trans hwindows, hstart⟩
    · obtain rfl := List.mem_singleton.mp hnew
      exact (hown _ (mem_pushed.mpr (.inl rfl))).imp_left (List.mem_append_right _)

/-- The invariant holds along every run. -/
theorem process (hpos : 0 < duration) (lateness : Nat) (aggInit : Init) (items : List Input) :
    Timely duration lateness items
      ((WindowAggregator.new duration lateness aggInit : WindowAggregator Key Init _).process
        (.collecting Init Input) items).1
      ((WindowAggregator.new duration lateness aggInit : WindowAggregator Key Init _).emissions
        (.collecting Init Input) items) := by
  induction items using List.reverseRecOn with
  | nil => exact new duration lateness aggInit
  | append_singleton items item ih =>
    have hrun := Accounted.process duration lateness aggInit items
    rw [WindowAggregator.process_concat, WindowAggregator.emissions_concat]
    by_cases hlate : Late lateness items item
    · rw [hrun.processItem_late hlate]
      simpa using step_late hrun ih hlate
    · rw [hrun.processItem_onTime hlate]
      exact step_onTime hpos hrun ih hlate

end Timely

/-! ## Windows in time -/

namespace WindowAggregator

section Run

variable (agg : Aggregator Init Input Output A) (duration lateness : Nat) (aggInit : Init)
variable (items : List Input)

/-- The aggregator after the items. -/
def run : WindowAggregator Key Init A :=
  ((new duration lateness aggInit).process agg items).1

variable (before : List Input)

/-- The item is not handed back as late. -/
def Accepts (item : Input) : Prop :=
  ((run agg duration lateness aggInit before).processItem agg item).2.2 = []

theorem run_eq_image :
    (run agg duration lateness aggInit items : WindowAggregator Key Init A) =
      (run (.collecting Init Input) duration lateness aggInit items).image agg := by
  have h := process_image agg
    (new duration lateness aggInit : WindowAggregator Key Init (List Input)) items
  exact congrArg Prod.fst h

theorem accepts_iff (item : Input) :
    Accepts agg duration lateness aggInit before item ↔ ¬ Late lateness before item := by
  have hrun := Accounted.process duration lateness aggInit before
  rw [Accepts, run_eq_image, processItem_image, run]
  by_cases hlate : Late lateness before item
  · rw [hrun.processItem_late hlate]
    simp [hlate]
  · rw [hrun.processItem_onTime hlate]
    simp [hlate]

/-- The item that opened a window is among those on time. -/
theorem mem_onTime {items earlier later : List Input} {opener : Input}
    (hsplit : items = earlier ++ opener :: later)
    (haccepts : Accepts agg duration lateness aggInit earlier opener) :
    opener ∈ onTime lateness [] items := by
  have hlate := (accepts_iff agg duration lateness aggInit earlier opener).mp haccepts
  rw [hsplit, onTime_append, List.nil_append, onTime, if_neg hlate]
  simp

theorem emissions_eq :
    (new duration lateness aggInit : WindowAggregator Key Init A).emissions agg items =
      (new duration lateness aggInit : WindowAggregator Key Init (List Input)).emissions
        (.collecting Init Input) items :=
  emissions_image agg (new duration lateness aggInit) items

/-- The time of an item's key is the largest timestamp seen for it. -/
theorem exists_time (item : Input) :
    ∃ time, (run (.collecting Init Input) duration lateness aggInit
        (before ++ [item])).currentTime.lookup (getKey item) = some time ∧
      IsGreatest {t | ∃ b ∈ before ++ [item], getKey b = getKey item ∧ getTs b = t} time := by
  have hknows := (Accounted.process duration lateness aggInit (before ++ [item])).current
    (getKey item)
  change Knows _ _ ((run _ _ _ _ _).currentTime.lookup _) at hknows
  cases htime : (run (.collecting Init Input) duration lateness aggInit
    (before ++ [item])).currentTime.lookup (getKey item) with
  | none =>
    rw [htime] at hknows
    exact absurd rfl (hknows item (by simp))
  | some time =>
    rw [htime] at hknows
    exact ⟨time, rfl, hknows⟩

/-- Before the end of the input, windows of a key are emitted once each and in increasing
order, none before the latest timestamp seen for the key is the lateness past its end; and
when an item has been accepted, those opened so far that end the lateness and a minute before
this timestamp have been emitted, and none of them is left. -/
theorem windows_in_time {duration : Nat} (hpos : 0 < duration) (items : List Input) :
    ((new duration lateness aggInit : WindowAggregator Key Init A).emissions agg items).Nodup ∧
    (((new duration lateness aggInit : WindowAggregator Key Init A).emissions agg items).Pairwise
      fun a b => a.1 = b.1 → a.2.1 < b.2.1) ∧
    ∀ before item rest, items = before ++ item :: rest → ∃ time,
      IsGreatest {t | ∃ b ∈ before ++ [item], getKey b = getKey item ∧ getTs b = t} time ∧
      (∀ out ∈ ((run agg duration lateness aggInit before).processItem agg item).2.1,
        out.1.2 + lateness ≤ time) ∧
      (Accepts agg duration lateness aggInit before item →
        ∀ stop, stop + lateness + minute ≤ time →
        (∀ earlier opener later, before ++ [item] = earlier ++ opener :: later →
          Accepts agg duration lateness aggInit earlier opener → getKey opener = getKey item →
          getWindowStart (getTs opener) + (duration : Int) ≤ stop →
          (getKey item, getWindowStart (getTs opener),
              getWindowStart (getTs opener) + (duration : Int)) ∈
            (new duration lateness aggInit : WindowAggregator Key Init A).emissions agg
              (before ++ [item])) ∧
        ∀ windows start, (run agg duration lateness aggInit
            (before ++ [item])).activeWindows.lookup (getKey item) = some windows →
          start ∈ windows → stop < start + (duration : Int)) := by
  have hincreasing := (Timely.process hpos lateness aggInit items).increasing
  rw [emissions_eq]
  refine ⟨hincreasing.imp fun hlt heq => ?_, hincreasing, fun before item rest _ => ?_⟩
  · exact absurd (hlt (congrArg Prod.fst heq)) (heq ▸ lt_irrefl _)
  obtain ⟨time, htime, hgreatest⟩ := exists_time duration lateness aggInit before item
  have htimely := Timely.process hpos lateness aggInit (before ++ [item])
  -- no window that is active ends the lateness and a minute before the time
  have hahead : ∀ stop, stop + lateness + minute ≤ time → ∀ windows start,
      (run (.collecting Init Input) duration lateness aggInit
        (before ++ [item])).activeWindows.lookup (getKey item) = some windows →
      start ∈ windows → stop < start + (duration : Int) := by
    intro stop hstop windows start hwindows hstart
    obtain ⟨time', htime', hlt⟩ := htimely.ahead _ _ _ hwindows hstart
    obtain rfl := Option.some.inj (htime.symm.trans htime')
    have hfloor := (getWindowStart_le (time - lateness)).2
    omega
  refine ⟨time, hgreatest, fun out hout => ?_, fun _ stop hstop => ⟨?_, ?_⟩⟩
  · have hmem : (getKey item, out.1) ∈ (new duration lateness aggInit :
        WindowAggregator Key Init A).emissions agg (before ++ [item]) := by
      rw [emissions_concat]
      exact List.mem_append_right _ (List.mem_map_of_mem hout)
    rw [emissions_eq] at hmem
    obtain ⟨-, time', htime', hle⟩ := htimely.behind _ _ hmem
    obtain rfl := Option.some.inj (htime.symm.trans htime')
    have hfloor := (getWindowStart_le (time - lateness)).1
    omega
  · intro earlier opener later hsplit haccepts hkey hend
    rw [emissions_eq]
    rcases htimely.opened opener (mem_onTime agg duration lateness aggInit hsplit haccepts) with
      hlog | ⟨windows, hwindows, hstart⟩
    · exact hkey ▸ hlog
    · have := hahead stop hstop windows _ (hkey ▸ hwindows) hstart
      omega
  · intro windows start hwindows hstart
    rw [run_eq_image, image, lookup_mapValues, Option.map_eq_some_iff] at hwindows
    obtain ⟨windows, hwindows, rfl⟩ := hwindows
    refine hahead stop hstop windows start hwindows ?_
    rw [← lookup_isSome] at hstart ⊢
    rwa [lookup_mapValues, Option.isSome_map] at hstart

end Run

/-- The second item completes the window of the first, two minutes before it. -/
theorem samples_in_time :
    (1, 0, 60000000000) ∈ (new 60000000000 0 () : WindowAggregator Nat Unit (List Sample)).emissions
      (.collecting Unit Sample) [⟨1, 5⟩, ⟨1, 120000000000⟩] := by
  have hpos : 0 < 60000000000 := by decide
  obtain ⟨-, -, h⟩ := windows_in_time (.collecting Unit Sample) 0 () hpos samples
  obtain ⟨time, hgreatest, -, hemitted⟩ := h [⟨1, 5⟩] ⟨1, 120000000000⟩ [⟨1, 7⟩] rfl
  have htime : 120000000000 ≤ time := hgreatest.2 ⟨⟨1, 120000000000⟩, by simp, rfl, rfl⟩
  refine (hemitted rfl 60000000000 ?_).1 [] ⟨1, 5⟩ [⟨1, 120000000000⟩] rfl rfl rfl (by decide)
  rw [minute]
  omega

end WindowAggregator

end NetCalyx.Analytics
