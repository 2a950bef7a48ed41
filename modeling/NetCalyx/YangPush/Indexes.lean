import NetCalyx.YangPush.Storage

/-!
# The indexes of the cache

Three indexes are updated by hand in every operation. `Consistent` says how they should hang
together, and `Keeps` that a removal leaves the rest in place. Neither holds of all operations:
`Careful` says of which ones, and `consistent_iff_careful` that these are all.
-/

namespace NetCalyx.YangPush
open Collections Netconf Wire YangLibraryCache AList Option

variable {δ : Type} [DecidableEq δ]

namespace YangLibraryCache

/-- Subscriptions by id are stored, the references that are stored are those of the libraries,
and every library has a subscription. -/
structure Consistent (cache : YangLibraryCache δ) : Prop where
  byId : ∀ key info, cache.bySubscriptionId.lookup key = some info →
    (cache.bySubscriptionInfo.lookup info).isSome
  byInfo : ∀ info ref, cache.bySubscriptionInfo.lookup info = some ref →
    cache.byContentId.lookup ref.contentId = some ref
  used : ∀ contentId, (cache.byContentId.lookup contentId).isSome →
    ∃ info ref, cache.bySubscriptionInfo.lookup info = some ref ∧ ref.contentId = contentId

theorem consistent_new : (new : YangLibraryCache δ).Consistent :=
  ⟨by simp [new], by simp [new], by simp [new]⟩

/-- What a removal leaves in place: all other libraries, subscriptions and ids. -/
def Keeps (before after : YangLibraryCache δ) : Operation δ → Prop
  | .put _ _ _ => True
  | .removeContentId contentId =>
    (∀ other, other ≠ contentId →
      after.byContentId.lookup other = before.byContentId.lookup other) ∧
    (∀ info ref, before.bySubscriptionInfo.lookup info = some ref → ref.contentId ≠ contentId →
      after.bySubscriptionInfo.lookup info = some ref) ∧
    ∀ key info ref, before.bySubscriptionId.lookup key = some info →
      before.bySubscriptionInfo.lookup info = some ref → ref.contentId ≠ contentId →
      after.bySubscriptionId.lookup key = some info
  | .removeSubscription info =>
    (∀ contentId, (∀ ref, before.bySubscriptionInfo.lookup info = some ref →
        ref.contentId ≠ contentId) →
      after.byContentId.lookup contentId = before.byContentId.lookup contentId) ∧
    (∀ other, other ≠ info →
      after.bySubscriptionInfo.lookup other = before.bySubscriptionInfo.lookup other) ∧
    ∀ key other, before.bySubscriptionId.lookup key = some other → other ≠ info →
      after.bySubscriptionId.lookup key = some other

/-- A new library does not take over the only subscription of another one; a library is removed
only if the subscriptions that report its content id are those that are stored for it; and a
subscription only if its id is not in use for another one. -/
def Careful (cache : YangLibraryCache δ) : Operation δ → Prop
  | .put info lib _ =>
    cache.byContentId.lookup lib.contentId = none →
      ∀ ref, cache.bySubscriptionInfo.lookup info = some ref →
        ∃ other ref', other ≠ info ∧ cache.bySubscriptionInfo.lookup other = some ref' ∧
          ref'.contentId = ref.contentId
  | .removeContentId contentId =>
    (cache.byContentId.lookup contentId).isSome →
      ∀ key info ref, cache.bySubscriptionId.lookup key = some info →
        cache.bySubscriptionInfo.lookup info = some ref →
        (info.contentId = contentId ↔ ref.contentId = contentId)
  | .removeSubscription info =>
    (cache.bySubscriptionInfo.lookup info).isSome →
      ∀ other, cache.bySubscriptionId.lookup info.key = some other → other = info

/-! ## The operations on the indexes -/

variable {cache : YangLibraryCache δ}

variable {ref : YangLibraryReference} {info : SubscriptionInfo δ}

/-- A subscription that is found by its id is found by itself. -/
theorem Consistent.insertSubscription_byId (h : cache.Consistent) {key : IpAddr × Nat}
    {other : SubscriptionInfo δ}
    (hother : (cache.insertSubscription info ref).bySubscriptionId.lookup key = some other) :
    ((cache.insertSubscription info ref).bySubscriptionInfo.lookup other).isSome := by
  simp only [YangLibraryCache.insertSubscription, lookup_insert_ite] at hother ⊢
  split at hother
  · rw [if_pos (Option.some.inj hother).symm]
    rfl
  · split
    · rfl
    · exact h.byId key other hother

/-- A subscription for a library that is there. -/
theorem Consistent.insertSubscription (h : cache.Consistent) (info : SubscriptionInfo δ)
    (href : cache.byContentId.lookup ref.contentId = some ref)
    (hnew : cache.bySubscriptionInfo.lookup info = none) :
    (cache.insertSubscription info ref).Consistent := by
  refine ⟨fun key other hother => h.insertSubscription_byId hother, fun other ref' hother => ?_,
    fun contentId hsome => ?_⟩
  · simp only [YangLibraryCache.insertSubscription, lookup_insert_ite] at hother ⊢
    split at hother
    · rw [← Option.some.inj hother]
      exact href
    · exact h.byInfo other ref' hother
  · obtain ⟨other, ref', hother, heq⟩ := h.used contentId hsome
    refine ⟨other, ref', ?_, heq⟩
    rw [YangLibraryCache.insertSubscription, lookup_insert_ite, if_neg, hother]
    rintro rfl
    rw [hnew] at hother
    cases hother

/-- A new library with its first subscription. -/
theorem consistent_insert_iff (h : cache.Consistent) (info : SubscriptionInfo δ)
    (hnew : cache.byContentId.lookup ref.contentId = none) :
    ((cache.insertSubscription info ref).insertReference ref).Consistent ↔
      ∀ old, cache.bySubscriptionInfo.lookup info = some old →
        ∃ other ref', other ≠ info ∧ cache.bySubscriptionInfo.lookup other = some ref' ∧
          ref'.contentId = old.contentId := by
  have hother {contentId : String} {old : YangLibraryReference}
      (hold : cache.byContentId.lookup contentId = some old) : contentId ≠ ref.contentId := by
    rintro rfl
    rw [hnew] at hold
    cases hold
  constructor
  · intro hafter old hold
    have hlib := h.byInfo info old hold
    have hsome : ((cache.insertSubscription info ref).insertReference ref).byContentId.lookup
        old.contentId = some old := by
      simp [insertReference, YangLibraryCache.insertSubscription, hlib, hother hlib]
    obtain ⟨other, ref', hstored, heq⟩ := hafter.used old.contentId (by rw [hsome]; rfl)
    simp only [insertReference, YangLibraryCache.insertSubscription, lookup_insert_ite] at hstored
    split at hstored
    · rw [← Option.some.inj hstored] at heq
      exact absurd heq.symm (hother hlib)
    · rename_i hne
      exact ⟨other, ref', hne, hstored, heq⟩
  · intro hcare
    refine ⟨fun key other hkey => h.insertSubscription_byId hkey, fun other ref' hstored => ?_,
      fun contentId hsome => ?_⟩
    · simp only [insertReference, YangLibraryCache.insertSubscription, lookup_insert_ite]
        at hstored ⊢
      split at hstored
      · rw [← Option.some.inj hstored, if_pos rfl]
      · have hlib := h.byInfo other ref' hstored
        rw [if_neg (hother hlib), hlib]
    · simp only [insertReference, YangLibraryCache.insertSubscription, lookup_insert_ite]
        at hsome ⊢
      split at hsome
      · rename_i heq
        exact ⟨info, ref, if_pos rfl, heq.symm⟩
      · obtain ⟨other, ref', hstored, heq⟩ := h.used contentId hsome
        by_cases hinfo : other = info
        · subst hinfo
          obtain ⟨another, ref'', hne, hanother, heq'⟩ := hcare ref' hstored
          exact ⟨another, ref'', by rw [if_neg hne, hanother], heq'.trans heq⟩
        · exact ⟨other, ref', by rw [if_neg hinfo, hstored], heq⟩

theorem inUse_iff {contentId : String} :
    cache.inUse contentId = true ↔
      ∃ info ref, cache.bySubscriptionInfo.lookup info = some ref ∧ ref.contentId = contentId := by
  rw [inUse, List.any_eq_true]
  constructor
  · rintro ⟨⟨info, ref⟩, hentry, heq⟩
    exact ⟨info, ref, mem_lookup_iff.mpr hentry, by simpa using heq⟩
  · rintro ⟨info, ref, hlookup, heq⟩
    exact ⟨⟨info, ref⟩, mem_lookup_iff.mp hlookup, by simpa using heq⟩

/-- The removal of a library. -/
theorem consistent_dropContentId_iff (h : cache.Consistent) {contentId : String} :
    ((cache.dropContentId contentId).Consistent ∧
        Keeps cache (cache.dropContentId contentId) (.removeContentId contentId)) ↔
      ∀ key info ref, cache.bySubscriptionId.lookup key = some info →
        cache.bySubscriptionInfo.lookup info = some ref →
        (info.contentId = contentId ↔ ref.contentId = contentId) := by
  constructor
  · rintro ⟨hafter, -, -, hids⟩ key info ref hkey hinfo
    constructor
    · intro hreported
      by_contra hne
      have hleft := hids key info ref hkey hinfo hne
      simp [dropContentId, lookup_retain, hkey, hreported] at hleft
    · intro hstored
      by_contra hne
      have hkey' : (cache.dropContentId contentId).bySubscriptionId.lookup key = some info := by
        simp [dropContentId, lookup_retain, hkey, hne]
      have hgone := hafter.byId key info hkey'
      simp [dropContentId, lookup_retain, hinfo, hstored] at hgone
  · intro hcare
    refine ⟨⟨fun key info hkey => ?_, fun info ref hinfo => ?_, fun other hsome => ?_⟩,
      fun other hne => ?_, fun info ref hinfo hne => ?_, fun key info ref hkey hinfo hne => ?_⟩
    · simp only [dropContentId, lookup_retain, filter_eq_some_iff, bne_iff_ne] at hkey
      obtain ⟨ref, href⟩ := isSome_iff_exists.mp (h.byId key info hkey.1)
      have hne : ref.contentId ≠ contentId :=
        fun heq => hkey.2 ((hcare key info ref hkey.1 href).mpr heq)
      simp [dropContentId, lookup_retain, href, hne]
    · simp only [dropContentId, lookup_retain, filter_eq_some_iff, bne_iff_ne] at hinfo
      rw [dropContentId, lookup_erase_ite, if_neg hinfo.2]
      exact h.byInfo info ref hinfo.1
    · rw [dropContentId, lookup_erase_ite] at hsome
      split at hsome
      · cases hsome
      · rename_i hne
        obtain ⟨info, ref, hinfo, rfl⟩ := h.used other hsome
        exact ⟨info, ref, by simp [dropContentId, lookup_retain, hinfo, hne], rfl⟩
    · rw [dropContentId, lookup_erase_ite, if_neg hne]
    · simp [dropContentId, lookup_retain, hinfo, hne]
    · have hreported : info.contentId ≠ contentId :=
        fun heq => hne ((hcare key info ref hkey hinfo).mp heq)
      simp [dropContentId, lookup_retain, hkey, hreported]

/-- What is left without a subscription: its library is dropped if that is left without one, and
the other two indexes lose the subscription. -/
structure Dropped (cache : YangLibraryCache δ) (info : SubscriptionInfo δ)
    (ref : YangLibraryReference) (after : YangLibraryCache δ) : Prop where
  infos : ∀ other, after.bySubscriptionInfo.lookup other =
    if other = info then none else cache.bySubscriptionInfo.lookup other
  ids : ∀ key, after.bySubscriptionId.lookup key =
    if key = info.key then none else cache.bySubscriptionId.lookup key
  contents : ∀ contentId, contentId ≠ ref.contentId →
    after.byContentId.lookup contentId = cache.byContentId.lookup contentId
  library : after.byContentId.lookup ref.contentId =
    if after.inUse ref.contentId then cache.byContentId.lookup ref.contentId else none

theorem dropped (cache : YangLibraryCache δ) (info : SubscriptionInfo δ)
    (ref : YangLibraryReference) :
    Dropped cache info ref (if (cache.dropSubscription info).inUse ref.contentId
      then cache.dropSubscription info
      else (cache.dropSubscription info).dropReference ref.contentId) := by
  split
  · rename_i huse
    exact ⟨lookup_erase_ite _ _, lookup_erase_ite _ _, fun _ _ => rfl, (if_pos huse).symm⟩
  · rename_i huse
    exact ⟨lookup_erase_ite _ _, lookup_erase_ite _ _, fun _ hne => lookup_erase_ne hne,
      (lookup_erase _ _).trans (if_neg huse).symm⟩

section Dropped

variable {after : YangLibraryCache δ} (hdropped : Dropped cache info ref after)
include hdropped

theorem Dropped.consistent (h : cache.Consistent)
    (hinfo : cache.bySubscriptionInfo.lookup info = some ref) : after.Consistent := by
  refine ⟨fun key other hkey => ?_, fun other ref' hother => ?_, fun contentId hsome => ?_⟩
  · rw [hdropped.ids, ite_none_left_eq_some] at hkey
    rw [hdropped.infos, if_neg]
    · exact h.byId key other hkey.2
    · rintro rfl
      exact hkey.1 (key_of_lookup hkey.2).symm
  · have hbefore := hother
    rw [hdropped.infos, ite_none_left_eq_some] at hbefore
    have hlib := h.byInfo other ref' hbefore.2
    by_cases heq : ref'.contentId = ref.contentId
    · -- the library is still in use
      rw [heq, hdropped.library, if_pos (inUse_iff.mpr ⟨other, ref', hother, heq⟩), ← heq, hlib]
    · rw [hdropped.contents _ heq, hlib]
  · by_cases heq : contentId = ref.contentId
    · rw [heq, hdropped.library] at hsome
      split at hsome
      · rename_i huse
        exact heq ▸ inUse_iff.mp huse
      · cases hsome
    · rw [hdropped.contents _ heq] at hsome
      obtain ⟨other, ref', hother, hsame⟩ := h.used contentId hsome
      refine ⟨other, ref', ?_, hsame⟩
      rw [hdropped.infos, if_neg, hother]
      rintro rfl
      rw [hinfo] at hother
      exact heq (Option.some.inj hother ▸ hsame).symm

/-- Nothing else is lost exactly if the id is not in use for another subscription. -/
theorem Dropped.keeps_iff (hinfo : cache.bySubscriptionInfo.lookup info = some ref) :
    Keeps cache after (.removeSubscription info) ↔
      ∀ other, cache.bySubscriptionId.lookup info.key = some other → other = info := by
  constructor
  · rintro ⟨-, -, hkeep⟩ other hother
    by_contra hne
    have hleft := hkeep info.key other hother hne
    rw [hdropped.ids, if_pos rfl] at hleft
    cases hleft
  · intro hcare
    refine ⟨fun contentId hne => hdropped.contents contentId (hne ref hinfo).symm,
      fun other hne => by rw [hdropped.infos, if_neg hne], fun key other hkey hne => ?_⟩
    rw [hdropped.ids, if_neg, hkey]
    rintro rfl
    exact hne (hcare other hkey)

end Dropped

end YangLibraryCache

/-! ## Steps -/

namespace Store

variable {same : YangLibrary → YangLibrary → Bool} {store store' : Store δ}

section Except

variable {ε α β : Type} {x : Except ε α} {f : α → β} {b : β}

theorem eq_ok_of_bind {f : α → Except ε β} (h : x >>= f = .ok b) :
    ∃ a, x = .ok a ∧ f a = .ok b := by
  cases x with
  | error e => cases h
  | ok a => exact ⟨a, rfl, h⟩

theorem eq_ok_of_toOption (h : (x.map f).toOption = some b) : ∃ a, x = .ok a ∧ f a = b := by
  cases x with
  | error e => cases h
  | ok a => exact ⟨a, rfl, Option.some.inj h⟩

end Except

/-- What putting a library comes to. -/
theorem putYangLibrary_ok {lib : YangLibrary} {schemas : Map String String}
    (h : store.putYangLibrary same info lib schemas = .ok (ref, store')) :
    (store.cache.byContentId.lookup lib.contentId = some ref ∧
      (store.cache.bySubscriptionInfo.lookup info).isSome ∧ store' = store) ∨
    (store.cache.byContentId.lookup lib.contentId = some ref ∧
      store.cache.bySubscriptionInfo.lookup info = none ∧
      store'.cache = store.cache.insertSubscription info ref ∧
      ref.appendSubscriptionInfo info store.disk = .ok store'.disk) ∨
    (store.cache.byContentId.lookup lib.contentId = none ∧
      ref = ⟨lib.contentId, lib.contentId⟩ ∧
      store'.cache = (store.cache.insertSubscription info ref).insertReference ref ∧
      saveToDisk same store.disk lib schemas [info] = .ok (ref, store'.disk)) := by
  rw [putYangLibrary] at h
  split at h
  · rename_i existing hlookup
    split at h
    · rename_i hmem
      cases h
      exact .inl ⟨hlookup, lookup_isSome.mpr hmem, rfl⟩
    · rename_i hmem
      obtain ⟨disk, happend, hdone⟩ := eq_ok_of_bind h
      cases hdone
      exact .inr (.inl ⟨hlookup, lookup_eq_none.mpr hmem, rfl, happend⟩)
  · rename_i hlookup
    obtain ⟨⟨ref', disk⟩, hsave, hdone⟩ := eq_ok_of_bind h
    cases hdone
    refine .inr (.inr ⟨hlookup, ?_, rfl, hsave⟩)
    rw [saveToDisk] at hsave
    split at hsave
    · split at hsave
      · cases hsave
        rfl
      · cases hsave
    · cases hsave
      rfl

omit [DecidableEq δ] in
theorem removeByContentId_ok {contentId : String}
    (h : store.removeByContentId contentId = .ok store') :
    (store.cache.byContentId.lookup contentId = none ∧ store' = store) ∨
    ∃ ref, store.cache.byContentId.lookup contentId = some ref ∧
      store' = ⟨store.cache.dropContentId contentId, store.disk.erase ref.directory⟩ := by
  rw [removeByContentId] at h
  split at h
  · rename_i hlookup
    cases h
    exact .inl ⟨hlookup, rfl⟩
  · rename_i ref hlookup
    split at h
    · cases h
      exact .inr ⟨ref, hlookup, rfl⟩
    · cases h

theorem removeBySubscriptionInfo_ok {removed : Option (SubscriptionInfo δ)}
    (h : store.removeBySubscriptionInfo info = .ok (removed, store')) :
    (store.cache.bySubscriptionInfo.lookup info = none ∧ store' = store) ∨
    ∃ ref, store.cache.bySubscriptionInfo.lookup info = some ref ∧
      (store.cache.byContentId.lookup ref.contentId = none ∧
        store' = ⟨store.cache.dropSubscription info, store.disk⟩ ∨
      ∃ stored disk, store.cache.byContentId.lookup ref.contentId = some stored ∧
        stored.removeSubscriptionInfo info store.disk = .ok disk ∧
        store' = if (store.cache.dropSubscription info).inUse ref.contentId
          then ⟨store.cache.dropSubscription info, disk⟩
          else ⟨(store.cache.dropSubscription info).dropReference ref.contentId,
            disk.erase stored.contentId⟩) := by
  rw [removeBySubscriptionInfo] at h
  split at h
  · rename_i hlookup
    cases h
    exact .inl ⟨hlookup, rfl⟩
  · rename_i ref hlookup
    refine .inr ⟨ref, hlookup, ?_⟩
    simp only at h
    split at h
    · rename_i hnone
      cases h
      exact .inl ⟨hnone, rfl⟩
    · rename_i stored hstored
      obtain ⟨disk, hremove, hdone⟩ := eq_ok_of_bind h
      refine .inr ⟨stored, disk, hstored, hremove, ?_⟩
      split at hdone
      · rename_i huse
        rw [if_pos huse]
        cases hdone
        rfl
      · rename_i huse
        rw [if_neg huse]
        cases hdone
        rfl

/-- Wherever the indexes are consistent, an operation leaves them so and keeps what it should
if and only if it is careful. -/
theorem step_iff (h : store.cache.Consistent) {op : Operation δ}
    (hstep : store.step same op = some store') :
    (store'.cache.Consistent ∧ store.cache.Keeps store'.cache op) ↔ store.cache.Careful op := by
  cases op with
  | put info lib schemas =>
    obtain ⟨result, hput, rfl⟩ := eq_ok_of_toOption hstep
    simp only [YangLibraryCache.Keeps, and_true, YangLibraryCache.Careful]
    rcases putYangLibrary_ok hput with ⟨hlookup, -, hsame⟩ | ⟨hlookup, hnew, hcache, -⟩ |
      ⟨hlookup, href, hcache, -⟩
    · simp [hsame, hlookup, h]
    · have hlib : store.cache.byContentId.lookup result.1.contentId = some result.1 := by
        rw [contentId_of_lookup hlookup, hlookup]
      simp [hcache, h.insertSubscription info hlib hnew, hnew]
    · have hnone : store.cache.byContentId.lookup result.1.contentId = none := by
        rw [href, hlookup]
      rw [hcache, consistent_insert_iff h info hnone]
      simp [hlookup]
  | removeContentId contentId =>
    have hremove : store.removeByContentId contentId = .ok store' := by
      rw [step] at hstep
      cases hremove : store.removeByContentId contentId with
      | error e => rw [hremove] at hstep; cases hstep
      | ok result => rw [hremove] at hstep; rw [Option.some.inj hstep]
    rcases removeByContentId_ok hremove with ⟨hlookup, rfl⟩ | ⟨ref, hlookup, rfl⟩
    · simp +contextual [YangLibraryCache.Careful, YangLibraryCache.Keeps, hlookup, h]
    · rw [consistent_dropContentId_iff h]
      simp [YangLibraryCache.Careful, hlookup]
  | removeSubscription info =>
    obtain ⟨result, hremove, rfl⟩ := eq_ok_of_toOption hstep
    rcases removeBySubscriptionInfo_ok hremove with ⟨hlookup, hsame⟩ | ⟨ref, hlookup, hcases⟩
    · simp +contextual [YangLibraryCache.Careful, YangLibraryCache.Keeps, hlookup, h, hsame]
    · rcases hcases with ⟨hnone, -⟩ | ⟨stored, disk, -, -, hafter⟩
      · rw [h.byInfo info ref hlookup] at hnone
        cases hnone
      · have hdropped := dropped store.cache info ref
        have hcache := congrArg Store.cache hafter
        simp only [apply_ite Store.cache] at hcache
        rw [← hcache] at hdropped
        rw [and_iff_right (hdropped.consistent h hlookup), hdropped.keeps_iff hlookup]
        simp [YangLibraryCache.Careful, hlookup]

end Store

/-- Along every run of operations that succeed, the indexes are consistent after each one and
each removal leaves the rest in place, if and only if each operation is careful. -/
theorem consistent_iff_careful (same : YangLibrary → YangLibrary → Bool) (disk : Disk δ)
    (ops : List (Operation δ)) :
    Stepwise.Along (Store.step same) (fun store op store' =>
        store'.cache.Consistent ∧ store.cache.Keeps store'.cache op)
      ⟨YangLibraryCache.new, disk⟩ ops ↔
    Stepwise.Along (Store.step same) (fun store op _ => store.cache.Careful op)
      ⟨YangLibraryCache.new, disk⟩ ops := by
  apply Stepwise.along_iff fun store => store.cache.Consistent
  · exact fun _ _ _ h hstep => Store.step_iff h hstep
  · exact fun _ _ _ h hstep hcare => ((Store.step_iff h hstep).mpr hcare).1
  · exact consistent_new

/-- A library without modules. -/
def emptyLibrary (contentId : String) : YangLibrary := ⟨contentId, [], [], []⟩

/-- A subscription of one device, with the content id that it reports. -/
def subscription (id : Nat) (contentId : String) : SubscriptionInfo Unit :=
  ⟨.v4 0, id, contentId, ()⟩

/-- The content id that the device reported is not that of the library: when the library is
removed, the id still leads to the subscription, which is gone. -/
theorem id_left_behind :
    ∃ store, Stepwise.run (Store.step fun _ _ => true) ⟨YangLibraryCache.new, ∅⟩
        [.put (subscription 1 "reported") (emptyLibrary "fetched") ∅,
          .removeContentId "fetched"] = some store ∧
      store.cache.bySubscriptionId.lookup (.v4 0, 1) = some (subscription 1 "reported") ∧
      store.cache.bySubscriptionInfo.lookup (subscription 1 "reported") = none ∧
      ¬ store.cache.Consistent :=
  ⟨_, rfl, rfl, rfl, fun h => absurd (h.byId (.v4 0, 1) (subscription 1 "reported") rfl) (by decide)⟩

/-! ## Putting and getting -/

/-- What putting a library should do: the subscription leads to it, by itself and by its id, and
no other lookup changes. -/
structure PutLaw (before after : YangLibraryCache δ) (info : SubscriptionInfo δ)
    (lib : YangLibrary) (ref : YangLibraryReference) : Prop where
  content : ref.contentId = lib.contentId
  byInfo : after.getBySubscriptionInfo info = some ref
  byId : after.getBySubscriptionId info.peerIp info.id = some (info, some ref)
  otherInfos : ∀ other, other ≠ info →
    after.getBySubscriptionInfo other = before.getBySubscriptionInfo other
  otherContents : ∀ contentId, contentId ≠ lib.contentId →
    after.getByContentId contentId = before.getByContentId contentId

/-- The law holds where the subscription is inserted, whatever becomes of the library. -/
theorem putLaw_insert {before after : YangLibraryCache δ} {lib : YangLibrary}
    (hcontent : ref.contentId = lib.contentId)
    (hinfos : after.bySubscriptionInfo = (before.insertSubscription info ref).bySubscriptionInfo)
    (hids : after.bySubscriptionId = (before.insertSubscription info ref).bySubscriptionId)
    (hcontents : ∀ contentId, contentId ≠ lib.contentId → after.byContentId.lookup contentId = before.byContentId.lookup contentId)
    :
    PutLaw before after info lib ref := by
  have hinfo : after.bySubscriptionInfo.lookup info = some ref := by
    rw [hinfos]
    exact lookup_insert _
  refine ⟨hcontent, hinfo, ?_, fun other hne => ?_, hcontents⟩
  · have hid : after.bySubscriptionId.lookup info.key = some info := by
      rw [hids]
      exact lookup_insert _
    change (after.bySubscriptionId.lookup info.key).map _ = _
    rw [hid, map_some, hinfo]
  · rw [getBySubscriptionInfo, hinfos]
    exact lookup_insert_ne hne

/-- The law holds of a put that succeeds unless both the library and the subscription are known
already; then it holds if the subscription leads to this library, by its id too. -/
theorem put_law_iff (same : YangLibrary → YangLibrary → Bool) (store store' : Store δ)
    (info : SubscriptionInfo δ) (lib : YangLibrary) (schemas : Map String String)
    (ref : YangLibraryReference)
    (h : store.putYangLibrary same info lib schemas = .ok (ref, store')) :
    PutLaw store.cache store'.cache info lib ref ↔
      ((store.cache.getByContentId lib.contentId).isSome →
        (store.cache.getBySubscriptionInfo info).isSome →
        store.cache.getBySubscriptionInfo info = store.cache.getByContentId lib.contentId ∧
          store.cache.bySubscriptionId.lookup info.key = some info) := by
  rcases Store.putYangLibrary_ok h with ⟨hlookup, hknown, rfl⟩ | ⟨hlookup, hnew, hcache, -⟩ |
    ⟨hlookup, href, hcache, -⟩
  · have hcontent := contentId_of_lookup hlookup
    simp only [getByContentId, hlookup, isSome_some, true_implies,
      getBySubscriptionInfo, hknown]
    constructor
    · intro hlaw
      refine ⟨hlaw.byInfo, ?_⟩
      obtain ⟨info', hinfo', heq⟩ := map_eq_some_iff.mp hlaw.byId
      rw [← (Prod.mk.inj heq).1]
      exact (Prod.mk.inj heq).1 ▸ hinfo'
    · rintro ⟨hinfo, hid⟩
      refine ⟨hcontent, hinfo, ?_, fun _ _ => rfl, fun _ _ => rfl⟩
      change (store'.cache.bySubscriptionId.lookup info.key).map _ = _
      rw [hid, map_some, hinfo]
  · have hlaw : PutLaw store.cache store'.cache info lib ref :=
      putLaw_insert (contentId_of_lookup hlookup) (by rw [hcache]) (by rw [hcache])
        fun _ _ => by rw [hcache]; rfl
    simp [hlaw, getBySubscriptionInfo, hnew]
  · have hlaw : PutLaw store.cache store'.cache info lib ref := by
      refine putLaw_insert (by rw [href]) (by rw [hcache]; rfl) (by rw [hcache]; rfl) fun _ hne => ?_
      rw [hcache]
      exact lookup_insert_ne (by rwa [href])
    simp [hlaw, getByContentId, hlookup]

/-- A store with the libraries of two subscriptions. -/
def twoLibraries : List (Operation Unit) :=
  [.put (subscription 1 "reported") (emptyLibrary "old") ∅,
    .put (subscription 2 "reported") (emptyLibrary "new") ∅]

/-- A third library is found among them. -/
theorem third_library_found :
    ∃ store store' ref,
      Stepwise.run (Store.step fun _ _ => true) ⟨YangLibraryCache.new, ∅⟩ twoLibraries = some store ∧
      store.putYangLibrary (fun _ _ => true) (subscription 3 "reported") (emptyLibrary "fetched") ∅ =
        .ok (ref, store') ∧
      PutLaw store.cache store'.cache (subscription 3 "reported") (emptyLibrary "fetched") ref :=
  ⟨_, _, _, rfl, rfl, (put_law_iff (fun _ _ => true) _ _ _ _ ∅ _ rfl).mpr (by decide)⟩

/-- A subscription that was fetched again with a library that is known for another subscription
still leads to its old library. -/
theorem old_library_found :
    ∃ store store' ref,
      Stepwise.run (Store.step fun _ _ => true) ⟨YangLibraryCache.new, ∅⟩ twoLibraries = some store ∧
      store.putYangLibrary (fun _ _ => true) (subscription 1 "reported") (emptyLibrary "new") ∅ =
        .ok (ref, store') ∧
      store'.cache.getBySubscriptionInfo (subscription 1 "reported") = some ⟨"old", "old"⟩ ∧
      ref = ⟨"new", "new"⟩ ∧
      ¬ PutLaw store.cache store'.cache (subscription 1 "reported") (emptyLibrary "new") ref :=
  ⟨_, _, _, rfl, rfl, rfl, rfl, fun h => absurd h.byInfo (by decide)⟩

end NetCalyx.YangPush
