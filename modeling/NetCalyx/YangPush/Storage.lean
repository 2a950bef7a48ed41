import NetCalyx.Netconf.YangLibrary
import NetCalyx.Runs.Stepwise
import NetCalyx.Wire.IpNet

/-!
# The cache of YANG libraries

The cache knows libraries by their content ids and by the subscriptions they were fetched for,
and the subscriptions of a device by their ids. Every library has a directory on disk with the
library itself, its subscriptions and the texts of its modules. A cache can be loaded from there.

A subscription has a content id of its own, which is the one the device reported; the content
id of a library is a fingerprint of what was fetched.
-/

namespace NetCalyx.YangPush
open Collections Netconf Wire

/-- A subscription: the device, its id there, the content id that the device reported, and all
the rest. -/
structure SubscriptionInfo (δ : Type) where
  peerIp : IpAddr
  id : Nat
  contentId : String
  details : δ
  deriving DecidableEq

namespace SubscriptionInfo

variable {δ : Type}

def key (info : SubscriptionInfo δ) : IpAddr × Nat := (info.peerIp, info.id)

/-- The placeholder for a subscription of which only the id is known; `empty` is the rest of it. -/
def newEmpty (empty : δ) (peerIp : IpAddr) (id : Nat) : SubscriptionInfo δ :=
  ⟨peerIp, id, "EMPTY", empty⟩

def isEmpty (info : SubscriptionInfo δ) : Bool := info.contentId == "EMPTY"

end SubscriptionInfo

/-- A library on disk: its content id and its directory under the root of the cache. -/
structure YangLibraryReference where
  contentId : String
  directory : String
  deriving DecidableEq, Repr

variable {δ : Type} [DecidableEq δ]

/-! ## Files -/

/-- The files of a library. -/
structure Directory (δ : Type) where
  library : YangLibrary
  subscriptionsInfo : List (SubscriptionInfo δ)
  modules : Map String String

abbrev Disk (δ : Type) := Map String (Directory δ)

inductive YangLibraryCacheError where
  | duplicateYangLibrary (directory : String)
  | ioError (directory : String)
  | schemaLoadingError (moduleName : String)

def fileName (name : String) : Option String → String
  | some revision => name ++ "@" ++ revision ++ ".yang"
  | none => name ++ ".yang"

/-- The revision under which a text is saved: that of the module of its name, of the first
version of an import-only module, or of a submodule. -/
def savedRevision (lib : YangLibrary) (name : String) : Option String :=
  match lib.findModule name with
  | some m => m.revision
  | none =>
    match lib.findImportModule name with
    | some versions => versions.head?.bind (·.revision)
    | none => (lib.findSubmodule name).bind (·.revision)

def saveModules (lib : YangLibrary) (schemas files : Map String String) : Map String String :=
  schemas.entries.foldl
    (fun files entry => files.insert (fileName entry.1 (savedRevision lib entry.1)) entry.2) files

/-- Creates the directory of a library, or adds to the one that is there if it holds the same
library; `same` is equality of libraries. -/
def saveToDisk (same : YangLibrary → YangLibrary → Bool) (disk : Disk δ) (lib : YangLibrary)
    (schemas : Map String String) (infos : List (SubscriptionInfo δ)) :
    Except YangLibraryCacheError (YangLibraryReference × Disk δ) :=
  let reference : YangLibraryReference := ⟨lib.contentId, lib.contentId⟩
  match disk.lookup lib.contentId with
  | some dir =>
    if same dir.library lib then
      .ok (reference, disk.insert lib.contentId
        ⟨dir.library, (dir.subscriptionsInfo ++ infos).dedup, saveModules lib schemas dir.modules⟩)
    else .error (.duplicateYangLibrary lib.contentId)
  | none =>
    .ok (reference, disk.insert lib.contentId ⟨lib, infos, saveModules lib schemas ∅⟩)

namespace YangLibraryReference

variable (ref : YangLibraryReference)

def appendSubscriptionInfo (info : SubscriptionInfo δ) (disk : Disk δ) :
    Except YangLibraryCacheError (Disk δ) :=
  match disk.lookup ref.directory with
  | none => .error (.ioError ref.directory)
  | some dir =>
    .ok (if info ∈ dir.subscriptionsInfo then disk
      else disk.insert ref.directory
        { dir with subscriptionsInfo := dir.subscriptionsInfo ++ [info] })

def removeSubscriptionInfo (info : SubscriptionInfo δ) (disk : Disk δ) :
    Except YangLibraryCacheError (Disk δ) :=
  match disk.lookup ref.directory with
  | none => .error (.ioError ref.directory)
  | some dir =>
    .ok (disk.insert ref.directory
      { dir with subscriptionsInfo := dir.subscriptionsInfo.filter (· ≠ info) })

end YangLibraryReference

/-! ## Indexes -/

/-- The three indexes. The last one is a map of maps, of the ids of each device. -/
structure YangLibraryCache (δ : Type) where
  byContentId : Map String YangLibraryReference
  bySubscriptionInfo : Map (SubscriptionInfo δ) YangLibraryReference
  bySubscriptionId : Map (IpAddr × Nat) (SubscriptionInfo δ)
  keyed : ∀ entry ∈ byContentId.entries, entry.2.contentId = entry.1
  filed : ∀ entry ∈ bySubscriptionId.entries, entry.2.key = entry.1

namespace YangLibraryCache

omit [DecidableEq δ] in
theorem contentId_of_lookup {cache : YangLibraryCache δ} {contentId : String}
    {ref : YangLibraryReference} (h : cache.byContentId.lookup contentId = some ref) :
    ref.contentId = contentId :=
  cache.keyed ⟨contentId, ref⟩ (AList.mem_lookup_iff.mp h)

omit [DecidableEq δ] in
theorem key_of_lookup {cache : YangLibraryCache δ} {key : IpAddr × Nat}
    {info : SubscriptionInfo δ} (h : cache.bySubscriptionId.lookup key = some info) :
    info.key = key :=
  cache.filed ⟨key, info⟩ (AList.mem_lookup_iff.mp h)

def new : YangLibraryCache δ := ⟨∅, ∅, ∅, by simp, by simp⟩

variable (cache : YangLibraryCache δ)

def insertReference (ref : YangLibraryReference) : YangLibraryCache δ :=
  { cache with
    byContentId := cache.byContentId.insert ref.contentId ref
    keyed := by
      intro entry hentry
      rw [← AList.mem_lookup_iff, Option.mem_def, lookup_insert_ite] at hentry
      split at hentry
      · rename_i heq
        rw [← Option.some.inj hentry, heq]
      · exact contentId_of_lookup hentry }

variable (info : SubscriptionInfo δ)

def insertSubscription (ref : YangLibraryReference) : YangLibraryCache δ :=
  { cache with
    bySubscriptionInfo := cache.bySubscriptionInfo.insert info ref
    bySubscriptionId := cache.bySubscriptionId.insert info.key info
    filed := by
      intro entry hentry
      rw [← AList.mem_lookup_iff, Option.mem_def, lookup_insert_ite] at hentry
      split at hentry
      · rename_i heq
        rw [← Option.some.inj hentry, heq]
      · exact key_of_lookup hentry }

variable (contentId : String)

/-- Subscriptions by id are dropped by the content id that the device reported. -/
def dropContentId : YangLibraryCache δ where
  byContentId := cache.byContentId.erase contentId
  bySubscriptionInfo :=
    retain (fun _ ref => ref.contentId != contentId) cache.bySubscriptionInfo
  bySubscriptionId := retain (fun _ info => info.contentId != contentId) cache.bySubscriptionId
  keyed := fun _ h => cache.keyed _ ((List.kerase_sublist _ _).subset h)
  filed := fun _ h => cache.filed _ (List.mem_of_mem_filter h)

def dropSubscription : YangLibraryCache δ :=
  { cache with
    bySubscriptionInfo := cache.bySubscriptionInfo.erase info
    bySubscriptionId := cache.bySubscriptionId.erase info.key
    filed := fun _ h => cache.filed _ ((List.kerase_sublist _ _).subset h) }

def dropReference : YangLibraryCache δ :=
  { cache with
    byContentId := cache.byContentId.erase contentId
    keyed := fun _ h => cache.keyed _ ((List.kerase_sublist _ _).subset h) }

/-- Some subscription is stored for the library. -/
def inUse : Bool :=
  cache.bySubscriptionInfo.entries.any fun entry => entry.2.contentId == contentId

/-! ## Lookups -/

def getBySubscriptionInfo : Option YangLibraryReference :=
  cache.bySubscriptionInfo.lookup info

def getByContentId : Option YangLibraryReference :=
  cache.byContentId.lookup contentId

def getBySubscriptionId (peerIp : IpAddr) (id : Nat) :
    Option (SubscriptionInfo δ × Option YangLibraryReference) :=
  (cache.bySubscriptionId.lookup (peerIp, id)).map fun info =>
    (info, cache.bySubscriptionInfo.lookup info)

end YangLibraryCache

/-! ## Operations -/

/-- A cache and the disk that it writes to. -/
structure Store (δ : Type) where
  cache : YangLibraryCache δ
  disk : Disk δ

namespace Store

variable (store : Store δ)

/-- A library that is known is not saved again, and its subscription is stored only if it is new.
-/
def putYangLibrary (same : YangLibrary → YangLibrary → Bool) (info : SubscriptionInfo δ)
    (lib : YangLibrary) (schemas : Map String String) :
    Except YangLibraryCacheError (YangLibraryReference × Store δ) :=
  match store.cache.byContentId.lookup lib.contentId with
  | some existing =>
    if info ∈ store.cache.bySubscriptionInfo then .ok (existing, store)
    else do
      let disk ← existing.appendSubscriptionInfo info store.disk
      pure (existing, ⟨store.cache.insertSubscription info existing, disk⟩)
  | none => do
    let (ref, disk) ← saveToDisk same store.disk lib schemas [info]
    pure (ref, ⟨(store.cache.insertSubscription info ref).insertReference ref, disk⟩)

def removeByContentId (contentId : String) : Except YangLibraryCacheError (Store δ) :=
  match store.cache.byContentId.lookup contentId with
  | none => .ok store
  | some ref =>
    if ref.directory ∈ store.disk then
      .ok ⟨store.cache.dropContentId contentId, store.disk.erase ref.directory⟩
    else .error (.ioError ref.directory)

/-- The library of the last subscription goes with it. -/
def removeBySubscriptionInfo (info : SubscriptionInfo δ) :
    Except YangLibraryCacheError (Option (SubscriptionInfo δ) × Store δ) :=
  match store.cache.bySubscriptionInfo.lookup info with
  | none => .ok (none, store)
  | some ref =>
    let cache := store.cache.dropSubscription info
    match cache.byContentId.lookup ref.contentId with
    | none => .ok (some info, ⟨cache, store.disk⟩)
    | some stored => do
      let disk ← stored.removeSubscriptionInfo info store.disk
      if cache.inUse ref.contentId then pure (some info, ⟨cache, disk⟩)
      else
        pure (some info, ⟨cache.dropReference ref.contentId, disk.erase stored.contentId⟩)

end Store

/-- The operations that change a store. -/
inductive Operation (δ : Type) where
  | put (info : SubscriptionInfo δ) (lib : YangLibrary) (schemas : Map String String)
  | removeContentId (contentId : String)
  | removeSubscription (info : SubscriptionInfo δ)

/-- An operation that succeeds. -/
def Store.step (same : YangLibrary → YangLibrary → Bool) (store : Store δ) :
    Operation δ → Option (Store δ)
  | .put info lib schemas => ((store.putYangLibrary same info lib schemas).map (·.2)).toOption
  | .removeContentId contentId => (store.removeByContentId contentId).toOption
  | .removeSubscription info => ((store.removeBySubscriptionInfo info).map (·.2)).toOption

end NetCalyx.YangPush
