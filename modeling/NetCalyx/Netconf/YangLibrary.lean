import Mathlib.Data.String.Basic
import NetCalyx.Collections.Map
import NetCalyx.Wire.Octets

/-!
# YANG libraries

A device lists what it implements in a YANG library (RFC 8525): sets of modules with their
submodules, and of modules that are only there to be imported.
-/

namespace NetCalyx.Netconf
open Wire Collections

/-! ## Module sets -/

@[ext]
structure Submodule where
  name : String
  revision : Option String

structure Module where
  name : String
  revision : Option String
  feature : List String
  deviation : List String
  submodule : List Submodule
  augmentedBy : List String

structure ImportOnlyModule where
  name : String
  revision : Option String
  submodules : Map String Submodule

/-- Modules by their names, and import-only modules by their names and revisions. -/
structure ModuleSet where
  name : String
  modules : Map String Module
  importOnlyModules : Map String (Map (Option String) ImportOnlyModule)
  modules_named : ∀ entry ∈ modules.entries, entry.2.name = entry.1
  importOnly_named : ∀ entry ∈ importOnlyModules.entries, ∀ version ∈ entry.2.entries,
    version.2.name = entry.1 ∧ version.2.revision = version.1

inductive DatastoreName where
  | running | candidate | startUp | intended | operational
  | unknown (ns name : String)

structure Datastore where
  name : DatastoreName
  schema : String

structure Schema where
  name : String
  modulesSet : List String

structure YangLibrary where
  contentId : String
  modulesSet : List ModuleSet
  schemas : List Schema
  datastores : List Datastore

namespace YangLibrary

variable (lib : YangLibrary)

def findModule (name : String) : Option Module :=
  lib.modulesSet.findSome? fun set => set.modules.lookup name

/-- The first submodule of that name under an implemented module. -/
def findSubmodule (name : String) : Option Submodule :=
  lib.modulesSet.findSome? fun set =>
    set.modules.entries.findSome? fun entry => entry.2.submodule.find? (·.name == name)

def findImportModule (name : String) : Option (List ImportOnlyModule) :=
  lib.modulesSet.findSome? fun set =>
    (set.importOnlyModules.lookup name).map fun versions => versions.entries.map (·.2)

end YangLibrary

end NetCalyx.Netconf
