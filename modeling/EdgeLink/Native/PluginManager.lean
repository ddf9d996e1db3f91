import EdgeLink.ForStd.CText
import EdgeLink.ForStd.TransitionSystem
import EdgeLink.ForStd.UnorderedMap
import EdgeLink.Native.Message

/-! # Plugin manager

`plugin_manager.cpp`: the map `plugins_`, and the calls that the manager makes on libraries
and plugins. What the dynamic linker and the plugins answer comes with each operation.

A handle and a `Plugin*` are numbers. `dlopen` may give the same handle again for a library
that is open; `createPlugin` gives an object that is not one of those in use. -/

namespace EdgeLink

open CText

/-- `PluginManager::LoadedPlugin`; the pointers of an entry are never null. -/
structure LoadedPlugin where
  handle : Nat
  object : Nat
  started : Bool
  path : Bytes
deriving DecidableEq

/-- A call on a library or a plugin. -/
inductive PluginCall where
  /-- `dlopen`, not null. -/
  | opened (handle : Nat)
  /-- `dlclose`, whatever it returns. -/
  | closed (handle : Nat)
  /-- `createPlugin`, not null. -/
  | created (handle object : Nat)
  | destroyed (handle object : Nat)
  /-- `Plugin::start` and what it returned. -/
  | start (object : Nat) (success : Bool)
  | stop (object : Nat)
deriving DecidableEq

/-- The manager and the calls that it has made, oldest first. -/
structure PluginManager where
  plugins : UnorderedMap Bytes LoadedPlugin
  calls : List PluginCall

/-- What `loadPlugin` is told by the linker and by the new plugin. -/
structure LoadOutcome where
  /-- `dlopen`. -/
  handle : Option Nat
  /-- `dlsym` finds `createPlugin`. -/
  findsCreate : Bool
  /-- `dlsym` finds `destroyPlugin`. -/
  findsDestroy : Bool
  /-- `createPlugin`. -/
  object : Option Nat
  /-- `Plugin::name`. -/
  name : Option Bytes
  /-- `Plugin::initialize`. -/
  initialized : Bool

namespace PluginManager

/-- The manager makes a call. -/
def call (manager : PluginManager) (made : PluginCall) : PluginManager :=
  { manager with calls := manager.calls ++ [made] }

/-- A manager without plugins. -/
def initial : PluginManager := ⟨.empty, []⟩

/-- The way out of `loadPlugin` when the new plugin is not taken. -/
def discard (manager : PluginManager) (handle object : Nat) : PluginManager :=
  (manager.call (.destroyed handle object)).call (.closed handle)

/-- `PluginManager::loadPlugin`. -/
def loadPlugin (manager : PluginManager) (path : Bytes) (outcome : LoadOutcome) :
    PluginManager × Bool :=
  if path.isEmpty then (manager, false)
  else
    match outcome.handle with
    | none => (manager, false)
    | some handle =>
      let manager := manager.call (.opened handle)
      if !outcome.findsCreate then (manager.call (.closed handle), false)
      else if !outcome.findsDestroy then (manager.call (.closed handle), false)
      else
        match outcome.object with
        | none => (manager.call (.closed handle), false)
        | some object =>
          let manager := manager.call (.created handle object)
          match outcome.name.map cString with
          | none | some [] => (manager.discard handle object, false)
          | some name =>
            if (manager.plugins.find name).isSome then (manager.discard handle object, false)
            else if !outcome.initialized then (manager.discard handle object, false)
            else
              let plugin : LoadedPlugin := { handle, object, started := false, path }
              ({ manager with plugins := manager.plugins.emplace name plugin }, true)

/-- The flag `started` of a plugin. -/
def setStarted (manager : PluginManager) (name : Bytes) (started : Bool) : PluginManager :=
  { manager with plugins := manager.plugins.modify name ({ · with started := started }) }

/-- `stop()` on a plugin and its flag. -/
def stopEntry (manager : PluginManager) (name : Bytes) (plugin : LoadedPlugin) :
    PluginManager :=
  (manager.call (.stop plugin.object)).setStarted name false

/-- `start()` on a plugin and its flag. -/
def startEntry (manager : PluginManager) (name : Bytes) (plugin : LoadedPlugin)
    (success : Bool) : PluginManager :=
  let manager := manager.call (.start plugin.object success)
  if success then manager.setStarted name true else manager

/-- `PluginManager::unloadPlugin`; `closes` is whether `dlclose` returns zero. -/
def unloadPlugin (manager : PluginManager) (name : Bytes) (closes : Bool) :
    PluginManager × Bool :=
  match manager.plugins.find name with
  | none => (manager, false)
  | some plugin =>
    let manager := if plugin.started then manager.stopEntry name plugin else manager
    let manager := manager.discard plugin.handle plugin.object
    ({ manager with plugins := manager.plugins.erase name }, closes)

/-- `PluginManager::startPlugin`. -/
def startPlugin (manager : PluginManager) (name : Bytes) (success : Bool) :
    PluginManager × Bool :=
  match manager.plugins.find name with
  | none => (manager, false)
  | some plugin =>
    if plugin.started then (manager, true)
    else (manager.startEntry name plugin success, success)

/-- `PluginManager::stopPlugin`. -/
def stopPlugin (manager : PluginManager) (name : Bytes) : PluginManager :=
  match manager.plugins.find name with
  | none => manager
  | some plugin => if plugin.started then manager.stopEntry name plugin else manager

/-- The loop of `startAll` over the plugins that are left; `succeeds` is what `start` of a
    plugin returns. -/
def startAllFrom (succeeds : Bytes → Bool) (manager : PluginManager)
    (startedPlugins : List Bytes) :
    List (Bytes × LoadedPlugin) → PluginManager × Bool
  | [] => (manager, true)
  | (name, plugin) :: rest =>
    if plugin.started then startAllFrom succeeds manager startedPlugins rest
    else
      let manager := manager.startEntry name plugin (succeeds name)
      if !succeeds name then (startedPlugins.foldl stopPlugin manager, false)
      else startAllFrom succeeds manager (startedPlugins ++ [name]) rest

/-- `PluginManager::startAll`. -/
def startAll (manager : PluginManager) (succeeds : Bytes → Bool) : PluginManager × Bool :=
  startAllFrom succeeds manager [] manager.plugins.entries

/-- The loop of `stopAll` over the plugins that are left. -/
def stopAllFrom (manager : PluginManager) : List (Bytes × LoadedPlugin) → PluginManager
  | [] => manager
  | (name, plugin) :: rest =>
    stopAllFrom (if plugin.started then manager.stopEntry name plugin else manager) rest

/-- `PluginManager::stopAll`. -/
def stopAll (manager : PluginManager) : PluginManager :=
  stopAllFrom manager manager.plugins.entries

/-- `unloadPlugin` takes an entry out. -/
theorem length_unloadPlugin_lt {manager : PluginManager} {name : Bytes}
    {plugin : LoadedPlugin} (h : (name, plugin) ∈ manager.plugins.entries) (closes : Bool) :
    (manager.unloadPlugin name closes).1.plugins.entries.length <
      manager.plugins.entries.length := by
  have hfind := (manager.plugins.find_eq_some_iff name plugin).mpr h
  simp only [unloadPlugin, hfind, discard, call]
  split
  · -- the flag of the entry is written before the entry goes
    have hlength : (manager.stopEntry name plugin).plugins.entries.length =
        manager.plugins.entries.length := by
      simp [stopEntry, setStarted, call, UnorderedMap.modify]
    rw [← hlength]
    have hmem : (name, { plugin with started := false }) ∈
        (manager.stopEntry name plugin).plugins.entries :=
      (UnorderedMap.mem_entries_modify _ _ _ _ _).mpr (.inr ⟨rfl, plugin, h, rfl⟩)
    exact UnorderedMap.length_erase_lt hmem
  · exact UnorderedMap.length_erase_lt h

/-- `PluginManager::unloadAll`: as long as there is a first plugin, it is unloaded. -/
def unloadAll (manager : PluginManager) (closes : Bytes → Bool) : PluginManager :=
  if h : manager.plugins.entries = [] then manager
  else
    let name := (manager.plugins.entries.head h).1
    unloadAll (manager.unloadPlugin name (closes name)).1 closes
termination_by manager.plugins.entries.length
decreasing_by exact length_unloadPlugin_lt (List.head_mem h) _

end PluginManager

/-- An operation of the manager with what it is told, or a change of the iteration order. -/
inductive PluginAction where
  | loadPlugin (path : Bytes) (outcome : LoadOutcome)
  | unloadPlugin (name : Bytes) (closes : Bool)
  | startPlugin (name : Bytes) (success : Bool)
  | stopPlugin (name : Bytes)
  | startAll (succeeds : Bytes → Bool)
  | stopAll
  | unloadAll (closes : Bytes → Bool)
  | rehash (entries : List (Bytes × LoadedPlugin))

namespace PluginManager

/-- One operation. `createPlugin` cannot give an object that is in use. -/
def step (manager : PluginManager) : PluginAction → Option PluginManager
  | .loadPlugin path outcome =>
    if ∃ entry ∈ manager.plugins.entries, some entry.2.object = outcome.object then none
    else some (manager.loadPlugin path outcome).1
  | .unloadPlugin name closes => some (manager.unloadPlugin name closes).1
  | .startPlugin name success => some (manager.startPlugin name success).1
  | .stopPlugin name => some (manager.stopPlugin name)
  | .startAll succeeds => some (manager.startAll succeeds).1
  | .stopAll => some manager.stopAll
  | .unloadAll closes => some (manager.unloadAll closes)
  | .rehash entries =>
    if h : entries.Perm manager.plugins.entries then
      some { manager with plugins := manager.plugins.rehash entries h }
    else none

/-- The plugin manager. -/
def system : TransitionSystem PluginManager PluginAction where
  init manager := manager = initial
  step := step

end PluginManager

end EdgeLink
