import EdgeLink.ForStd.History
import EdgeLink.Native.PluginManager

/-!
# Plugin manager correctness

What every run of the operations keeps, whatever libraries and plugins answer and in
whatever order the map is visited. The calls are counted: what has been opened, created or
started and not given back is what the entries of `plugins_` stand for (`ManagerInv`).
-/

namespace EdgeLink

open CText TransitionSystem

/-! ## The protocol of the calls -/

namespace PluginCall

/-- `createPlugin` in this library. -/
def createsFrom (handle : Nat) : PluginCall → Bool
  | .created handle' _ => handle' = handle
  | _ => false

/-- `destroyPlugin` in this library. -/
def destroysFrom (handle : Nat) : PluginCall → Bool
  | .destroyed handle' _ => handle' = handle
  | _ => false

/-- A successful `dlopen`. -/
def opens : PluginCall → Bool
  | .opened _ => true
  | _ => false

/-- A `dlclose`. -/
def closes : PluginCall → Bool
  | .closed _ => true
  | _ => false

end PluginCall

namespace PluginManager

/-- How many of the calls satisfy `p`. -/
def made (past : List PluginCall) (p : PluginCall → Bool) : Nat := past.countP p

/-- The object is in use: created and not destroyed since. -/
def InUse (past : List PluginCall) (object : Nat) : Prop :=
  ∃ handle, made past (· = .destroyed handle object) < made past (· = .created handle object)

/-- The object is running: it has been started more often than stopped. -/
def Running (past : List PluginCall) (object : Nat) : Prop :=
  made past (· = .stop object) < made past (· = .start object true)

/-- The library is open. -/
def Open (past : List PluginCall) (handle : Nat) : Prop :=
  made past (· = .closed handle) < made past (· = .opened handle)

/-- How the calls have to follow each other. A plugin is created in an open library; it is
    started while it is in use and not running, and stopped while it is running; it is
    destroyed once, not running and with its library open; and a library is closed only as
    long as it stays open for each of its plugins in use. -/
def Explained (past : List PluginCall) : PluginCall → Prop
  | .opened _ => True
  | .created handle object => Open past handle ∧ ¬InUse past object ∧ ¬Running past object
  | .start object _ => InUse past object ∧ ¬Running past object
  | .stop object => InUse past object ∧ Running past object
  | .destroyed handle object =>
    made past (· = .destroyed handle object) < made past (· = .created handle object) ∧
      ¬Running past object ∧ Open past handle
  | .closed handle =>
    made past (PluginCall.createsFrom handle) + made past (· = .closed handle) <
      made past (· = .opened handle) + made past (PluginCall.destroysFrom handle)

/-! ## The invariant -/

/-- How many plugins of `plugins_` satisfy `p`. -/
def loaded (manager : PluginManager) (p : LoadedPlugin → Bool) : Nat :=
  manager.plugins.entries.countP fun entry => p entry.2

/-- What has been gained by calls and not lost by others is what the entries hold. -/
def Balanced (manager : PluginManager) (gains losses : PluginCall → Bool)
    (holds : LoadedPlugin → Bool) : Prop :=
  made manager.calls gains = made manager.calls losses + manager.loaded holds

/-- What is open, in use and running is what the entries say, and an object belongs to one
    entry. -/
structure ManagerInv (manager : PluginManager) : Prop where
  explained : manager.calls.Chronicle Explained
  handles : manager.Balanced PluginCall.opens PluginCall.closes fun _ => true
  libraries : ∀ handle,
    manager.Balanced (· = .opened handle) (· = .closed handle) (·.handle = handle)
  created : ∀ handle,
    manager.Balanced (PluginCall.createsFrom handle) (PluginCall.destroysFrom handle)
      (·.handle = handle)
  objects : ∀ handle object,
    manager.Balanced (· = .created handle object) (· = .destroyed handle object)
      fun plugin => plugin.handle = handle ∧ plugin.object = object
  running : ∀ object,
    manager.Balanced (· = .start object true) (· = .stop object)
      fun plugin => plugin.object = object ∧ plugin.started
  distinct : (manager.plugins.entries.map (·.2.object)).Nodup

variable {manager : PluginManager}

/-! ## The entries -/

/-- A new entry. -/
theorem loaded_emplace {name : Bytes} (h : name ∉ manager.plugins.keys)
    (plugin : LoadedPlugin) (p : LoadedPlugin → Bool) :
    { manager with plugins := manager.plugins.emplace name plugin }.loaded p =
      manager.loaded p + (p plugin).toNat := by
  simp only [loaded, UnorderedMap.entries_emplace h, List.countP_append]
  cases hp : p plugin <;> simp [hp]

/-- An entry is taken out. -/
theorem loaded_erase {name : Bytes} {plugin : LoadedPlugin}
    (h : (name, plugin) ∈ manager.plugins.entries) (p : LoadedPlugin → Bool) :
    { manager with plugins := manager.plugins.erase name }.loaded p + (p plugin).toNat =
      manager.loaded p := by
  simp only [loaded, (UnorderedMap.perm_cons_erase h).countP_eq, List.countP_cons]
  cases hp : p plugin <;> simp

/-- The flag of an entry is written. -/
theorem loaded_setStarted {name : Bytes} {plugin : LoadedPlugin}
    (h : (name, plugin) ∈ manager.plugins.entries) (started : Bool)
    (p : LoadedPlugin → Bool) :
    (manager.setStarted name started).loaded p + (p plugin).toNat =
      manager.loaded p + (p { plugin with started := started }).toNat := by
  have hbefore := (UnorderedMap.perm_cons_erase h).countP_eq (fun entry => p entry.2)
  have hafter := (UnorderedMap.perm_cons_modify h ({ · with started := started })).countP_eq
    (fun entry => p entry.2)
  simp only [loaded, setStarted, hbefore, hafter, List.countP_cons]
  cases p plugin <;> cases p { plugin with started := started } <;> simp

/-- Some entry satisfies what this one satisfies. -/
theorem loaded_pos {name : Bytes} {plugin : LoadedPlugin}
    (h : (name, plugin) ∈ manager.plugins.entries) {p : LoadedPlugin → Bool}
    (hp : p plugin = true) : 0 < manager.loaded p :=
  List.countP_pos_iff.mpr ⟨(name, plugin), h, hp⟩

/-- An object belongs to one entry. -/
theorem ManagerInv.entry_unique (inv : ManagerInv manager) {entry entry' : Bytes × LoadedPlugin}
    (h : entry ∈ manager.plugins.entries) (h' : entry' ∈ manager.plugins.entries)
    (hobject : entry.2.object = entry'.2.object) : entry = entry' :=
  List.inj_on_of_nodup_map inv.distinct h h' hobject

section Entry

variable {name : Bytes} {plugin : LoadedPlugin}
  (inv : ManagerInv manager) (h : (name, plugin) ∈ manager.plugins.entries)
include inv h

/-- The object of an entry has been created and not destroyed. -/
theorem ManagerInv.destroyed_lt :
    made manager.calls (· = .destroyed plugin.handle plugin.object) <
      made manager.calls (· = .created plugin.handle plugin.object) := by
  have hobjects := inv.objects plugin.handle plugin.object
  unfold Balanced at hobjects
  have hpos : 0 < manager.loaded fun plugin' =>
      plugin'.handle = plugin.handle ∧ plugin'.object = plugin.object :=
    loaded_pos h (by simp)
  omega

/-- The object of an entry is in use. -/
theorem ManagerInv.inUse : InUse manager.calls plugin.object :=
  ⟨plugin.handle, inv.destroyed_lt h⟩

/-- The library of an entry is open. -/
theorem ManagerInv.isOpen : Open manager.calls plugin.handle := by
  have hlibraries := inv.libraries plugin.handle
  unfold Balanced at hlibraries
  have hpos : 0 < manager.loaded (·.handle = plugin.handle) := loaded_pos h (by simp)
  show _ < _
  omega

/-- The object of an entry is running when its flag says so. -/
theorem ManagerInv.running_iff : Running manager.calls plugin.object ↔ plugin.started = true := by
  have hrunning := inv.running plugin.object
  unfold Balanced at hrunning
  constructor
  · intro hlt
    have hpos : 0 < manager.loaded fun plugin' =>
        plugin'.object = plugin.object ∧ plugin'.started := by
      have hlt' : _ < _ := hlt
      omega
    obtain ⟨⟨name', plugin'⟩, hmem, hp⟩ := List.countP_pos_iff.mp hpos
    simp only [decide_eq_true_eq] at hp
    obtain ⟨-, rfl⟩ := Prod.mk.inj (inv.entry_unique hmem h hp.1)
    exact hp.2
  · intro hstarted
    have hpos : 0 < manager.loaded fun plugin' =>
        plugin'.object = plugin.object ∧ plugin'.started := loaded_pos h (by simp [hstarted])
    show _ < _
    omega

end Entry

/-! ## Calls -/

/-- A new call needs an explanation, the older ones keep theirs. -/
theorem explained_call (h : manager.calls.Chronicle Explained) {c : PluginCall}
    (hc : Explained manager.calls c) : (manager.call c).calls.Chronicle Explained :=
  (List.chronicle_append_singleton _ _).mpr ⟨h, hc⟩

/-- Calls are made and entries change: the balance stays when both change it alike. -/
theorem Balanced.change {gains losses : PluginCall → Bool} {holds : LoadedPlugin → Bool}
    (hbalanced : manager.Balanced gains losses holds) {manager' : PluginManager}
    {calls : List PluginCall} (before after : Nat)
    (hcalls : manager'.calls = manager.calls ++ calls)
    (hloaded : manager'.loaded holds + before = manager.loaded holds + after)
    (hmade : made calls gains + before = made calls losses + after) :
    manager'.Balanced gains losses holds := by
  unfold Balanced made at *
  rw [hcalls, List.countP_append, List.countP_append]
  omega

/-- Calls are made that gain what they lose, and the entries stay. -/
theorem Balanced.calls {gains losses : PluginCall → Bool} {holds : LoadedPlugin → Bool}
    (hbalanced : manager.Balanced gains losses holds) (calls : List PluginCall)
    (hmade : made calls gains = made calls losses) :
    { manager with calls := manager.calls ++ calls }.Balanced gains losses holds :=
  hbalanced.change 0 0 rfl rfl hmade

/-- Calls are made and the flag of an entry is written. -/
theorem Balanced.setStarted {gains losses : PluginCall → Bool} {holds : LoadedPlugin → Bool}
    (hbalanced : manager.Balanced gains losses holds) {name : Bytes} {plugin : LoadedPlugin}
    (h : (name, plugin) ∈ manager.plugins.entries) (started : Bool) (calls : List PluginCall)
    (hmade : made calls gains + (holds plugin).toNat =
      made calls losses + (holds { plugin with started := started }).toNat) :
    { manager.setStarted name started with calls := manager.calls ++ calls }.Balanced
      gains losses holds :=
  hbalanced.change _ _ rfl (loaded_setStarted h started holds) hmade

/-- Calls are made and an entry is added. -/
theorem Balanced.emplace {gains losses : PluginCall → Bool} {holds : LoadedPlugin → Bool}
    (hbalanced : manager.Balanced gains losses holds) {name : Bytes}
    (h : name ∉ manager.plugins.keys) (plugin : LoadedPlugin) (calls : List PluginCall)
    (hmade : made calls gains = made calls losses + (holds plugin).toNat) :
    Balanced ⟨manager.plugins.emplace name plugin, manager.calls ++ calls⟩
      gains losses holds :=
  hbalanced.change 0 _ rfl (loaded_emplace h plugin holds) hmade

/-- Calls are made and an entry is taken out. -/
theorem Balanced.erase {gains losses : PluginCall → Bool} {holds : LoadedPlugin → Bool}
    (hbalanced : manager.Balanced gains losses holds) {name : Bytes} {plugin : LoadedPlugin}
    (h : (name, plugin) ∈ manager.plugins.entries) (calls : List PluginCall)
    (hmade : made calls gains + (holds plugin).toNat = made calls losses) :
    Balanced ⟨manager.plugins.erase name, manager.calls ++ calls⟩ gains losses holds :=
  hbalanced.change _ 0 rfl (loaded_erase h holds) hmade

/-- The objects of the entries after a flag has been written. -/
theorem distinct_setStarted (name : Bytes) (started : Bool)
    (h : (manager.plugins.entries.map (·.2.object)).Nodup) :
    ((manager.setStarted name started).plugins.entries.map (·.2.object)).Nodup := by
  have hmap := manager.plugins.map_entries_modify name ({ · with started := started })
    (·.2.object) fun _ => rfl
  show ((manager.plugins.modify name _).entries.map (·.2.object)).Nodup
  rwa [hmap]

/-- `start()` on a loaded plugin that is not running. -/
theorem ManagerInv.startEntry (inv : ManagerInv manager) {name : Bytes} {plugin : LoadedPlugin}
    (h : (name, plugin) ∈ manager.plugins.entries) (hstarted : plugin.started = false)
    (success : Bool) : ManagerInv (manager.startEntry name plugin success) := by
  have hnot : ¬Running manager.calls plugin.object := by
    rw [inv.running_iff h, hstarted]
    simp
  have hexplained := explained_call inv.explained (c := .start plugin.object success)
    ⟨inv.inUse h, hnot⟩
  cases success with
  -- the call is on record, but the plugin does not run
  | false =>
    exact
      { explained := hexplained
        handles := inv.handles.calls _ rfl
        libraries := fun handle => (inv.libraries handle).calls _ rfl
        created := fun handle => (inv.created handle).calls _ rfl
        objects := fun handle object => (inv.objects handle object).calls _ rfl
        running := fun object => (inv.running object).calls _ (by simp [made])
        distinct := inv.distinct }
  | true =>
    exact
      { explained := hexplained
        handles := inv.handles.setStarted h true _ rfl
        libraries := fun handle => (inv.libraries handle).setStarted h true _ rfl
        created := fun handle => (inv.created handle).setStarted h true _ rfl
        objects := fun handle object => (inv.objects handle object).setStarted h true _ rfl
        running := by
          intro object
          apply (inv.running object).setStarted h true [.start plugin.object true]
          by_cases hobject : plugin.object = object <;> simp [made, hstarted, hobject]
        distinct := distinct_setStarted name true inv.distinct }

/-- `stop()` on a loaded plugin that is running. -/
theorem ManagerInv.stopEntry (inv : ManagerInv manager) {name : Bytes} {plugin : LoadedPlugin}
    (h : (name, plugin) ∈ manager.plugins.entries) (hstarted : plugin.started = true) :
    ManagerInv (manager.stopEntry name plugin) where
  explained := explained_call inv.explained (c := .stop plugin.object)
    ⟨inv.inUse h, (inv.running_iff h).mpr hstarted⟩
  handles := inv.handles.setStarted h false _ rfl
  libraries handle := (inv.libraries handle).setStarted h false _ rfl
  created handle := (inv.created handle).setStarted h false _ rfl
  objects handle object := (inv.objects handle object).setStarted h false _ rfl
  running object := by
    apply (inv.running object).setStarted h false [.stop plugin.object]
    by_cases hobject : plugin.object = object <;> simp [made, hstarted, hobject]
  distinct := distinct_setStarted name false inv.distinct

/-- A library stays open for all its plugins in use when one of them has just been
    destroyed. -/
theorem explained_discard {handle object : Nat} (h : manager.calls.Chronicle Explained)
    (hdestroyed : Explained manager.calls (.destroyed handle object))
    (hopen : made manager.calls (PluginCall.createsFrom handle) +
        made manager.calls (· = .closed handle) ≤
      made manager.calls (· = .opened handle) +
        made manager.calls (PluginCall.destroysFrom handle)) :
    (manager.discard handle object).calls.Chronicle Explained := by
  apply explained_call (explained_call h hdestroyed)
  show made (manager.calls ++ [_]) _ + made (manager.calls ++ [_]) _ <
    made (manager.calls ++ [_]) _ + made (manager.calls ++ [_]) _
  simp only [made, List.countP_append, List.countP_singleton] at hopen ⊢
  simp only [PluginCall.createsFrom, PluginCall.destroysFrom]
  simp
  omega

/-- A loaded plugin that is not running is destroyed, its library is closed and its entry is
    taken out. -/
theorem ManagerInv.unloadEntry (inv : ManagerInv manager) {name : Bytes}
    {plugin : LoadedPlugin} (h : (name, plugin) ∈ manager.plugins.entries)
    (hstarted : plugin.started = false) :
    ManagerInv { manager.discard plugin.handle plugin.object with
      plugins := manager.plugins.erase name } := by
  have hnot : ¬Running manager.calls plugin.object := by
    rw [inv.running_iff h, hstarted]
    simp
  have hcreated := inv.created plugin.handle
  have hlibraries := inv.libraries plugin.handle
  unfold Balanced at hcreated hlibraries
  have hcalls : { manager.discard plugin.handle plugin.object with
        plugins := manager.plugins.erase name } =
      ⟨manager.plugins.erase name, manager.calls ++
        [.destroyed plugin.handle plugin.object, .closed plugin.handle]⟩ := by
    simp [discard, call]
  have hexplained := explained_discard inv.explained
    ⟨inv.destroyed_lt h, hnot, inv.isOpen h⟩ (by omega)
  rw [hcalls]
  exact
    { explained := by simpa [discard, call] using hexplained
      handles := inv.handles.erase h _ rfl
      libraries := by
        intro handle
        apply (inv.libraries handle).erase h
        by_cases hhandle : plugin.handle = handle <;> simp [made, hhandle]
      created := by
        intro handle
        apply (inv.created handle).erase h
        by_cases hhandle : plugin.handle = handle <;>
          simp [made, PluginCall.createsFrom, PluginCall.destroysFrom, hhandle]
      objects := by
        intro handle object
        apply (inv.objects handle object).erase h
        by_cases heq : plugin.handle = handle ∧ plugin.object = object <;> simp [made, heq]
      running := by
        intro object
        apply (inv.running object).erase h
        simp [made, hstarted]
      distinct := (List.filter_sublist.map _).nodup inv.distinct }

/-! ## Operations -/

/-- What `loadPlugin` can do. -/
inductive LoadCase (manager : PluginManager) (path : Bytes) (outcome : LoadOutcome) :
    PluginManager → Prop
  | unchanged : LoadCase manager path outcome manager
  | closed (handle : Nat) :
    LoadCase manager path outcome ((manager.call (.opened handle)).call (.closed handle))
  | discarded (handle object : Nat) (hobject : outcome.object = some object) :
    LoadCase manager path outcome
      (((manager.call (.opened handle)).call (.created handle object)).discard handle object)
  | taken (handle object : Nat) (name : Bytes) (hobject : outcome.object = some object)
      (hname : name ∉ manager.plugins.keys) :
    LoadCase manager path outcome
      { (manager.call (.opened handle)).call (.created handle object) with
        plugins := manager.plugins.emplace name
          { handle, object, started := false, path := path } }

/-- Every way through `loadPlugin`. -/
theorem loadPlugin_cases (manager : PluginManager) (path : Bytes) (outcome : LoadOutcome) :
    LoadCase manager path outcome (manager.loadPlugin path outcome).1 := by
  simp only [loadPlugin]
  split
  · exact .unchanged
  · split
    · exact .unchanged
    · rename_i handle _
      split
      · exact .closed handle
      · split
        · exact .closed handle
        · split
          · exact .closed handle
          · rename_i object hobject
            split
            · exact .discarded handle object hobject
            · exact .discarded handle object hobject
            · rename_i name _ _
              split
              · exact .discarded handle object hobject
              · rename_i hfind
                split
                · exact .discarded handle object hobject
                · refine .taken handle object name hobject ?_
                  rw [← UnorderedMap.find_eq_none_iff]
                  simpa [call] using hfind

/-- An object that belongs to no entry is not in use. -/
theorem ManagerInv.not_inUse (inv : ManagerInv manager) {object : Nat}
    (h : ∀ entry ∈ manager.plugins.entries, entry.2.object ≠ object) :
    ¬InUse manager.calls object := by
  rintro ⟨handle, hlt⟩
  have hobjects := inv.objects handle object
  unfold Balanced at hobjects
  have hpos : 0 < manager.loaded fun plugin =>
      plugin.handle = handle ∧ plugin.object = object := by omega
  obtain ⟨entry, hmem, hentry⟩ := List.countP_pos_iff.mp hpos
  simp only [decide_eq_true_eq] at hentry
  exact h entry hmem hentry.2

/-- An object that belongs to no entry is not running. -/
theorem ManagerInv.not_running (inv : ManagerInv manager) {object : Nat}
    (h : ∀ entry ∈ manager.plugins.entries, entry.2.object ≠ object) :
    ¬Running manager.calls object := by
  intro hlt
  have hrunning := inv.running object
  unfold Balanced at hrunning
  have hpos : 0 < manager.loaded fun plugin => plugin.object = object ∧ plugin.started := by
    have hlt' : _ < _ := hlt
    omega
  obtain ⟨entry, hmem, hentry⟩ := List.countP_pos_iff.mp hpos
  simp only [decide_eq_true_eq] at hentry
  exact h entry hmem hentry.1

/-- A library is opened. -/
theorem ManagerInv.explained_opened (inv : ManagerInv manager) (handle : Nat) :
    (manager.call (.opened handle)).calls.Chronicle Explained :=
  explained_call inv.explained (show Explained _ (.opened handle) from trivial)

/-- A library is opened and a plugin is created in it. -/
theorem ManagerInv.explained_created (inv : ManagerInv manager) (handle : Nat) {object : Nat}
    (h : ∀ entry ∈ manager.plugins.entries, entry.2.object ≠ object) :
    ((manager.call (.opened handle)).call (.created handle object)).calls.Chronicle
      Explained := by
  apply explained_call (inv.explained_opened handle)
  have hlibraries := inv.libraries handle
  have hnotInUse := inv.not_inUse h
  have hnotRunning := inv.not_running h
  unfold Balanced made at hlibraries
  simp only [InUse, Running, made] at hnotInUse hnotRunning
  refine ⟨?_, ?_, ?_⟩
  · simp [Open, call, made]
    omega
  · simpa [InUse, call, made] using hnotInUse
  · simpa [Running, call, made] using hnotRunning

/-- The plugin just created may be destroyed. -/
theorem ManagerInv.explained_destroyed (inv : ManagerInv manager) (handle : Nat)
    {object : Nat} (h : ∀ entry ∈ manager.plugins.entries, entry.2.object ≠ object) :
    Explained ((manager.call (.opened handle)).call (.created handle object)).calls
      (.destroyed handle object) := by
  have hlibraries := inv.libraries handle
  have hobjects := inv.objects handle object
  have hnotRunning := inv.not_running h
  unfold Balanced made at hlibraries hobjects
  simp only [Running, made] at hnotRunning
  refine ⟨?_, ?_, ?_⟩
  · simp [call, made]
    omega
  · simpa [Running, call, made] using hnotRunning
  · simp [Open, call, made]
    omega

/-- With the plugin just created its library may be closed once it is destroyed. -/
theorem ManagerInv.open_of_created (inv : ManagerInv manager) (handle object : Nat) :
    let calls := ((manager.call (.opened handle)).call (.created handle object)).calls
    made calls (PluginCall.createsFrom handle) + made calls (· = .closed handle) ≤
      made calls (· = .opened handle) + made calls (PluginCall.destroysFrom handle) := by
  have hcreated := inv.created handle
  have hlibraries := inv.libraries handle
  unfold Balanced made at hcreated hlibraries
  simp [call, made, PluginCall.createsFrom, PluginCall.destroysFrom]
  omega

/-- A library that was opened and closed again. -/
theorem ManagerInv.openClose (inv : ManagerInv manager) (handle : Nat) :
    ManagerInv ((manager.call (.opened handle)).call (.closed handle)) := by
  have hcreated := inv.created handle
  have hlibraries := inv.libraries handle
  unfold Balanced made at hcreated hlibraries
  have hcalls : (manager.call (.opened handle)).call (.closed handle) =
      { manager with calls := manager.calls ++ [.opened handle, .closed handle] } := by
    simp [call]
  have hexplained : ((manager.call (.opened handle)).call (.closed handle)).calls.Chronicle
      Explained := by
    apply explained_call (inv.explained_opened handle)
    simp [Explained, call, made, PluginCall.createsFrom, PluginCall.destroysFrom]
    omega
  rw [hcalls] at hexplained ⊢
  exact
    { explained := hexplained
      handles := inv.handles.calls _ rfl
      libraries := by
        intro handle'
        apply (inv.libraries handle').calls
        by_cases hhandle : handle = handle' <;> simp [made, hhandle]
      created := fun handle => (inv.created handle).calls _ rfl
      objects := fun handle object => (inv.objects handle object).calls _ rfl
      running := fun object => (inv.running object).calls _ rfl
      distinct := inv.distinct }

/-- A plugin that was created and discarded. -/
theorem ManagerInv.createDiscard (inv : ManagerInv manager) (handle : Nat) {object : Nat}
    (hfresh : ∀ entry ∈ manager.plugins.entries, entry.2.object ≠ object) :
    ManagerInv (((manager.call (.opened handle)).call (.created handle object)).discard
      handle object) := by
  have hcalls : ((manager.call (.opened handle)).call (.created handle object)).discard
      handle object = { manager with calls := manager.calls ++ [.opened handle,
        .created handle object, .destroyed handle object, .closed handle] } := by
    simp [discard, call]
  have hexplained := explained_discard (inv.explained_created handle hfresh)
    (inv.explained_destroyed handle hfresh) (inv.open_of_created handle object)
  rw [hcalls] at hexplained ⊢
  exact
    { explained := hexplained
      handles := inv.handles.calls _ rfl
      libraries := by
        intro handle'
        apply (inv.libraries handle').calls
        by_cases hhandle : handle = handle' <;> simp [made, hhandle]
      created := by
        intro handle'
        apply (inv.created handle').calls
        by_cases hhandle : handle = handle' <;>
          simp [made, PluginCall.createsFrom, PluginCall.destroysFrom, hhandle]
      objects := by
        intro handle' object'
        apply (inv.objects handle' object').calls
        by_cases heq : handle = handle' ∧ object = object' <;> simp [made, heq]
      running := fun object => (inv.running object).calls _ rfl
      distinct := inv.distinct }

/-- A plugin that was created and taken into the map. -/
theorem ManagerInv.createTake (inv : ManagerInv manager) (handle : Nat) {object : Nat}
    (hfresh : ∀ entry ∈ manager.plugins.entries, entry.2.object ≠ object) {name : Bytes}
    (hname : name ∉ manager.plugins.keys) (path : Bytes) :
    ManagerInv { (manager.call (.opened handle)).call (.created handle object) with
      plugins := manager.plugins.emplace name
        { handle, object, started := false, path := path } } := by
  have hcalls : { (manager.call (.opened handle)).call (.created handle object) with
        plugins := manager.plugins.emplace name
          { handle, object, started := false, path := path } } =
      ⟨manager.plugins.emplace name { handle, object, started := false, path := path },
        manager.calls ++ [.opened handle, .created handle object]⟩ := by
    simp [call]
  have hexplained := inv.explained_created handle hfresh
  rw [hcalls]
  exact
    { explained := by simpa [call] using hexplained
      handles := inv.handles.emplace hname _ _ rfl
      libraries := by
        intro handle'
        apply (inv.libraries handle').emplace hname
        by_cases hhandle : handle = handle' <;> simp [made, hhandle]
      created := by
        intro handle'
        apply (inv.created handle').emplace hname
        by_cases hhandle : handle = handle' <;>
          simp [made, PluginCall.createsFrom, PluginCall.destroysFrom, hhandle]
      objects := by
        intro handle' object'
        apply (inv.objects handle' object').emplace hname
        by_cases heq : handle = handle' ∧ object = object' <;> simp [made, heq]
      running := by
        intro object'
        apply (inv.running object').emplace hname
        simp [made]
      distinct := by
        rw [UnorderedMap.entries_emplace hname, List.map_append, List.map_singleton,
          ← List.concat_eq_append]
        refine (List.nodup_concat _ _).mpr ⟨?_, inv.distinct⟩
        intro hmem
        obtain ⟨entry, hentry, heq⟩ := List.mem_map.mp hmem
        exact hfresh entry hentry heq }

/-- `loadPlugin` with a plugin object that is not in use. -/
theorem ManagerInv.loadPlugin (inv : ManagerInv manager) (path : Bytes) (outcome : LoadOutcome)
    (hfresh : ∀ entry ∈ manager.plugins.entries, some entry.2.object ≠ outcome.object) :
    ManagerInv (manager.loadPlugin path outcome).1 := by
  have hcase := loadPlugin_cases manager path outcome
  have hunused (object : Nat) (hobject : outcome.object = some object) :
      ∀ entry ∈ manager.plugins.entries, entry.2.object ≠ object := by
    intro entry hmem heq
    exact hfresh entry hmem (by rw [heq, hobject])
  revert hcase
  generalize (manager.loadPlugin path outcome).1 = manager'
  intro hcase
  cases hcase with
  | unchanged => exact inv
  | closed handle => exact inv.openClose handle
  | discarded handle object hobject => exact inv.createDiscard handle (hunused object hobject)
  | taken handle object name hobject hname =>
    exact inv.createTake handle (hunused object hobject) hname path

/-- `unloadPlugin`. -/
theorem ManagerInv.unloadPlugin (inv : ManagerInv manager) (name : Bytes) (closes : Bool) :
    ManagerInv (manager.unloadPlugin name closes).1 := by
  simp only [PluginManager.unloadPlugin]
  split
  · exact inv
  · rename_i plugin hfind
    have hmem := (manager.plugins.find_eq_some_iff name plugin).mp hfind
    split
    · rename_i hstarted
      have hmem' : (name, { plugin with started := false }) ∈
          (manager.stopEntry name plugin).plugins.entries :=
        (UnorderedMap.mem_entries_modify _ _ _ _ _).mpr (.inr ⟨rfl, plugin, hmem, rfl⟩)
      have inv' := (inv.stopEntry hmem hstarted).unloadEntry hmem' rfl
      exact inv'
    · rename_i hstarted
      exact inv.unloadEntry hmem (by simpa using hstarted)

/-- `startPlugin`. -/
theorem ManagerInv.startPlugin (inv : ManagerInv manager) (name : Bytes) (success : Bool) :
    ManagerInv (manager.startPlugin name success).1 := by
  simp only [PluginManager.startPlugin]
  split
  · exact inv
  · rename_i plugin hfind
    have hmem := (manager.plugins.find_eq_some_iff name plugin).mp hfind
    split
    · exact inv
    · rename_i hstarted
      exact inv.startEntry hmem (by simpa using hstarted) success

/-- `stopPlugin`. -/
theorem ManagerInv.stopPlugin (inv : ManagerInv manager) (name : Bytes) :
    ManagerInv (manager.stopPlugin name) := by
  simp only [PluginManager.stopPlugin]
  split
  · exact inv
  · rename_i plugin hfind
    have hmem := (manager.plugins.find_eq_some_iff name plugin).mp hfind
    split
    · rename_i hstarted
      exact inv.stopEntry hmem hstarted
    · exact inv

/-- Stopping several plugins by name. -/
theorem ManagerInv.stopPlugins (names : List Bytes) {manager : PluginManager}
    (inv : ManagerInv manager) : ManagerInv (names.foldl PluginManager.stopPlugin manager) := by
  induction names generalizing manager with
  | nil => exact inv
  | cons name rest ih => exact ih (inv.stopPlugin name)

/-- Writing the flag of one plugin leaves the other entries. -/
theorem mem_setStarted_of_ne {name name' : Bytes} {plugin' : LoadedPlugin} (started : Bool)
    (h : (name', plugin') ∈ manager.plugins.entries) (hne : name' ≠ name) :
    (name', plugin') ∈ (manager.setStarted name started).plugins.entries :=
  (UnorderedMap.mem_entries_modify _ _ _ _ _).mpr (.inl ⟨hne, h⟩)

/-- The loop of `startAll`; the plugins that are left are as the loop finds them. -/
theorem ManagerInv.startAllFrom (succeeds : Bytes → Bool)
    (rest : List (Bytes × LoadedPlugin)) {manager : PluginManager} (inv : ManagerInv manager)
    (startedPlugins : List Bytes) (hrest : ∀ entry ∈ rest, entry ∈ manager.plugins.entries)
    (hnodup : (rest.map Prod.fst).Nodup) :
    ManagerInv (PluginManager.startAllFrom succeeds manager startedPlugins rest).1 := by
  induction rest generalizing manager startedPlugins with
  | nil => exact inv
  | cons entry rest ih =>
    obtain ⟨name, plugin⟩ := entry
    obtain ⟨hhead, htail⟩ := List.forall_mem_cons.mp hrest
    obtain ⟨hname, hnodup⟩ := List.nodup_cons.mp hnodup
    simp only [PluginManager.startAllFrom]
    split
    · exact ih inv startedPlugins htail hnodup
    · rename_i hstarted
      have inv' := inv.startEntry hhead (by simpa using hstarted) (succeeds name)
      split
      · -- a failure takes back what was started
        exact inv'.stopPlugins startedPlugins
      · rename_i hsucceeds
        refine ih inv' _ ?_ hnodup
        intro entry hmem
        have hne : entry.1 ≠ name := by
          rintro rfl
          exact hname (List.mem_map.mpr ⟨entry, hmem, rfl⟩)
        have hsucceeds' : succeeds name = true := by simpa using hsucceeds
        -- the entries that are left have other names, so they are still there
        rw [hsucceeds']
        exact mem_setStarted_of_ne true (htail entry hmem) hne

/-- The loop of `stopAll`. -/
theorem ManagerInv.stopAllFrom (rest : List (Bytes × LoadedPlugin)) {manager : PluginManager}
    (inv : ManagerInv manager) (hrest : ∀ entry ∈ rest, entry ∈ manager.plugins.entries)
    (hnodup : (rest.map Prod.fst).Nodup) :
    ManagerInv (PluginManager.stopAllFrom manager rest) := by
  induction rest generalizing manager with
  | nil => exact inv
  | cons entry rest ih =>
    obtain ⟨name, plugin⟩ := entry
    obtain ⟨hhead, htail⟩ := List.forall_mem_cons.mp hrest
    obtain ⟨hname, hnodup⟩ := List.nodup_cons.mp hnodup
    simp only [PluginManager.stopAllFrom]
    split
    · rename_i hstarted
      refine ih (inv.stopEntry hhead hstarted) ?_ hnodup
      intro entry hmem
      have hne : entry.1 ≠ name := by
        rintro rfl
        exact hname (List.mem_map.mpr ⟨entry, hmem, rfl⟩)
      exact mem_setStarted_of_ne false (htail entry hmem) hne
    · exact ih inv htail hnodup

/-- `unloadAll` keeps the invariant. -/
theorem ManagerInv.unloadAll (inv : ManagerInv manager) (closes : Bytes → Bool) :
    ManagerInv (manager.unloadAll closes) := by
  induction manager using PluginManager.unloadAll.induct closes with
  | case1 manager hnil =>
    rw [PluginManager.unloadAll, dif_pos hnil]
    exact inv
  | case2 manager hcons name ih =>
    rw [PluginManager.unloadAll, dif_neg hcons]
    exact ih (inv.unloadPlugin name (closes name))

/-- `unloadAll` leaves no entry. -/
theorem entries_unloadAll (manager : PluginManager) (closes : Bytes → Bool) :
    (manager.unloadAll closes).plugins.entries = [] := by
  induction manager using PluginManager.unloadAll.induct closes with
  | case1 manager hnil =>
    rw [PluginManager.unloadAll, dif_pos hnil]
    exact hnil
  | case2 manager hcons name ih =>
    rw [PluginManager.unloadAll, dif_neg hcons]
    exact ih

/-- The balance does not depend on the order of the entries. -/
theorem Balanced.rehash {gains losses : PluginCall → Bool} {holds : LoadedPlugin → Bool}
    (hbalanced : manager.Balanced gains losses holds) (entries : List (Bytes × LoadedPlugin))
    (hperm : entries.Perm manager.plugins.entries) :
    Balanced { manager with plugins := manager.plugins.rehash entries hperm }
      gains losses holds := by
  show made manager.calls gains = made manager.calls losses + entries.countP _
  rw [hperm.countP_eq]
  exact hbalanced

/-- Another iteration order. -/
theorem ManagerInv.rehash (inv : ManagerInv manager) (entries : List (Bytes × LoadedPlugin))
    (hperm : entries.Perm manager.plugins.entries) :
    ManagerInv { manager with plugins := manager.plugins.rehash entries hperm } where
  explained := inv.explained
  handles := inv.handles.rehash entries hperm
  libraries handle := (inv.libraries handle).rehash entries hperm
  created handle := (inv.created handle).rehash entries hperm
  objects handle object := (inv.objects handle object).rehash entries hperm
  running object := (inv.running object).rehash entries hperm
  distinct := (hperm.map _).nodup_iff.mpr inv.distinct

/-- Every operation keeps the invariant. -/
theorem ManagerInv.step {manager' : PluginManager} {action : PluginAction}
    (inv : ManagerInv manager) (h : step manager action = some manager') :
    ManagerInv manager' := by
  cases action with
  | loadPlugin path outcome =>
    simp only [PluginManager.step] at h
    split at h
    · cases h
    · rename_i hfresh
      obtain rfl := Option.some.inj h
      apply inv.loadPlugin path outcome
      intro entry hmem heq
      exact hfresh ⟨entry, hmem, heq⟩
  | unloadPlugin name closes =>
    obtain rfl := Option.some.inj h
    exact inv.unloadPlugin name closes
  | startPlugin name success =>
    obtain rfl := Option.some.inj h
    exact inv.startPlugin name success
  | stopPlugin name =>
    obtain rfl := Option.some.inj h
    exact inv.stopPlugin name
  | startAll succeeds =>
    obtain rfl := Option.some.inj h
    exact inv.startAllFrom succeeds _ [] (fun _ h => h) manager.plugins.nodup
  | stopAll =>
    obtain rfl := Option.some.inj h
    exact inv.stopAllFrom _ (fun _ h => h) manager.plugins.nodup
  | unloadAll closes =>
    obtain rfl := Option.some.inj h
    exact inv.unloadAll closes
  | rehash entries =>
    simp only [PluginManager.step] at h
    split at h
    · rename_i hperm
      obtain rfl := Option.some.inj h
      exact inv.rehash entries hperm
    · cases h

/-- A new manager satisfies the invariant. -/
theorem ManagerInv.initial : ManagerInv initial where
  explained := List.chronicle_nil
  handles := rfl
  libraries _ := rfl
  created _ := rfl
  objects _ _ := rfl
  running _ := rfl
  distinct := List.nodup_nil

/-- Every run keeps the invariant. -/
theorem ManagerInv.reachable (h : system.Reachable anyStep manager) : ManagerInv manager := by
  apply h.invariant
  · intro manager hinit
    obtain rfl := hinit
    exact .initial
  · intro manager action manager' _ inv _ hstep
    exact inv.step hstep

/-! ## The lifecycle of plugins -/

/-- **Plugin lifecycle.** In every run, whatever libraries and plugins answer and however
    the map is ordered: no plugin is started while it is running, stopped while it is not,
    or destroyed while it is running, twice or after its library was closed; between
    operations there are as many libraries open as entries, with distinct names, and what
    has been created and not destroyed are the plugins of the entries; `unloadAll` comes to
    an end without entries, when every plugin created has been destroyed. -/
theorem plugin_lifecycle (h : system.Reachable anyStep manager) :
    manager.calls.Chronicle Explained ∧
    made manager.calls PluginCall.opens =
      made manager.calls PluginCall.closes + manager.plugins.entries.length ∧
    manager.plugins.keys.Nodup ∧
    (∀ handle object, made manager.calls (· = .created handle object) =
      made manager.calls (· = .destroyed handle object) +
        manager.loaded fun plugin => plugin.handle = handle ∧ plugin.object = object) ∧
    (∀ closes, (manager.unloadAll closes).plugins.entries = [] ∧
      ∀ handle object, made (manager.unloadAll closes).calls (· = .created handle object) =
        made (manager.unloadAll closes).calls (· = .destroyed handle object)) := by
  have inv := ManagerInv.reachable h
  refine ⟨inv.explained, ?_, manager.plugins.nodup, inv.objects, ?_⟩
  · have hhandles := inv.handles
    simpa [Balanced, loaded] using hhandles
  · intro closes
    have hnil := entries_unloadAll manager closes
    refine ⟨hnil, fun handle object => ?_⟩
    have hobjects := (inv.unloadAll closes).objects handle object
    simpa [Balanced, loaded, hnil] using hobjects

/-- Two plugins are loaded and started, the second one with a library that is open already;
    a third one is refused for its name. -/
def sampleActions : List PluginAction :=
  [.loadPlugin [47] ⟨some 1, true, true, some 10, some [97], true⟩,
   .loadPlugin [48] ⟨some 1, true, true, some 11, some [98, 0, 99], true⟩,
   .loadPlugin [49] ⟨some 2, true, true, some 12, some [97], true⟩,
   .startAll fun _ => true, .stopPlugin [98]]

theorem plugin_lifecycle_sample :
    ∃ manager, system.Reachable anyStep manager ∧ manager.plugins.keys = [[97], [98]] ∧
      made manager.calls PluginCall.opens = made manager.calls PluginCall.closes + 2 := by
  obtain ⟨manager, -, hreach, hkeys⟩ := exists_of_run system anyStep sampleActions
    (fun manager => manager.plugins.keys = [[97], [98]]) rfl (by decide)
  have hkeys' : manager.plugins.keys = [[97], [98]] := of_decide_eq_true hkeys
  have hlength : manager.plugins.entries.length = 2 := by
    rw [← List.length_map Prod.fst]
    exact congrArg List.length hkeys'
  refine ⟨manager, hreach, hkeys', ?_⟩
  rw [(plugin_lifecycle hreach).2.1, hlength]

end PluginManager

end EdgeLink
