import EdgeLink.Spec.PluginManagerCorrect

/-!
# Starting all plugins

`startAll` starts the plugins that are not running, in the order of the map, and takes
back what it has started when one of them fails. Along the loop the manager is the one
before the call with the flags of the plugins started so far turned on (`afterStarts`); the
rollback turns them off again one by one.

## Key results

- `startAllFrom_cases`: the two exits of the loop, with the calls made
- `startAll_cases`: the two exits of `startAll`
- `startAll_all_or_nothing`: the result, the map and the calls of `startAll` at each exit
-/

namespace EdgeLink

namespace PluginManager

/-- Turns the flag of a plugin on. -/
def markStarted (plugin : LoadedPlugin) : LoadedPlugin := { plugin with started := true }

/-- The plugins that are not running, in the order of the map. -/
def idlePlugins (manager : PluginManager) : List (Bytes × LoadedPlugin) :=
  manager.plugins.entries.filter fun entry => !entry.2.started

/-- The manager after the given plugins have been started, one after the other. -/
def afterStarts (manager : PluginManager) (started : List (Bytes × LoadedPlugin)) :
    PluginManager where
  plugins := manager.plugins.modifyOn (started.map Prod.fst) markStarted
  calls := manager.calls ++ started.map fun entry => .start entry.2.object true

/-- Plugins of the manager that were not running, no one twice. -/
structure Startable (manager : PluginManager) (started : List (Bytes × LoadedPlugin)) :
    Prop where
  entry : ∀ entry ∈ started, entry ∈ manager.plugins.entries
  idle : ∀ entry ∈ started, entry.2.started = false
  nodup : (started.map Prod.fst).Nodup

variable {manager : PluginManager} {started : List (Bytes × LoadedPlugin)}

/-- One plugin more is started. -/
theorem startEntry_afterStarts {name : Bytes} (plugin : LoadedPlugin)
    (hname : name ∉ started.map Prod.fst) :
    (manager.afterStarts started).startEntry name plugin true =
      manager.afterStarts (started ++ [(name, plugin)]) := by
  have hplugins := UnorderedMap.modify_modifyOn manager.plugins hname markStarted
  simp only [startEntry, call, setStarted, afterStarts, if_true, List.map_append,
    List.append_assoc, List.map_cons, List.map_nil]
  rw [← hplugins]
  rfl

/-- The rollback stops what was started and leaves the map of before. -/
theorem stopPlugins_afterStarts (h : manager.Startable started) (calls : List PluginCall) :
    (started.map Prod.fst).foldl stopPlugin
        ⟨manager.plugins.modifyOn (started.map Prod.fst) markStarted, calls⟩ =
      ⟨manager.plugins, calls ++ started.map fun entry => .stop entry.2.object⟩ := by
  induction started generalizing calls with
  | nil => simp
  | cons entry started ih =>
    obtain ⟨name, plugin⟩ := entry
    obtain ⟨hentry, hentries⟩ := List.forall_mem_cons.mp h.entry
    obtain ⟨hidle, hidles⟩ := List.forall_mem_cons.mp h.idle
    obtain ⟨hname, hnodup⟩ := List.nodup_cons.mp h.nodup
    rw [List.map_cons, List.foldl_cons]
    have hfind : (manager.plugins.modifyOn (name :: started.map Prod.fst) markStarted).find name =
        some (markStarted plugin) :=
      (UnorderedMap.find_eq_some_iff _ _ _).mpr
        (UnorderedMap.mem_entries_modifyOn hentry List.mem_cons_self _)
    -- the flag goes back to what it was
    have hundo := UnorderedMap.modify_undo manager.plugins hname markStarted
      ({ · with started := false }) fun value hvalue => by
        rw [manager.plugins.value_unique hvalue hentry, markStarted, ← hidle]
    have hstop : stopPlugin
        ⟨manager.plugins.modifyOn (name :: started.map Prod.fst) markStarted, calls⟩ name =
        ⟨manager.plugins.modifyOn (started.map Prod.fst) markStarted,
          calls ++ [.stop plugin.object]⟩ := by
      unfold stopPlugin
      rw [hfind]
      rw [← hundo]
      rfl
    rw [hstop, ih ⟨hentries, hidles, hnodup⟩, List.append_assoc]
    rfl

/-- One plugin more that was not running. -/
theorem Startable.append {name : Bytes} {plugin : LoadedPlugin} (h : manager.Startable started)
    (hentry : (name, plugin) ∈ manager.plugins.entries) (hidle : plugin.started = false)
    (hname : name ∉ started.map Prod.fst) :
    manager.Startable (started ++ [(name, plugin)]) := by
  constructor
  case entry =>
    rw [List.forall_mem_append, List.forall_mem_singleton]
    exact ⟨h.entry, hentry⟩
  case idle =>
    rw [List.forall_mem_append, List.forall_mem_singleton]
    exact ⟨h.idle, hidle⟩
  case nodup =>
    rw [List.map_append, List.map_singleton, ← List.concat_eq_append]
    exact (List.nodup_concat _ _).mpr ⟨hname, h.nodup⟩

/-- The two exits of the loop: every idle plugin that is left starts, or one of them fails and
    what was started goes back. -/
theorem startAllFrom_cases (succeeds : Bytes → Bool) (rest : List (Bytes × LoadedPlugin))
    (h : manager.Startable started) (hrest : ∀ entry ∈ rest, entry ∈ manager.plugins.entries)
    (hnodup : (rest.map Prod.fst).Nodup)
    (hdisjoint : ∀ entry ∈ rest, entry.1 ∉ started.map Prod.fst) :
    ((∀ entry ∈ rest.filter fun entry => !entry.2.started, succeeds entry.1 = true) ∧
      startAllFrom succeeds (manager.afterStarts started) (started.map Prod.fst) rest =
        (manager.afterStarts (started ++ rest.filter fun entry => !entry.2.started), true)) ∨
      ∃ more failed later,
        (rest.filter fun entry => !entry.2.started) = more ++ failed :: later ∧
        (∀ entry ∈ more, succeeds entry.1 = true) ∧ succeeds failed.1 = false ∧
        manager.Startable (started ++ more) ∧
        startAllFrom succeeds (manager.afterStarts started) (started.map Prod.fst) rest =
          (⟨manager.plugins, manager.calls ++
            (((started ++ more).map fun entry => PluginCall.start entry.2.object true) ++
              [.start failed.2.object false]) ++
            (started ++ more).map fun entry => .stop entry.2.object⟩, false) := by
  induction rest generalizing started with
  | nil => exact .inl (by simp [startAllFrom])
  | cons entry rest ih =>
    obtain ⟨name, plugin⟩ := entry
    obtain ⟨hentry, hentries⟩ := List.forall_mem_cons.mp hrest
    obtain ⟨hname, hnodup⟩ := List.nodup_cons.mp hnodup
    obtain ⟨hfresh, hdisjoint⟩ := List.forall_mem_cons.mp hdisjoint
    simp only [startAllFrom]
    cases hstarted : plugin.started with
    | true =>
      rw [if_pos rfl, List.filter_cons_of_neg (by simp [hstarted])]
      exact ih h hentries hnodup hdisjoint
    | false =>
      rw [if_neg Bool.false_ne_true, List.filter_cons_of_pos (by simp [hstarted])]
      cases hsucceeds : succeeds name with
      | false =>
        right
        refine ⟨[], (name, plugin), _, rfl, fun _ hmem => absurd hmem List.not_mem_nil,
          hsucceeds, ?_, ?_⟩
        · rwa [List.append_nil]
        have hrollback := stopPlugins_afterStarts h
          ((manager.afterStarts started).calls ++ [.start plugin.object false])
        have hfailed : (manager.afterStarts started).startEntry name plugin false =
            ⟨manager.plugins.modifyOn (started.map Prod.fst) markStarted,
              (manager.afterStarts started).calls ++ [.start plugin.object false]⟩ := rfl
        rw [Bool.not_false, if_pos rfl, hfailed, hrollback, afterStarts, List.append_nil,
          List.append_assoc manager.calls]
      | true =>
        rw [Bool.not_true, if_neg Bool.false_ne_true, startEntry_afterStarts plugin hfresh]
        have hlonger := h.append hentry hstarted hfresh
        have hnames : (started ++ [(name, plugin)]).map Prod.fst =
            started.map Prod.fst ++ [name] := by
          rw [List.map_append, List.map_singleton]
        have hothers : ∀ entry ∈ rest,
            entry.1 ∉ (started ++ [(name, plugin)]).map Prod.fst := by
          intro entry hmem
          rw [hnames, List.mem_append, List.mem_singleton, not_or]
          refine ⟨hdisjoint entry hmem, ?_⟩
          rintro rfl
          exact hname (List.mem_map.mpr ⟨entry, hmem, rfl⟩)
        have hih := ih hlonger hentries hnodup hothers
        rw [hnames] at hih
        have hjoin : ∀ more, started ++ [(name, plugin)] ++ more =
            started ++ (name, plugin) :: more := fun more => (List.append_cons ..).symm
        simp only [hjoin] at hih
        rcases hih with ⟨hsuccess, hall⟩ | ⟨more, failed, later, hsplit, hmore, hfail, hs, heq⟩
        · exact .inl ⟨List.forall_mem_cons.mpr ⟨hsucceeds, hsuccess⟩, hall⟩
        · right
          refine ⟨(name, plugin) :: more, failed, later, by rw [hsplit, List.cons_append],
            List.forall_mem_cons.mpr ⟨hsucceeds, hmore⟩, hfail, hs, heq⟩

/-- The two exits of `startAll`. -/
theorem startAll_cases (manager : PluginManager) (succeeds : Bytes → Bool) :
    ((∀ entry ∈ manager.idlePlugins, succeeds entry.1 = true) ∧
      manager.startAll succeeds = (manager.afterStarts manager.idlePlugins, true)) ∨
      ∃ started failed later, manager.idlePlugins = started ++ failed :: later ∧
        (∀ entry ∈ started, succeeds entry.1 = true) ∧ succeeds failed.1 = false ∧
        manager.Startable started ∧
        manager.startAll succeeds =
          (⟨manager.plugins, manager.calls ++
            ((started.map fun entry => PluginCall.start entry.2.object true) ++
              [.start failed.2.object false]) ++
            started.map fun entry => .stop entry.2.object⟩, false) := by
  have hnone : manager.Startable [] :=
    ⟨fun _ hmem => absurd hmem List.not_mem_nil, fun _ hmem => absurd hmem List.not_mem_nil,
      List.nodup_nil⟩
  have hnothing : manager.afterStarts [] = manager := by simp [afterStarts]
  have hcases := startAllFrom_cases succeeds manager.plugins.entries hnone
    (fun _ hmem => hmem) manager.plugins.nodup (fun _ _ => List.not_mem_nil)
  rw [hnothing] at hcases
  exact hcases

/-- An idle plugin is one of the map. -/
theorem mem_idlePlugins {entry : Bytes × LoadedPlugin} :
    entry ∈ manager.idlePlugins ↔ entry ∈ manager.plugins.entries ∧ entry.2.started = false := by
  simp [idlePlugins]

/-- Starting the idle plugins turns every flag on and changes nothing else in the map. -/
theorem entries_afterStarts_idlePlugins (manager : PluginManager) :
    (manager.afterStarts manager.idlePlugins).plugins.entries =
      manager.plugins.entries.map fun entry => (entry.1, markStarted entry.2) := by
  apply List.map_congr_left
  rintro ⟨name, plugin⟩ hmem
  dsimp only
  split
  · rfl
  · rename_i hnot
    -- the name of an idle plugin is in the list
    have hstarted : plugin.started = true := by
      by_contra hidle
      exact hnot (List.mem_map.mpr
        ⟨(name, plugin), mem_idlePlugins.mpr ⟨hmem, by simpa using hidle⟩, rfl⟩)
    rw [markStarted, ← hstarted]

/-- `startAll` is all or nothing, for every set of plugins, any of them started, in every
    order and whatever their `start` returns. It returns true exactly when every plugin is
    started afterwards, and exactly when `start` succeeds on all plugins that were not running.

    When it returns true the map has the plugins of before, in the same order and each as it
    was but started, and the calls made are one successful `start` on each plugin that was not
    running. When it returns false the map is as before, and the calls made are the successful
    starts of the plugins that were not running before the first that fails, no one twice, the
    start that failed, and one stop for each of the plugins that this call has started. -/
theorem startAll_all_or_nothing (manager : PluginManager) (succeeds : Bytes → Bool) :
    ((manager.startAll succeeds).2 = true ↔
      ∀ entry ∈ (manager.startAll succeeds).1.plugins.entries, entry.2.started = true) ∧
    ((manager.startAll succeeds).2 = true ↔
      ∀ entry ∈ manager.plugins.entries, entry.2.started = false → succeeds entry.1 = true) ∧
    ((manager.startAll succeeds).2 = true →
      (manager.startAll succeeds).1.plugins.entries =
        (manager.plugins.entries.map fun entry => (entry.1, markStarted entry.2)) ∧
      (manager.startAll succeeds).1.calls = manager.calls ++
        manager.idlePlugins.map fun entry => .start entry.2.object true) ∧
    ((manager.startAll succeeds).2 = false →
      (manager.startAll succeeds).1.plugins = manager.plugins ∧
      ∃ started failed later, manager.idlePlugins = started ++ failed :: later ∧
        (∀ entry ∈ started, succeeds entry.1 = true) ∧ succeeds failed.1 = false ∧
        manager.Startable started ∧
        failed ∈ manager.plugins.entries ∧ failed.2.started = false ∧
        (manager.startAll succeeds).1.calls = manager.calls ++
          ((started.map fun entry => PluginCall.start entry.2.object true) ++
            [.start failed.2.object false]) ++
          started.map fun entry => .stop entry.2.object) := by
  rcases manager.startAll_cases succeeds with
    ⟨hsucceeds, hall⟩ | ⟨started, failed, later, hsplit, hstarts, hfails, hs, heq⟩
  · have hentries := manager.entries_afterStarts_idlePlugins
    rw [hall]
    refine ⟨iff_of_true rfl ?_, iff_of_true rfl ?_, fun _ => ⟨hentries, rfl⟩,
      fun h => absurd h Bool.true_eq_false_eq_False⟩
    · rw [hentries]
      intro entry hentry
      obtain ⟨old, -, rfl⟩ := List.mem_map.mp hentry
      rfl
    · intro entry hentry hidle
      exact hsucceeds entry (mem_idlePlugins.mpr ⟨hentry, hidle⟩)
  · -- the plugin that failed is not running, before and afterwards
    have hfailed : failed ∈ manager.idlePlugins := by
      rw [hsplit]
      exact List.mem_append_right _ List.mem_cons_self
    obtain ⟨hmem, hidle⟩ := mem_idlePlugins.mp hfailed
    rw [heq]
    refine ⟨iff_of_false Bool.false_ne_true ?_, iff_of_false Bool.false_ne_true ?_,
      fun h => absurd h Bool.false_ne_true, fun _ =>
      ⟨rfl, started, failed, later, hsplit, hstarts, hfails, hs, hmem, hidle, rfl⟩⟩
    · intro hstarted
      exact absurd (hstarted failed hmem) (by simp [hidle])
    · intro hsucceeds
      exact absurd (hsucceeds failed hmem hidle) (by simp [hfails])

/-- Three plugins of which the second runs and the third fails: the first is started and
    stopped again. -/
example :
    let plugins : UnorderedMap Bytes LoadedPlugin :=
      ⟨[([97], ⟨1, 10, false, []⟩), ([98], ⟨2, 11, true, []⟩), ([99], ⟨3, 12, false, []⟩)],
        by decide⟩
    (startAll ⟨plugins, []⟩ (· ≠ [99])).1.calls =
      [.start 10 true, .start 12 false, .stop 10] := by
  decide

end PluginManager

end EdgeLink
