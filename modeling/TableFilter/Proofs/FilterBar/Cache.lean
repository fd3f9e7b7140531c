import Mathlib.Logic.Relation
import TableFilter.Proofs.FilterBar.Handover

/-!
# The last predicate is remembered truly

Whatever is done to a bar without changing its table from outside, the predicate that it takes for
the last one handed over is the predicate in force, unless the table refuses it or the bar has
decided to hand the next one over in any case. No operation looks at anything else of the table than
what handing over keeps, so that the invariant passes through every interleaving of operations.
-/

namespace TableFilter

def Operation.keepsView : Operation → Bool
  | .dataSourceChanged | .setView _ => false
  | _ => true

namespace FilterBar

variable {bar b : FilterBar}

/-- What can happen to a bar whose table is not changed from outside: an operation, any change of a
filter with any events, and changes of the memory and of the reports. -/
inductive Step : FilterBar → FilterBar → Prop where
  | perform {bar b : FilterBar} (op : Operation) : op.keepsView → bar.perform op = .ok b → Step bar b
  | alter (bar : FilterBar) (column : String) (f : Filter) (events : List WidgetEvent) :
      Step bar { bar with
        bindings := replaceFilter column f bar.bindings, queue := bar.queue ++ events }
  | memorize (bar : FilterBar) (memory : TableMemory) : Step bar { bar with memory }
  | report (bar : FilterBar) (reporter : Reporter) : Step bar { bar with reporter }

/-- The bar was given other settings or filters before it recomputed. -/
theorem CacheHonest.recompute_of_eq (h : bar.CacheHonest) (hview : b.view = bar.view)
    (hlast : b.lastApplied = bar.lastApplied) : b.recompute.CacheHonest :=
  (h.of_eq hview hlast).recompute

theorem editDirectly_eq_ok {column : String} {edits : List Edit}
    (h : bar.editDirectly column edits = .ok b) : ∃ f, bar.filter? column = some f ∧
      b = { bar with
        bindings := replaceFilter column (f.editAll edits).1 bar.bindings
        queue := bar.queue ++ (f.editAll edits).2 } := by
  unfold editDirectly at h
  split at h
  case h_1 => cases h
  case h_2 f hf => exact ⟨f, hf, (Except.ok.inj h).symm⟩

theorem edit_eq_ok {column : String} {edits : List Edit} (h : bar.edit column edits = .ok b) :
    ∃ edited, bar.editDirectly column edits = .ok edited ∧ edited.process = b :=
  map_eq_ok.mp h

theorem CacheHonest.handle (h : bar.CacheHonest) (e : WidgetEvent) :
    (bar.handle e).CacheHonest := by
  unfold FilterBar.handle
  split
  · exact h
  · exact h.recompute
  · exact bar.honest_refresh

theorem CacheHonest.foldl_handle (h : bar.CacheHonest) (events : List WidgetEvent) :
    (events.foldl FilterBar.handle bar).CacheHonest := by
  induction events generalizing bar with
  | nil => exact h
  | cons e events ih => exact ih (h.handle e)

theorem CacheHonest.process (h : bar.CacheHonest) : bar.process.CacheHonest := by
  have hq : { bar with queue := [] }.CacheHonest := h.of_eq rfl rfl
  exact hq.foldl_handle bar.queue

theorem CacheHonest.editDirectly (h : bar.CacheHonest) {column : String} {edits : List Edit}
    (hb : bar.editDirectly column edits = .ok b) : b.CacheHonest := by
  obtain ⟨f, -, rfl⟩ := editDirectly_eq_ok hb
  exact h.of_eq rfl rfl

theorem CacheHonest.edit (h : bar.CacheHonest) {column : String} {edits : List Edit}
    (hb : bar.edit column edits = .ok b) : b.CacheHonest := by
  obtain ⟨edited, hedited, rfl⟩ := edit_eq_ok hb
  exact (h.editDirectly hedited).process

def rebound (bar : FilterBar) : FilterBar := bar.unbind.bind.reinstate

theorem view_rebound (bar : FilterBar) : bar.rebound.view = bar.view := by
  rw [rebound, reinstate]
  split <;> rfl

theorem lastApplied_rebound (bar : FilterBar) : bar.rebound.lastApplied = bar.lastApplied := by
  rw [rebound, reinstate]
  split <;> rfl

theorem CacheHonest.rebuild (h : bar.CacheHonest) : bar.rebuild.CacheHonest :=
  h.recompute_of_eq bar.view_rebound bar.lastApplied_rebound

theorem CacheHonest.syncColumns (h : bar.CacheHonest) : bar.syncColumns.CacheHonest := by
  unfold FilterBar.syncColumns
  split
  · exact h.recompute_of_eq rfl rfl
  · exact h.rebuild

theorem CacheHonest.endUpdate (h : bar.CacheHonest) : bar.endUpdate.CacheHonest := by
  simp only [FilterBar.endUpdate]
  split
  · exact h.recompute_of_eq rfl rfl
  · exact h.of_eq rfl rfl

theorem CacheHonest.perform (h : bar.CacheHonest) {op : Operation} (hop : op.keepsView)
    (hb : bar.perform op = .ok b) : b.CacheHonest := by
  cases op with
  | edit column edits => exact h.edit hb
  | editDirectly column edits => exact h.editDirectly hb
  | commit column => exact h.edit hb
  | leave column => exact h.edit hb
  | dataSourceChanged => cases hop
  | setView view => cases hop
  | process =>
    cases hb
    exact h.process
  | handle e =>
    cases hb
    exact h.handle e
  | refresh =>
    cases hb
    exact bar.honest_refresh
  | rebuild =>
    cases hb
    exact h.rebuild
  | syncColumns =>
    cases hb
    exact h.syncColumns
  | endUpdate =>
    cases hb
    exact h.endUpdate
  | setRefreshMode mode =>
    cases hb
    exact h.of_eq rfl rfl
  | setKeepFilters keep =>
    cases hb
    exact h.of_eq rfl rfl
  | beginUpdate =>
    cases hb
    exact h.of_eq rfl rfl
  -- The settings that a predicate is composed of are replaced before the bar recomputes.
  | _ =>
    cases hb
    exact h.recompute_of_eq rfl rfl

theorem CacheHonest.step (h : bar.CacheHonest) (hs : Step bar b) : b.CacheHonest := by
  cases hs with
  | perform op hop hb => exact h.perform hop hb
  | alter | memorize | report => exact h.of_eq rfl rfl

theorem CacheHonest.run (h : bar.CacheHonest) (hr : Relation.ReflTransGen Step bar b) :
    b.CacheHonest := by
  induction hr with
  | refl => exact h
  | tail _ hs ih => exact ih.step hs

/-- A bar takes a table for one without a predicate at first. -/
theorem honest_ofSettings {view : View} (hview : view.predicate = "") (s : FilterSettings)
    (overrides : List (String × FilterKind)) : (ofSettings view s overrides).CacheHonest := by
  apply CacheHonest.rebuild
  intro p hp
  cases hp
  exact .inl hview

/-- In every state that a bar reaches, what it takes for the last predicate is in force or refused.
A recompute that is not skipped, whatever was set before it, puts the composed predicate in force
unless the table refuses it, and recomputing once more changes nothing and tells nobody. -/
theorem cache_never_lies {view : View} {s : FilterSettings} {overrides : List (String × FilterKind)}
    {bar : FilterBar} (hview : view.predicate = "")
    (hr : Relation.ReflTransGen Step (ofSettings view s overrides) bar) :
    bar.CacheHonest ∧
      ∀ b : FilterBar, b.view = bar.view → b.lastApplied = bar.lastApplied → b.suspended = 0 →
        b.isIdle = false →
        (b.refreshMode ≠ .off → b.recompute.InForce ∧ b.recompute.recompute = b.recompute) ∧
          b.refresh.InForce ∧ b.refresh.recompute = b.refresh := by
  have hbar := (honest_ofSettings hview s overrides).run hr
  refine ⟨hbar, fun b hbview hlast hsuspended hidle => ⟨fun hmode => ?_, ?_⟩⟩
  · rw [recompute, if_neg hmode]
    exact ⟨inForce_renew (hbar.of_eq hbview hlast) hsuspended hidle,
      recompute_renew hsuspended hidle⟩
  · exact ⟨inForce_renew (.of_none rfl) hsuspended hidle, recompute_renew hsuspended hidle⟩

/-- The first of two predicates is accepted and the second one refused. -/
theorem cache_never_lies_people :
    let view : View := .memory
      { table := ⟨"people"⟩, columns := [.ofName "name" .text], rows := [[.text "Ann"], [.text "Bo"]] }
    let bar := ((ofSettings view {}).setBaseFilter "[name] = 'ann'").setCustomFilter "("
    bar.view.predicate = "[name] = 'ann'" ∧ bar.view.rowCount = 1 ∧
      bar.lastApplied = some "([name] = 'ann') AND (()" ∧ bar.CacheHonest ∧
      bar.recompute.InForce ∧ bar.recompute.recompute = bar.recompute ∧
      bar.refresh.InForce ∧ bar.refresh.recompute = bar.refresh := by
  intro view bar
  have hr : Relation.ReflTransGen Step (ofSettings view {}) bar :=
    .tail (.single (.perform (.setBaseFilter "[name] = 'ann'") rfl rfl))
      (.perform (.setCustomFilter "(") rfl rfl)
  obtain ⟨hhonest, hlater⟩ := cache_never_lies rfl hr
  obtain ⟨hrecompute, hrefresh⟩ := hlater bar rfl rfl (by decide +kernel) (by decide +kernel)
  obtain ⟨hforce, hagain⟩ := hrecompute (by decide +kernel)
  exact ⟨by decide +kernel, by decide +kernel, by decide +kernel, hhonest, hforce, hagain, hrefresh⟩

end FilterBar
end TableFilter
