import TableFilter.Proofs.FilterBar.Composition
import TableFilter.Proofs.FilterBar.Edits
import TableFilter.Proofs.FilterBar.Remembering

/-!
# Other tables

A recompute hands the composed predicate over unless it is the one that the bar takes for handed
over already; then the table is left as it is. A bar that is given another table takes it for one
without a predicate. So the composed predicate is in force or refused afterwards, unless nothing is
composed and the table came with a predicate.
-/

namespace TableFilter

open Text

theorem Strategy.isActive_initial (s : Strategy) : s.isActive s.initial = false := by
  cases s <;> rfl

namespace FilterBar

variable {bar b : FilterBar}

/-- A predicate that was handed over before is not handed over again, whatever the table has made of
it in the meantime. -/
theorem inForce_renew_iff (hsuspended : bar.suspended = 0) (hidle : bar.isIdle = false) :
    bar.renew.InForce ↔ (bar.lastApplied = some bar.compose → bar.InForce) := by
  have hskip : ¬ (bar.suspended > 0 || bar.isIdle) = true := by simp [hsuspended, hidle]
  rw [InForce, bar.alike_renew.compose_eq, renew, if_neg hskip]
  by_cases hlast : bar.lastApplied = some bar.compose
  · rw [if_pos hlast, view_remember]
    exact ⟨fun h _ => h, fun h => h hlast⟩
  · rw [if_neg hlast, view_remember]
    exact ⟨fun _ h => absurd h hlast, fun _ => bar.view_push bar.compose⟩

/-- Nothing happens to the table if the predicate is not a new one or is refused. -/
theorem view_renew (bar : FilterBar)
    (h : bar.lastApplied = some bar.compose ∨ bar.view.Rejects bar.compose) :
    bar.renew.view = bar.view := by
  unfold renew
  split
  · rfl
  · split
    · exact bar.view_remember
    · rename_i hlast
      rw [view_remember]
      cases hs : bar.view.setPredicate bar.compose with
      | ok view => exact absurd hs (h.resolve_left hlast view)
      | error e => simp only [push, emit, hs]

/-- What can be read and names columns of the table is accepted. -/
theorem accepted_renew (hhonest : bar.CacheHonest) (hsuspended : bar.suspended = 0)
    (hidle : bar.isIdle = false) {e : Expr} (hreads : Reads .disjunction bar.compose e)
    (hknown : ∀ name ∈ e.mentions, bar.view.Knows name) :
    bar.renew.view.predicate = bar.compose := by
  have hforce := inForce_renew hhonest hsuspended hidle
  rw [InForce, bar.alike_renew.compose_eq, bar.sameTable_renew.rejects_iff] at hforce
  have haccepted := View.exists_setPredicate_of_reads hreads hknown
  exact hforce.resolve_right fun hrejects => View.rejects_iff.mp hrejects haccepted

theorem inForce_recompute_iff (bar : FilterBar) (hmode : bar.refreshMode ≠ .off)
    (hsuspended : bar.suspended = 0) (hbound : bar.bindings ≠ []) : bar.recompute.InForce ↔
      (bar.lastApplied = some bar.recompute.compose →
        bar.view.predicate = bar.recompute.compose ∨ bar.view.Rejects bar.recompute.compose) := by
  rw [bar.alike_recompute.compose_eq, recompute, if_neg hmode]
  exact inForce_renew_iff hsuspended (isIdle_of_bound hbound)

theorem refreshMode_rebound (bar : FilterBar) : bar.rebound.refreshMode = bar.refreshMode := by
  rw [rebound, reinstate]
  split <;> rfl

theorem suspended_rebound (bar : FilterBar) : bar.rebound.suspended = bar.suspended := by
  rw [rebound, reinstate]
  split <;> rfl

theorem length_bindings_rebound (bar : FilterBar) :
    bar.rebound.bindings.length = bar.view.columns.length := by
  have hbind : bar.unbind.bind.bindings.length = bar.view.columns.length := by
    simp only [bind, unbind, emit, List.length_map, List.length_zipIdx]
  rw [rebound, reinstate]
  split
  · rw [length_restore, hbind]
  · exact hbind

theorem bindings_rebound_ne_nil (h : bar.view.columns ≠ []) : bar.rebound.bindings ≠ [] := by
  rw [← List.length_pos_iff, length_bindings_rebound]
  exact List.length_pos_iff.mpr h

theorem inForce_rebuild_iff (bar : FilterBar) (hmode : bar.refreshMode ≠ .off)
    (hsuspended : bar.suspended = 0) (hcolumns : bar.view.columns ≠ []) : bar.rebuild.InForce ↔
      (bar.lastApplied = some bar.rebuild.compose →
        bar.view.predicate = bar.rebuild.compose ∨ bar.view.Rejects bar.rebuild.compose) := by
  have h := bar.rebound.inForce_recompute_iff (bar.refreshMode_rebound ▸ hmode)
    (bar.suspended_rebound ▸ hsuspended) (bindings_rebound_ne_nil hcolumns)
  rwa [lastApplied_rebound, view_rebound] at h

theorem inForce_dataSourceChanged_iff (bar : FilterBar) (hmode : bar.refreshMode ≠ .off)
    (hsuspended : bar.suspended = 0) (hcolumns : bar.view.columns ≠ []) :
    bar.dataSourceChanged.InForce ↔
      (bar.dataSourceChanged.compose = "" → bar.view.predicate = "") := by
  have h : bar.dataSourceChanged.InForce ↔
      (some "" = some bar.dataSourceChanged.compose →
        bar.view.predicate = bar.dataSourceChanged.compose ∨
          bar.view.Rejects bar.dataSourceChanged.compose) :=
    inForce_rebuild_iff { bar with lastApplied := some "" } hmode hsuspended hcolumns
  rw [h, Option.some.injEq]
  constructor
  · intro hforce hempty
    have hp := hforce hempty.symm
    rw [hempty] at hp
    exact hp.resolve_right bar.view.not_rejects_empty
  · intro hview hempty
    rw [← hempty]
    exact .inl (hview hempty.symm)

/-- Filters that restrict nothing leave the base filter and the custom filter. -/
theorem compose_of_inactive (h : ∀ b ∈ bar.bindings, b.filter.isActive = false) :
    bar.compose = Predicate.narrow (Predicate.merge bar.baseOperator "" bar.baseInForce)
      bar.customFilter := by
  have hactive : bar.active = [] := by
    rw [active, List.filterMap_eq_nil_iff]
    intro b hb
    rw [h b hb]
    cases bar.view.column? b.column <;> simp
  rw [compose_eq, fragments, hactive, List.mergeSort_nil]
  rfl

theorem isActive_of_mem_bind (bar : FilterBar) : ∀ b ∈ bar.bind.bindings,
    b.filter.isActive = false := by
  intro b hb
  obtain ⟨⟨c, position⟩, -, rfl⟩ := List.mem_map.mp hb
  exact Strategy.isActive_initial _

theorem rebound_of_forgotten (h : bar.memory.snapshot? bar.view.table = none) :
    bar.rebound = bar.unbind.bind := by
  have hnone : bar.unbind.bind.memory.snapshot? bar.unbind.bind.view.table = none := h
  rw [rebound, reinstate, hnone]

/-- Where nothing is remembered, new filters restrict nothing. -/
theorem compose_rebuild_of_forgotten (bar : FilterBar)
    (h : bar.memory.snapshot? bar.view.table = none) : bar.rebuild.compose =
      Predicate.narrow (Predicate.merge bar.baseOperator "" bar.baseInForce) bar.customFilter := by
  have hcompose : bar.rebuild.compose = bar.rebound.compose := (alike_recompute _).compose_eq
  rw [hcompose, rebound_of_forgotten h, compose_of_inactive bar.unbind.isActive_of_mem_bind]
  rfl

theorem compose_of_active_singleton {index : Nat} {s : String} (h : bar.active = [(index, s)]) :
    bar.compose = Predicate.narrow (Predicate.merge bar.baseOperator
      (Predicate.join bar.operator [s]) bar.baseInForce) bar.customFilter := by
  rw [compose_eq, fragments, h, List.mergeSort_singleton]
  rfl

def unsettled (view : View) (s : FilterSettings) : FilterBar :=
  rebound {
    view
    factory := .ofSettings s
    baseEnabled := s.baseEnabled
    baseOperator := s.baseOperator
    operator := s.operator
    refreshMode := s.refreshMode
    memory := { enabled := s.keepFilters }
    reporter := ⟨s.logErrors, s.notifyErrors⟩ }

theorem alike_ofSettings (view : View) (s : FilterSettings) :
    Alike (ofSettings view s) (unsettled view s) :=
  alike_recompute _

theorem alike_people : Alike (ofSettings peopleView {}) (unsettled peopleView {}) :=
  alike_ofSettings _ _

theorem Alike.restore {a b : FilterBar} (h : Alike a b) (predicates : List String) :
    Alike (a.restore predicates) (b.restore predicates) :=
  { h with bindings := by rw [bindings_restore, bindings_restore, h.bindings], queue := rfl }

theorem setFilters_ofSettings {view : View} {s : FilterSettings} (hmode : s.refreshMode ≠ .off)
    (predicates : List String) : (ofSettings view s).setFilters predicates =
      ((ofSettings view s).restore predicates).renew := by
  have ha := (alike_ofSettings view s).restore predicates
  have hsettings : ((unsettled view s).restore predicates).refreshMode = s.refreshMode :=
    refreshMode_rebound _
  apply if_neg
  rw [ha.refreshMode, hsettings]
  exact hmode

/-- A table without a predicate accepts what its new filters compose from the predicates they are
given, if that can be read and names its columns. -/
theorem accepted_setFilters {view : View} {s : FilterSettings} {predicates : List String} {e : Expr}
    (hpredicate : view.predicate = "") (hmode : s.refreshMode ≠ .off)
    (hidle : ((unsettled view s).restore predicates).isIdle = false)
    (hreads : Reads .disjunction ((unsettled view s).restore predicates).compose e)
    (hknown : ∀ name ∈ e.mentions, view.Knows name) :
    ((ofSettings view s).setFilters predicates).view.predicate =
      ((unsettled view s).restore predicates).compose := by
  let bar := (ofSettings view s).restore predicates
  have ha : Alike bar ((unsettled view s).restore predicates) :=
    (alike_ofSettings view s).restore predicates
  have hsuspended : bar.suspended = 0 := ha.suspended.trans (suspended_rebound _)
  have hfirst : (ofSettings view s).CacheHonest := honest_ofSettings hpredicate s []
  have hhonest : bar.CacheHonest := hfirst.of_eq rfl rfl
  have hview : (unsettled view s).view = view := view_rebound _
  have hsame : bar.view.SameTable (unsettled view s).view := sameTable_recompute _
  rw [setFilters_ofSettings hmode, ← ha.compose_eq]
  apply accepted_renew hhonest hsuspended (ha.isIdle_eq.trans hidle)
  · rw [ha.compose_eq]
    exact hreads
  · intro name hname
    rw [hsame.knows, hview]
    exact hknown name hname

theorem enabled_people : (ofSettings peopleView {}).memory.enabled = false :=
  (unsettled peopleView {}).enabled_recompute

theorem knows_people {v : View} (h : v.SameTable peopleView) : v.Knows "name" :=
  (h.knows "name").mpr ⟨.ofName "name" .text, List.mem_singleton_self _, rfl⟩

theorem reads_likeAnn : Reads .disjunction "[name] LIKE 'ann*'"
    (.like (.column "name") (.literal (.text "ann*"))) := by
  have hn : "name" ≠ "" := by decide
  exact ((Reads.columnRef hn).like (.quote "ann*")).disjunction_of_comparison

theorem reads_ann : Reads .disjunction "[name] = 'ann'"
    (.compare .eq (.column "name") (.literal (.text "ann"))) := by
  have hn : "name" ≠ "" := by decide
  exact ((Reads.columnRef hn).equal (.quote "ann")).disjunction_of_comparison

theorem exists_setPredicate_ann : ∃ view, peopleView.setPredicate "[name] = 'ann'" = .ok view :=
  View.exists_setPredicate_of_reads reads_ann
    (by simpa [Expr.mentions] using knows_people (.refl peopleView))

theorem alike_people_restored : Alike
    ((ofSettings peopleView {}).setFilters ["[name] LIKE 'ann*'"])
    ((unsettled peopleView {}).restore ["[name] LIKE 'ann*'"]) :=
  (alike_recompute _).trans (alike_people.restore _)

theorem compose_people_restored :
    ((unsettled peopleView {}).restore ["[name] LIKE 'ann*'"]).compose = "[name] LIKE 'ann*'" := by
  have hactive : ((unsettled peopleView {}).restore ["[name] LIKE 'ann*'"]).active =
      [(0, "[name] LIKE 'ann*'")] := by decide
  rw [compose_of_active_singleton hactive]
  rfl

theorem view_people_restored :
    ((ofSettings peopleView {}).setFilters ["[name] LIKE 'ann*'"]).view.predicate =
      "[name] LIKE 'ann*'" := by
  have hreads := reads_likeAnn
  rw [← compose_people_restored] at hreads
  refine (accepted_setFilters rfl (by decide) rfl hreads ?_).trans compose_people_restored
  have hknows : peopleView.Knows "name" := knows_people (.refl peopleView)
  simpa [Expr.mentions] using hknows

/-- After another table or other data the composed predicate is in force or refused, unless it is
empty and the table came with a predicate, which then stays. -/
theorem rebinding_agrees (hmode : bar.refreshMode ≠ .off) (hsuspended : bar.suspended = 0) :
    (∀ view : View, view.columns ≠ [] → ((bar.setView view).InForce ↔
      ((bar.setView view).compose = "" → view.predicate = ""))) ∧
    (bar.view.columns ≠ [] → (bar.dataSourceChanged.InForce ↔
      (bar.dataSourceChanged.compose = "" → bar.view.predicate = ""))) :=
  ⟨fun view hcolumns =>
    inForce_dataSourceChanged_iff { bar with view } hmode hsuspended hcolumns,
    bar.inForce_dataSourceChanged_iff hmode hsuspended⟩

/-- The custom filter replaces the predicate that the table came with. -/
theorem rebinding_agrees_people : ∃ view, peopleView.setPredicate "[name] = 'ann'" = .ok view ∧
    (peopleBar.setView view).InForce := by
  obtain ⟨view, hview⟩ := exists_setPredicate_ann
  have ha := View.accepts_of_setPredicate hview
  refine ⟨view, hview, ((rebinding_agrees (by decide) rfl).1 view ?_).mpr fun hempty => ?_⟩
  · rw [ha.columns]
    decide
  · have hcompose : (peopleBar.setView view).compose = Predicate.narrow
        (Predicate.merge .or "" "[adult] = true") "[adult] = true OR [adult] = false" := by
      refine (compose_rebuild_of_forgotten _ rfl).trans ?_
      simp only [baseInForce, baseFilter, ha.table]
      rfl
    rw [hcompose] at hempty
    exact absurd hempty (by decide)

theorem compose_dataSourceChanged_of_plain (hbase : bar.baseFilters = [])
    (hcustom : bar.customFilter = "") (hmemory : bar.memory.enabled = false) :
    bar.dataSourceChanged.compose = "" := by
  have h := compose_rebuild_of_forgotten { bar with lastApplied := some "" }
    (TableMemory.snapshot?_of_disabled hmemory)
  have hbaseInForce : { bar with lastApplied := some "" }.baseInForce = "" := by
    simp [baseInForce, baseFilter, hbase]
  rw [dataSourceChanged, h, hbaseInForce]
  change Predicate.narrow _ bar.customFilter = ""
  rw [hcustom]
  rfl

/-- Where nothing is left to compose, the table keeps its predicate. -/
theorem not_inForce_dataSourceChanged (bar : FilterBar) (hmode : bar.refreshMode ≠ .off)
    (hsuspended : bar.suspended = 0) (hcolumns : bar.view.columns ≠ [])
    (hbase : bar.baseFilters = []) (hcustom : bar.customFilter = "")
    (hmemory : bar.memory.enabled = false) (hview : bar.view.predicate ≠ "") :
    ¬ bar.dataSourceChanged.InForce := by
  rw [bar.inForce_dataSourceChanged_iff hmode hsuspended hcolumns]
  exact fun h => hview (h (compose_dataSourceChanged_of_plain hbase hcustom hmemory))

/-- A table that comes with a predicate keeps it although no filter is set, and so does one whose
filters are gone because it shows other data. -/
theorem stale_predicate_stays :
    (∃ view, peopleView.setPredicate "[name] = 'ann'" = .ok view ∧ view.columns ≠ [] ∧
      ¬ ((ofSettings peopleView {}).setView view).InForce) ∧
    ∃ bar : FilterBar, (ofSettings peopleView {}).setFilters ["[name] LIKE 'ann*'"] = bar ∧
      bar.refreshMode ≠ .off ∧ bar.suspended = 0 ∧ bar.view.columns ≠ [] ∧
      ¬ bar.dataSourceChanged.InForce := by
  constructor
  · obtain ⟨view, hview⟩ := exists_setPredicate_ann
    have ha := View.accepts_of_setPredicate hview
    have hcolumns : view.columns ≠ [] := by
      rw [ha.columns]
      decide
    refine ⟨view, hview, hcolumns, ?_⟩
    apply not_inForce_dataSourceChanged { ofSettings peopleView {} with view }
    case hmode => exact alike_people.refreshMode ▸ (by decide)
    case hsuspended => exact alike_people.suspended
    case hcolumns => exact hcolumns
    case hbase => exact alike_people.baseFilters
    case hcustom => exact alike_people.customFilter
    case hmemory => exact enabled_people
    case hview =>
      change view.predicate ≠ ""
      rw [ha.predicate]
      decide
  · have ha := alike_people_restored
    have hmode : ((ofSettings peopleView {}).setFilters
        ["[name] LIKE 'ann*'"]).refreshMode ≠ .off := by
      rw [ha.refreshMode]
      decide
    have hcolumns : ((ofSettings peopleView {}).setFilters
        ["[name] LIKE 'ann*'"]).view.columns ≠ [] := by
      rw [ha.columns]
      decide
    refine ⟨_, rfl, hmode, ha.suspended, hcolumns, ?_⟩
    apply not_inForce_dataSourceChanged _ hmode ha.suspended hcolumns ha.baseFilters ha.customFilter
    · exact (enabled_recompute _).trans enabled_people
    · rw [view_people_restored]
      decide

end FilterBar
end TableFilter
