import TableFilter.Proofs.FilterBar.Columns
import TableFilter.Proofs.FilterBar.Snapshots

/-!
# Remembered filters keep their places

A table may get other columns while a bar is bound to it. New filters take over what is remembered
of the table by position, whatever the columns are called. So a new filter in use stands where one
was in use when the snapshot was recorded, and has what it takes from what that one wrote. A column
that kept its place has its own criteria; one that was moved has those of the column that stood
there. Where the columns have the names that they had, no filter moves.
-/

namespace TableFilter

namespace Binding

variable {new : Binding} {predicate : String}

/-- A new filter that is in use has what it takes from the predicate it was given. -/
theorem restored_of_isActive (hdisposed : new.filter.widget.disposed = false)
    (hinactive : new.filter.isActive = false)
    (h : (new.restore predicate).filter.isActive) : predicate ≠ "" ∧
      (new.restore predicate).filter.strategy.restore? predicate =
        some (new.restore predicate).filter.input := by
  by_cases hp : predicate = ""
  · rw [restore, if_pos hp] at h
    have hclear : new.clear.filter.isActive = false := Filter.isActive_clear hdisposed
    rw [hclear] at h
    cases h
  refine ⟨hp, ?_⟩
  cases hr : new.filter.strategy.restore? predicate with
  | none =>
    rw [restore_of_none hp hr, hinactive] at h
    cases h
  | some input =>
    rw [restore, if_neg hp, Filter.setFilter, hr]
    exact hr.trans (congrArg some (Filter.input_put hdisposed input).symm)

/-- Predicates are restored in the order of the filters, and further filters stay. -/
theorem restored_getElem? {news : List Binding} {predicates : List String} {i : Nat} {b : Binding}
    (h : (List.zipWith restore news predicates ++ news.drop predicates.length)[i]? = some b) :
    ∃ new ∈ news, (∃ p, predicates[i]? = some p ∧ b = new.restore p) ∨ b = new := by
  induction news generalizing predicates i with
  | nil => simp at h
  | cons new news ih =>
    cases predicates with
    | nil => exact ⟨b, List.mem_of_getElem? h, .inr rfl⟩
    | cons p predicates =>
      cases i with
      | zero => exact ⟨new, List.mem_cons_self, .inl ⟨p, rfl, (Option.some.inj h).symm⟩⟩
      | succ i =>
        obtain ⟨new', hmem, hb⟩ := ih h
        exact ⟨new', List.mem_cons_of_mem new hmem, hb⟩

end Binding

namespace FilterBar

variable {bar : FilterBar}

/-- Every filter in use stands at the place of a predicate and has what it takes from it. -/
def RestoredInPlace (predicates : List String) (bar : FilterBar) : Prop :=
  ∀ (i : Nat) (b : Binding), bar.bindings[i]? = some b → b.filter.isActive →
    ∃ p, predicates[i]? = some p ∧ p ≠ "" ∧ b.filter.strategy.restore? p = some b.filter.input

theorem map_column_rebuild_eq (bar : FilterBar) :
    bar.rebuild.bindings.map (·.column) = bar.view.columns.map (·.name) := by
  have horigins := congrArg (List.map Prod.fst) bar.hasMadeFilters_rebuild
  rw [List.map_map, List.map_map, bar.sameTable_rebuild.columns] at horigins
  exact horigins

theorem isActive_rebuild_of_forgotten (h : bar.memory.snapshot? bar.view.table = none) :
    ∀ b ∈ bar.rebuild.bindings, b.filter.isActive = false := by
  have hbindings : bar.rebuild.bindings = bar.rebound.bindings := (alike_recompute _).bindings
  rw [hbindings, rebound_of_forgotten h]
  exact bar.unbind.isActive_of_mem_bind

theorem restoredInPlace_rebuild {s : TableSnapshot}
    (h : bar.memory.snapshot? bar.view.table = some s) :
    RestoredInPlace s.filters bar.rebuild := by
  intro i b hb hactive
  rw [bindings_rebuild_of_remembered h] at hb
  obtain ⟨new, hnew, ⟨p, hp, rfl⟩ | rfl⟩ := Binding.restored_getElem? hb
  · exact ⟨p, hp, Binding.restored_of_isActive (bar.allLive_bind new hnew).disposed
      (bar.isActive_of_mem_bind new hnew) hactive⟩
  · rw [bar.isActive_of_mem_bind b hnew] at hactive
    cases hactive

/-- New filters are those of the columns, and what is in use among them was remembered. -/
theorem rebuild_restores (bar : FilterBar) :
    bar.rebuild.bindings.map (·.column) = bar.view.columns.map (·.name) ∧
      ((∀ b ∈ bar.rebuild.bindings, b.filter.isActive = false) ∨
        ∃ s, bar.memory.snapshot? bar.view.table = some s ∧
          RestoredInPlace s.filters bar.rebuild) := by
  refine ⟨bar.map_column_rebuild_eq, ?_⟩
  cases hs : bar.memory.snapshot? bar.view.table with
  | none => exact .inl (isActive_rebuild_of_forgotten hs)
  | some s => exact .inr ⟨s, rfl, restoredInPlace_rebuild hs⟩

/-- A bar that is given predicates in the order of its columns remembers them if its table accepts
what it composes. -/
theorem hasJustAccepted_setFilters {view : View} {s : FilterSettings} {predicates : List String}
    {e : Expr} (hpredicate : view.predicate = "") (hmode : s.refreshMode ≠ .off)
    (hidle : ((unsettled view s).restore predicates).isIdle = false)
    (hreads : Reads .disjunction ((unsettled view s).restore predicates).compose e)
    (hknown : ∀ name ∈ e.mentions, view.Knows name) :
    ((ofSettings view s).setFilters predicates).HasJustAccepted := by
  let bar := (ofSettings view s).restore predicates
  have ha : Alike bar ((unsettled view s).restore predicates) :=
    (alike_ofSettings view s).restore predicates
  have hsuspended : bar.suspended = 0 := ha.suspended.trans (suspended_rebound _)
  have hcompose : ((ofSettings view s).setFilters predicates).compose =
      ((unsettled view s).restore predicates).compose := by
    rw [setFilters_ofSettings hmode, bar.alike_renew.compose_eq, ha.compose_eq]
  refine ⟨⟨bar, hsuspended, ha.isIdle_eq.trans hidle, (setFilters_ofSettings hmode _).symm⟩, ?_⟩
  rw [hcompose]
  exact accepted_setFilters hpredicate hmode hidle hreads hknown

def rememberingSettings : FilterSettings := { keepFilters := true }

def rememberingBar : FilterBar :=
  (ofSettings peopleView rememberingSettings).setFilters ["[name] LIKE 'ann*'"]

theorem alike_rememberingBar : Alike rememberingBar
    ((unsettled peopleView rememberingSettings).restore ["[name] LIKE 'ann*'"]) :=
  (alike_recompute _).trans ((alike_ofSettings peopleView rememberingSettings).restore _)

theorem filters_rememberingBar : rememberingBar.filters = ["[name] LIKE 'ann*'"] := by
  rw [filters_eq alike_rememberingBar]
  decide

theorem enabled_rememberingBar : rememberingBar.memory.enabled := by
  have hrestored : rememberingBar.memory.enabled = _ := enabled_recompute _
  have hmade := (unsettled peopleView rememberingSettings).enabled_recompute
  exact hrestored.trans hmade

theorem snapshot?_rememberingBar : rememberingBar.memory.snapshot? ⟨"people"⟩ =
    some ⟨⟨"people"⟩, ["[name] LIKE 'ann*'"]⟩ := by
  have hactive : ((unsettled peopleView rememberingSettings).restore
      ["[name] LIKE 'ann*'"]).active = [(0, "[name] LIKE 'ann*'")] := by decide
  have hcompose : ((unsettled peopleView rememberingSettings).restore
      ["[name] LIKE 'ann*'"]).compose = "[name] LIKE 'ann*'" := by
    rw [compose_of_active_singleton hactive]
    rfl
  have haccepted : rememberingBar.HasJustAccepted := by
    apply hasJustAccepted_setFilters rfl (by decide) rfl
    · rw [hcompose]
      exact reads_likeAnn
    · have hknows : peopleView.Knows "name" := knows_people (.refl peopleView)
      simpa [Expr.mentions] using hknows
  have hsnapshot := snapshot?_of_justAccepted haccepted enabled_rememberingBar
  rwa [alike_rememberingBar.table, filters_rememberingBar] at hsnapshot

theorem reached_rememberingBar : Relation.ReflTransGen Proceeds
    (ofSettings peopleView rememberingSettings) rememberingBar :=
  .single (.inl ⟨.setFilters ["[name] LIKE 'ann*'"], rfl⟩)

def reshapedBar (columns : List Column) : FilterBar :=
  { rememberingBar with view := rememberingBar.view.setColumns columns }

theorem table_reshapedBar (columns : List Column) : (reshapedBar columns).view.table = ⟨"people"⟩ :=
  (View.table_setColumns _ _).trans alike_rememberingBar.table

/-- What is remembered goes to the first of two columns of text. -/
theorem bindings_rebuild_reshapedBar (name name' : String) (lastApplied : Option String) :
    { reshapedBar [.ofName name .text, .ofName name' .text] with lastApplied }.rebuild.bindings =
      [⟨name, name, ⟨.text, { input := .text "ann", listener := some 0 }⟩⟩,
        ⟨name', name', ⟨.text, { input := .text "", listener := some 1 }⟩⟩] := by
  let bar := { reshapedBar [.ofName name .text, .ofName name' .text] with lastApplied }
  have hfactory : bar.factory = .ofSettings rememberingSettings :=
    (factory_recompute _).trans (unsettled peopleView rememberingSettings).factory_recompute
  have hcolumns : bar.view.columns = [.ofName name .text, .ofName name' .text] :=
    View.columns_setColumns _ _
  have hsnapshot : bar.memory.snapshot? bar.view.table =
      some ⟨⟨"people"⟩, ["[name] LIKE 'ann*'"]⟩ := by
    rw [show bar.view.table = ⟨"people"⟩ from table_reshapedBar _]
    exact snapshot?_rememberingBar
  have hbind : bar.bind.bindings =
      [⟨name, name, ⟨.text, { input := .text "", listener := some 0 }⟩⟩,
        ⟨name', name', ⟨.text, { input := .text "", listener := some 1 }⟩⟩] := by
    simp only [bind, bindColumn, hfactory, hcolumns]
    rfl
  rw [bindings_rebuild_of_remembered hsnapshot, hbind]
  rfl

/-- Whatever columns the table of a bar shows now, new filters that are in use have what they take
from what is remembered for their places, and filters that are kept stay with their columns. What
is remembered for the places of a table is what the filters at these places wrote for it earlier. -/
theorem remembered_filters_keep_their_places :
    (∀ (bar : FilterBar) (now : View),
      let changed : FilterBar := { bar with view := now }
      (∀ after, after = changed.rebuild ∨ after = changed.dataSourceChanged ∨
          after = changed.syncColumns ∧ changed.isInStep = false →
        after.bindings.map (·.column) = now.columns.map (·.name) ∧
          ((∀ b ∈ after.bindings, b.filter.isActive = false) ∨
            ∃ s, bar.memory.snapshot? now.table = some s ∧ RestoredInPlace s.filters after)) ∧
        (changed.isInStep → changed.syncColumns.bindings.map (fun b => (b.column, b.filter)) =
          bar.bindings.map fun b => (b.column, b.filter))) ∧
    ∀ (view : View) (settings : FilterSettings) (overrides : List (String × FilterKind))
      (bar : FilterBar),
      Relation.ReflTransGen Proceeds (ofSettings view settings overrides) bar →
        ∀ t s, bar.memory.snapshot? t = some s → ∃ recorded,
          Relation.ReflTransGen Proceeds (ofSettings view settings overrides) recorded ∧
            Relation.ReflTransGen Proceeds recorded bar ∧ recorded.view.table = t ∧
            recorded.bindings.map Binding.fragment = s.filters := by
  constructor
  · intro bar now changed
    constructor
    · rintro after (rfl | rfl | ⟨rfl, hout⟩)
      · exact rebuild_restores changed
      · exact rebuild_restores { changed with lastApplied := some "" }
      · have hsync : changed.syncColumns = changed.rebuild := if_neg (by simp [hout])
        rw [hsync]
        exact rebuild_restores changed
    · intro hstep
      rw [syncColumns, if_pos hstep, (alike_recompute _).bindings]
      exact map_rename (fun _ _ => rfl) (length_of_isInStep hstep)
  · intro view settings overrides bar hr t s hs
    obtain ⟨recorded, hfrom, hto, rfl⟩ := exists_recorded hr s (TableMemory.mem_of_snapshot? hs)
    exact ⟨recorded, hfrom, hto, TableMemory.table_of_snapshot? hs, rfl⟩

/-- A column that is added behind the others gets nothing, and what the first column has was
recorded earlier. -/
theorem remembered_filters_keep_their_places_ann :
    let after := (reshapedBar [.ofName "name" .text, .ofName "town" .text]).rebuild
    after.filters = ["[name] LIKE 'ann*'", ""] ∧
      RestoredInPlace ["[name] LIKE 'ann*'"] after ∧
      ∃ recorded, Relation.ReflTransGen Proceeds (ofSettings peopleView rememberingSettings)
        recorded ∧ recorded.bindings.map Binding.fragment = ["[name] LIKE 'ann*'"] := by
  intro after
  have hfilters : after.filters = ["[name] LIKE 'ann*'", ""] := by
    rw [filters, bindings_rebuild_reshapedBar]
    decide
  refine ⟨hfilters, ?_, ?_⟩
  · obtain ⟨-, hinactive | ⟨s, hs, hrestored⟩⟩ := (remembered_filters_keep_their_places.1
      rememberingBar (reshapedBar [.ofName "name" .text, .ofName "town" .text]).view).1 after
        (.inl rfl)
    · have hempty : ∀ s ∈ after.filters, s = "" := by
        intro s hs
        obtain ⟨b, hb, rfl⟩ := List.mem_map.mp hs
        exact if_neg (Bool.eq_false_iff.mp (hinactive b hb))
      rw [hfilters] at hempty
      exact absurd (hempty _ List.mem_cons_self) (by decide)
    · rw [table_reshapedBar, snapshot?_rememberingBar] at hs
      rw [← Option.some.inj hs] at hrestored
      exact hrestored
  · obtain ⟨recorded, hfrom, -, -, hwritten⟩ := remembered_filters_keep_their_places.2 _ _ _ _
      reached_rememberingBar _ _ snapshot?_rememberingBar
    exact ⟨recorded, hfrom, hwritten⟩

/-- A column that is put in front takes over the filter of the one that stood there, whichever way
the bar follows the change. -/
theorem column_in_front_takes_over :
    let changed := reshapedBar [.ofName "town" .text, .ofName "name" .text]
    rememberingBar.memory.enabled ∧ rememberingBar.bindings.map (·.column) = ["name"] ∧
      rememberingBar.memory.snapshot? changed.view.table =
        some ⟨changed.view.table, rememberingBar.filters⟩ ∧
      rememberingBar.filters = ["[name] LIKE 'ann*'"] ∧
      changed.view.table = rememberingBar.view.table ∧
      ∀ after, after = changed.rebuild ∨ after = changed.dataSourceChanged ∨
          after = changed.syncColumns →
        after.bindings.map (fun b => (b.column, b.fragment)) =
          [("town", "[town] LIKE 'ann*'"), ("name", "")] := by
  intro changed
  have hcolumns : changed.view.columns = [.ofName "town" .text, .ofName "name" .text] :=
    View.columns_setColumns _ _
  have hbound : rememberingBar.bindings.map (·.column) = ["name"] := by
    rw [alike_rememberingBar.bindings]
    decide
  have hout : ¬ changed.isInStep := by
    rw [isInStep, beq_iff_eq, hcolumns, show changed.bindings = rememberingBar.bindings from rfl,
      hbound]
    decide
  have htakes (lastApplied : Option String) (after : FilterBar)
      (h : after = { changed with lastApplied }.rebuild) :
      after.bindings.map (fun b => (b.column, b.fragment)) =
        [("town", "[town] LIKE 'ann*'"), ("name", "")] := by
    rw [h, bindings_rebuild_reshapedBar]
    decide
  refine ⟨enabled_rememberingBar, hbound, ?_, filters_rememberingBar,
    (table_reshapedBar _).trans alike_rememberingBar.table.symm, ?_⟩
  · rw [filters_rememberingBar, table_reshapedBar]
    exact snapshot?_rememberingBar
  · rintro after (h | h | h)
    · exact htakes _ after h
    · exact htakes (some "") after h
    · exact htakes _ after (h.trans (if_neg hout))

end FilterBar
end TableFilter
