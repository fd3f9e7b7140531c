import TableFilter.Proofs.FilterBar.Rebinding

/-!
# Other columns

A bar follows a change of the columns of its table with new filters or new names, and recomputes.
It still takes the last predicate for handed over. So the composed predicate is in force or refused
with the new columns, unless it is that one; and it can be that one without being in force only if
the table has refused it, with the columns that it had then.
-/

namespace TableFilter

theorem View.predicate_setColumns (v : View) (columns : List Column) :
    (v.setColumns columns).predicate = v.predicate := by
  cases v <;> rfl

theorem View.columns_setColumns (v : View) (columns : List Column) :
    (v.setColumns columns).columns = columns := by
  cases v <;> rfl

theorem View.table_setColumns (v : View) (columns : List Column) :
    (v.setColumns columns).table = v.table := by
  cases v <;> rfl

namespace FilterBar

variable {bar : FilterBar}

theorem inForce_syncColumns_iff (bar : FilterBar) (hmode : bar.refreshMode ≠ .off)
    (hsuspended : bar.suspended = 0) (hcolumns : bar.view.columns ≠ []) : bar.syncColumns.InForce ↔
      (bar.lastApplied = some bar.syncColumns.compose →
        bar.view.predicate = bar.syncColumns.compose ∨
          bar.view.Rejects bar.syncColumns.compose) := by
  unfold syncColumns
  split
  case isTrue hstep =>
    refine inForce_recompute_iff { bar with
      bindings := List.zipWith Binding.rename bar.bindings bar.view.columns } hmode hsuspended ?_
    rw [← List.length_pos_iff, List.length_zipWith, length_of_isInStep hstep, Nat.min_self]
    exact List.length_pos_iff.mpr hcolumns
  case isFalse => exact bar.inForce_rebuild_iff hmode hsuspended hcolumns

def withColumns (bar : FilterBar) (columns : List Column) : FilterBar :=
  { bar with view := bar.view.setColumns columns }.syncColumns

/-- Filters that are bound to other columns than the table has are replaced by new ones. -/
theorem compose_withColumns_of_forgotten {columns : List Column}
    (hstep : bar.bindings.map (·.column) ≠ columns.map (·.name))
    (hmemory : bar.memory.snapshot? bar.view.table = none) :
    (bar.withColumns columns).compose = Predicate.narrow
      (Predicate.merge bar.baseOperator "" bar.baseInForce) bar.customFilter := by
  let changed := { bar with view := bar.view.setColumns columns }
  have htable : changed.view.table = bar.view.table := bar.view.table_setColumns columns
  have hout : ¬ changed.isInStep := by
    rw [isInStep, beq_iff_eq, show changed.view.columns = columns from View.columns_setColumns _ _]
    exact hstep
  have hbase : changed.baseInForce = bar.baseInForce := by
    rw [baseInForce, baseInForce, baseFilter, baseFilter, htable]
  have hsync : bar.withColumns columns = changed.rebuild := if_neg hout
  rw [hsync, changed.compose_rebuild_of_forgotten (by rw [htable]; exact hmemory), hbase]

theorem inForce_withColumns_iff {columns : List Column} (hmode : bar.refreshMode ≠ .off)
    (hsuspended : bar.suspended = 0) (hcolumns : columns ≠ []) :
    (bar.withColumns columns).InForce ↔
      (bar.lastApplied = some (bar.withColumns columns).compose →
        bar.view.predicate = (bar.withColumns columns).compose ∨
          (bar.view.setColumns columns).Rejects (bar.withColumns columns).compose) := by
  let changed := { bar with view := bar.view.setColumns columns }
  have hchanged : changed.view.columns ≠ [] := by
    rw [show changed.view.columns = columns from View.columns_setColumns _ _]
    exact hcolumns
  have hiff := changed.inForce_syncColumns_iff hmode hsuspended hchanged
  rwa [show changed.view.predicate = bar.view.predicate from View.predicate_setColumns _ _] at hiff

/-- After a change of the columns the composed predicate is in force or refused, unless it is the
one handed over last. Of that one the bar believes that nothing is to be done, which is wrong only
where the former columns made the table refuse it. -/
theorem column_change_takes_effect {columns : List Column} (hmode : bar.refreshMode ≠ .off)
    (hsuspended : bar.suspended = 0) (hcolumns : columns ≠ []) :
    ((bar.withColumns columns).InForce ↔
      (bar.lastApplied = some (bar.withColumns columns).compose →
        bar.view.predicate = (bar.withColumns columns).compose ∨
          (bar.view.setColumns columns).Rejects (bar.withColumns columns).compose)) ∧
    (bar.CacheHonest → (bar.withColumns columns).InForce ∨
      bar.lastApplied = some (bar.withColumns columns).compose ∧
        bar.view.Rejects (bar.withColumns columns).compose) := by
  have hiff := inForce_withColumns_iff hmode hsuspended hcolumns
  refine ⟨hiff, fun hhonest => ?_⟩
  by_cases hlast : bar.lastApplied = some (bar.withColumns columns).compose
  · rcases hhonest _ hlast with hview | hrejects
    · exact .inl (hiff.mpr fun _ => .inl hview)
    · exact .inr ⟨hlast, hrejects⟩
  · exact .inl (hiff.mpr fun h => absurd h hlast)

/-- The predicate in force is replaced where the filters are new ones. -/
theorem column_change_takes_effect_people :
    (peopleBar.withColumns [.ofName "nick" .text]).InForce := by
  refine (column_change_takes_effect (by decide) rfl (by decide)).1.mpr fun hlast => ?_
  rw [compose_withColumns_of_forgotten (by decide) rfl] at hlast
  exact absurd hlast (by decide)

theorem reads_nick : Reads .disjunction "[nick] = 'ann'"
    (.compare .eq (.column "nick") (.literal (.text "ann"))) := by
  have hn : "nick" ≠ "" := by decide
  exact ((Reads.columnRef hn).equal (.quote "ann")).disjunction_of_comparison

theorem rejects_nick : peopleView.Rejects "[nick] = 'ann'" := by
  rw [View.rejects_iff, View.exists_setPredicate]
  rintro ⟨o, ho, hknown⟩
  rw [ho.unique (.of_reads reads_nick)] at hknown
  obtain ⟨c, hc, hname⟩ := hknown _ rfl "nick" (List.mem_singleton_self _)
  rw [List.mem_singleton.mp hc] at hname
  exact absurd hname (by decide)

theorem view_people : (ofSettings peopleView {}).view = peopleView := by
  have hcompose : (unsettled peopleView {}).compose = "" := compose_of_inactive (by decide)
  exact (unsettled peopleView {}).view_renew (.inl (congrArg some hcompose.symm))

def nickBar : FilterBar :=
  { ofSettings peopleView {} with baseFilters := [(⟨"people"⟩, "[nick] = 'ann'")] }

theorem alike_nickBar : Alike nickBar
    { unsettled peopleView {} with baseFilters := [(⟨"people"⟩, "[nick] = 'ann'")] } :=
  { alike_people with baseFilters := rfl }

theorem setBaseFilter_people : (ofSettings peopleView {}).setBaseFilter "[nick] = 'ann'" =
    nickBar.renew := by
  have hbase : (ofSettings peopleView {}).baseFilters = [] := alike_people.baseFilters
  have hmode : nickBar.refreshMode ≠ .off := alike_nickBar.refreshMode ▸ (by decide)
  have hrecompute : nickBar.recompute = nickBar.renew := if_neg hmode
  rw [← hrecompute]
  simp only [nickBar, setBaseFilter, setBaseFilterFor, hbase, view_people]
  rfl

theorem compose_nickBar : nickBar.compose = "[nick] = 'ann'" := by
  rw [alike_nickBar.compose_eq, compose_of_inactive (by decide)]
  decide

theorem view_nickBar : nickBar.renew.view = peopleView := by
  have hview : nickBar.view = peopleView := view_people
  rw [nickBar.view_renew (.inr ?_), hview]
  rw [compose_nickBar, hview]
  exact rejects_nick

theorem exists_setPredicate_nick : ∃ view,
    (peopleView.setColumns [.ofName "nick" .text]).setPredicate "[nick] = 'ann'" = .ok view := by
  have hknows : (peopleView.setColumns [.ofName "nick" .text]).Knows "nick" :=
    ⟨.ofName "nick" .text, List.mem_singleton_self _, rfl⟩
  exact View.exists_setPredicate_of_reads reads_nick (by simpa [Expr.mentions] using hknows)

/-- A predicate over a missing column was refused, and is not handed over when the column is there,
although the table would accept it. -/
theorem refused_predicate_stays_away :
    ∃ bar : FilterBar, (ofSettings peopleView {}).setBaseFilter "[nick] = 'ann'" = bar ∧
      bar.refreshMode ≠ .off ∧ bar.suspended = 0 ∧ bar.view.Rejects bar.compose ∧
      (bar.withColumns [.ofName "nick" .text]).compose = bar.compose ∧
      ¬ (bar.withColumns [.ofName "nick" .text]).InForce := by
  have ha := nickBar.alike_renew.trans alike_nickBar
  have hmode : nickBar.renew.refreshMode ≠ .off := ha.refreshMode ▸ (by decide)
  have hcompose : nickBar.renew.compose = "[nick] = 'ann'" :=
    nickBar.alike_renew.compose_eq.trans compose_nickBar
  have hlast : nickBar.renew.lastApplied = some "[nick] = 'ann'" := by
    rw [lastApplied_renew alike_nickBar.suspended alike_nickBar.isIdle_eq, compose_nickBar]
  have hafter : (nickBar.renew.withColumns [.ofName "nick" .text]).compose = "[nick] = 'ann'" := by
    rw [compose_withColumns_of_forgotten, ha.customFilter, ha.baseOperator, baseInForce, baseFilter,
      ha.baseEnabled, ha.baseFilters, ha.table]
    · decide
    · rw [ha.bindings]
      decide
    · apply TableMemory.snapshot?_of_disabled
      rw [enabled_renew]
      exact enabled_people
  refine ⟨_, setBaseFilter_people, hmode, ha.suspended, ?_, ?_, fun hforce => ?_⟩
  · rw [hcompose, view_nickBar]
    exact rejects_nick
  · rw [hafter, hcompose]
  · have hiff := inForce_withColumns_iff hmode ha.suspended
      (List.cons_ne_nil (Column.ofName "nick" .text) [])
    rw [hafter, view_nickBar] at hiff
    rcases hiff.mp hforce hlast with hview | hrejects
    · exact absurd hview (by decide)
    · exact View.rejects_iff.mp hrejects exists_setPredicate_nick

end FilterBar
end TableFilter
