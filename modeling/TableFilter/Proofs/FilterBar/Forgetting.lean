import TableFilter.Proofs.Filter.Forgetting
import TableFilter.Proofs.FilterBar.Returning

/-!
# What is remembered of a table

A bar that is given another table and then the first one again has new filters with the criteria
that it remembers of the table, unless the table has a filter whose criteria are forgotten. Then
the user sees the table without the restriction, or with another one. This happens in tables that
accept the composed predicate, with criteria that a user can enter.
-/

namespace TableFilter

open Literal

/-- A new filter of the kind, which offers a range as others do, does not get the criteria. -/
def Binding.Forgets (between : Bool) (b : Binding) : Prop :=
  b.filter.isActive ∧ (b.filter.strategy.withRange between).Forgets b.filter.input

theorem Binding.recovers_iff_not_forgets {between : Bool} {b : Binding} :
    b.Recovers between ↔ ¬ b.Forgets between := by
  rw [Recovers, Forgets, ← Strategy.not_recovers_iff, not_and_not_right]

namespace FilterBar

def annBar : FilterBar where
  view := peopleView
  bindings := [⟨"name", "name", ⟨.text, { input := .text "ann" }⟩⟩]
  factory := .ofSettings {}
  baseEnabled := true
  baseOperator := .and
  operator := .and
  refreshMode := .onInput
  memory := { enabled := true }
  reporter := {}

theorem compose_annBar : annBar.compose = "[name] LIKE 'ann*'" := by
  have hactive : annBar.active = [(0, "[name] LIKE 'ann*'")] := by decide
  rw [compose_of_active_singleton hactive]
  decide

theorem hasJustAccepted_annBar : annBar.renew.HasJustAccepted := by
  have hhonest : annBar.CacheHonest := by
    intro p hp
    exact .inl (Option.some.inj hp)
  refine ⟨⟨annBar, rfl, rfl, rfl⟩, ?_⟩
  rw [annBar.alike_renew.compose_eq]
  apply accepted_renew hhonest rfl rfl
  · rw [compose_annBar]
    exact reads_likeAnn
  · have hknows : annBar.view.Knows "name" := knows_people (.refl peopleView)
    simpa [Expr.mentions] using hknows

theorem hasMadeFilters_annBar : annBar.HasMadeFilters := by
  unfold HasMadeFilters
  decide

/-- Wherever operations lead a bar after it has made its filters, they are those that its factory
would make. From such a bar, after its table has accepted what it composes, another table and the
first one again lead to filters that write the same unless the criteria of one of them are
forgotten, and only then; as long as they write the same, the composed predicate is the same, too.
-/
theorem table_memory_restores (bar : FilterBar) :
    (∀ b, Relation.ReflTransGen Performs bar.rebuild b → b.HasMadeFilters) ∧
    ∀ other back : View, bar.HasMadeFilters → bar.memory.enabled → bar.HasJustAccepted →
      (∀ c ∈ bar.view.columns, c.name ≠ "") → other.table ≠ bar.view.table →
      back.table = bar.view.table → back.columns = bar.view.columns →
      (∀ name, back.columnValues name = bar.view.columnValues name) →
      (((bar.setView other).setView back).filters = bar.filters ↔
        ∀ b ∈ bar.bindings, ¬ b.Forgets bar.factory.offerRange) ∧
      (((bar.setView other).setView back).filters = bar.filters →
        ((bar.setView other).setView back).compose = bar.compose) := by
  refine ⟨fun b hr => (hasMadeFilters_rebuild bar).run hr, ?_⟩
  intro other back hmade hmemory haccepted hnames hother htable hcolumns hvalues
  let first : FilterBar := { bar.setView other with view := back, lastApplied := some "" }
  have hfactory : first.factory = bar.factory := (bar.sameSettings_setView other).factory
  have hsettings : SameSettings ((bar.setView other).setView back) bar :=
    (sameSettings_setView _ back).trans (bar.sameSettings_setView other)
  have hsnapshot : first.memory.snapshot? first.view.table =
      some ⟨first.view.table, bar.filters⟩ := by
    rw [show first.view.table = bar.view.table from htable]
    exact snapshot?_away haccepted hmemory hother
  have hbound : ((bar.setView other).setView back).bindings.map (·.column) =
      bar.bindings.map (·.column) :=
    map_column_rebuild hmade hfactory hcolumns hvalues hsnapshot
  have hview : ((bar.setView other).setView back).view.SameTable back :=
    sameTable_rebuild first
  have hnames' : ∀ c ∈ ((bar.setView other).setView back).view.columns, c.name ≠ "" := by
    rw [hview.columns, hcolumns]
    exact hnames
  have hmade' : ((bar.setView other).setView back).HasMadeFilters := first.hasMadeFilters_rebuild
  simp only [← Binding.recovers_iff_not_forgets]
  exact ⟨filters_rebuild_iff hmade hfactory hcolumns hvalues hsnapshot hnames,
    compose_congr hsettings (hview.table.trans htable) (hview.columns.trans hcolumns)
      (column_ne_empty hmade' hnames') (column_ne_empty hmade hnames) hbound⟩

/-- The bar has its filter again after a look at the cities. -/
theorem table_memory_restores_ann :
    ((annBar.renew.setView (.memory { table := ⟨"cities"⟩, columns := [] })).setView
      peopleView).filters = ["[name] LIKE 'ann*'"] := by
  have ha := annBar.alike_renew
  have hkeeps := annBar.keeps_renew
  have hrestores := ((table_memory_restores annBar.renew).2
    (.memory { table := ⟨"cities"⟩, columns := [] }) peopleView
    (hasMadeFilters_annBar.of_keeps hkeeps) ?_ hasJustAccepted_annBar ?_ ?_ ?_ ?_ ?_).1.mpr ?_
  · rw [hrestores, filters_eq ha]
    decide
  · rw [enabled_renew]
    rfl
  · rw [ha.columns]
    decide
  · rw [ha.table]
    decide
  · exact ha.table.symm
  · exact ha.columns.symm
  · exact fun name => (hkeeps.table.columnValues name).symm
  · rintro b hb ⟨-, hforgets⟩
    rw [ha.bindings] at hb
    rw [List.mem_singleton.mp hb] at hforgets
    exact hforgets

section Entries

variable {settings : FilterSettings} {c : Column} {edits : List Edit} {f : Filter}
  {written back : String}

def columnView (c : Column) : View := .memory { table := ⟨"people"⟩, columns := [c] }

def newBinding (settings : FilterSettings) (c : Column) : Binding :=
  let strategy := ((FilterFactory.ofSettings settings).create c (columnView c)).1
  ⟨c.name, c.displayName, ⟨strategy, { input := strategy.initial, listener := some 0 }⟩⟩

def columnBar (settings : FilterSettings) (c : Column) (f : Filter) : FilterBar where
  view := columnView c
  bindings := [{ newBinding settings c with filter := f }]
  factory := .ofSettings settings
  baseEnabled := settings.baseEnabled
  baseOperator := settings.baseOperator
  operator := settings.operator
  refreshMode := settings.refreshMode
  memory := { enabled := settings.keepFilters }
  reporter := ⟨settings.logErrors, settings.notifyErrors⟩

def entryBar (settings : FilterSettings) (c : Column) (f : Filter) : FilterBar :=
  { ofSettings (columnView c) settings with
    bindings := [{ newBinding settings c with filter := f }], queue := [] }

theorem alike_column (settings : FilterSettings) (c : Column) :
    Alike (ofSettings (columnView c) settings)
      (columnBar settings c (newBinding settings c).filter) := by
  refine (alike_ofSettings (columnView c) settings).trans ?_
  rw [unsettled, rebound_of_forgotten (by simp [TableMemory.snapshot?, TableMemory.find?])]
  exact ⟨rfl, rfl, rfl, rfl, rfl, rfl, rfl, rfl, rfl, rfl, rfl⟩

theorem alike_entryBar (settings : FilterSettings) (c : Column) (f : Filter) :
    Alike (entryBar settings c f) (columnBar settings c f) :=
  { alike_column settings c with bindings := rfl, queue := rfl }

theorem edit_entryBar (hmode : settings.refreshMode = .onInput)
    (hedits : (newBinding settings c).filter.editAll edits = (f, [⟨.changed, 0⟩])) :
    (ofSettings (columnView c) settings).edit c.name edits = .ok (entryBar settings c f).renew := by
  have ha := alike_column settings c
  have hmode' : (entryBar settings c f).refreshMode = .onInput := ha.refreshMode.trans hmode
  have hfilter : (ofSettings (columnView c) settings).filter? c.name =
      some (newBinding settings c).filter := by
    rw [filter?, ha.bindings]
    simp [columnBar, newBinding]
  have hdirectly : (ofSettings (columnView c) settings).editDirectly c.name edits =
      .ok { entryBar settings c f with queue := [⟨.changed, 0⟩] } := by
    rw [editDirectly, hfilter]
    simp only [hedits, ha.bindings, ha.queue]
    simp [replaceFilter, entryBar, columnBar, newBinding]
  have hprocess : { entryBar settings c f with queue := [⟨.changed, 0⟩] }.process =
      (entryBar settings c f).renew := by
    change (entryBar settings c f).handle ⟨.changed, 0⟩ = _
    rw [handle, hmode']
    exact if_neg (by rw [hmode']; decide)
  rw [edit, hdirectly, Except.map, hprocess]

/-- The predicate of the only filter is composed as it is. -/
theorem compose_columnBar (hvisible : c.visible) (hactive : f.isActive)
    (hwritten : f.fragment (columnRef c.name) = written) (htrim : Text.trim written = written)
    (hne : written ≠ "") : (columnBar settings c f).compose = written := by
  have hparts : (columnBar settings c f).active = [(c.displayIndex, written)] := by
    simp [active, columnBar, columnView, newBinding, View.column?, View.columns, Binding.fragment,
      Binding.ref, hactive, hvisible, hwritten]
  have hbase : (columnBar settings c f).baseInForce = "" := ite_self ""
  have hblank : Text.trim "" = "" := by decide
  rw [compose_of_active_singleton hparts, hbase]
  simp [columnBar, Predicate.narrow, Predicate.merge, Predicate.join, Predicate.present, htrim, hne,
    hblank]

/-- The filter that a user has entered into a new bar writes one predicate, which the table accepts,
and another one after a look at another table. -/
def ComesBackAs (settings : FilterSettings) (c : Column) (edits : List Edit)
    (written back : String) : Prop :=
  ∃ (bar : FilterBar) (other : View),
    (ofSettings (columnView c) settings).edit c.name edits = .ok bar ∧
    bar.memory.enabled ∧ bar.refreshMode ≠ .off ∧ bar.suspended = 0 ∧ bar.HasJustAccepted ∧
    (∀ c ∈ bar.view.columns, c.name ≠ "") ∧ other.table ≠ bar.view.table ∧
    (columnView c).SameTable bar.view ∧ (columnView c).predicate = "" ∧
    bar.filters = [written] ∧ ((bar.setView other).setView (columnView c)).filters = [back]

theorem hasJustAccepted_entryBar (hname : c.name ≠ "") (hvisible : c.visible)
    (hactive : f.isActive) (hwritten : f.fragment (columnRef c.name) = written)
    (htrim : Text.trim written = written) : (entryBar settings c f).renew.HasJustAccepted := by
  have ha := alike_entryBar settings c f
  have hfirst : (ofSettings (columnView c) settings).CacheHonest := honest_ofSettings rfl _ []
  have hhonest : (entryBar settings c f).CacheHonest := hfirst.of_eq rfl rfl
  have hsuspended : (entryBar settings c f).suspended = 0 := ha.suspended
  obtain ⟨e, hreads, hcolumns⟩ := Strategy.readsOver_fragment hname hactive
  have hreads' : Reads .disjunction written e := by
    rw [← hwritten]
    exact hreads
  refine ⟨⟨entryBar settings c f, hsuspended, rfl, rfl⟩, ?_⟩
  rw [(entryBar settings c f).alike_renew.compose_eq]
  apply accepted_renew hhonest hsuspended rfl
  · rw [ha.compose_eq, compose_columnBar hvisible hactive hwritten htrim hreads'.ne_empty]
    exact hreads'
  · intro name h
    rw [← Expr.mem_columns, hcolumns] at h
    have hsame : (entryBar settings c f).view.SameTable (columnView c) := sameTable_rebuild _
    rw [List.mem_singleton.mp h, hsame.knows]
    exact ⟨c, List.mem_singleton_self c, rfl⟩

theorem bindings_bind_column {bar : FilterBar} (h : bar.factory = .ofSettings settings) :
    { bar with view := columnView c, lastApplied := some "" }.bind.bindings =
      [newBinding settings c] := by
  simp only [bind, bindColumn, h]
  rfl

theorem ComesBackAs.of_edit (hkeep : settings.keepFilters) (hmode : settings.refreshMode = .onInput)
    (hname : c.name ≠ "") (hvisible : c.visible)
    (hedits : (newBinding settings c).filter.editAll edits = (f, [⟨.changed, 0⟩]))
    (hactive : f.isActive) (hwritten : f.fragment (columnRef c.name) = written)
    (htrim : Text.trim written = written)
    (hback : ((newBinding settings c).restore written).fragment = back) :
    ComesBackAs settings c edits written back := by
  let bar := (entryBar settings c f).renew
  let other : View := .memory { table := ⟨"cities"⟩, columns := [] }
  have ha : Alike bar (columnBar settings c f) :=
    (entryBar settings c f).alike_renew.trans (alike_entryBar settings c f)
  have hmemory : bar.memory.enabled := by
    have hmade : (ofSettings (columnView c) settings).memory.enabled = settings.keepFilters :=
      (enabled_recompute _).trans (congrArg TableMemory.enabled (memory_rebound _))
    rw [show bar.memory.enabled = (ofSettings (columnView c) settings).memory.enabled from
      (entryBar settings c f).enabled_renew, hmade, hkeep]
  have hsame : (columnView c).SameTable bar.view :=
    ((entryBar settings c f).sameTable_renew.trans (sameTable_rebuild _)).symm
  have hfilters : bar.filters = [written] := by
    rw [filters_eq ha, filters]
    simp [columnBar, newBinding, Binding.fragment, Binding.ref, hactive, hwritten]
  have hother : other.table ≠ bar.view.table := by
    rw [← hsame.table]
    exact fun h => absurd (congrArg TableId.name h) (show "cities" ≠ "people" by decide)
  have hsnapshot : (bar.setView other).memory.snapshot? (columnView c).table =
      some ⟨(columnView c).table, [written]⟩ := by
    rw [hsame.table, ← hfilters]
    exact snapshot?_away (hasJustAccepted_entryBar hname hvisible hactive hwritten htrim) hmemory
      hother
  have hbindings : ((bar.setView other).setView (columnView c)).bindings =
      [(newBinding settings c).restore written] := by
    have hfactory : (bar.setView other).factory = .ofSettings settings := by
      rw [(bar.sameSettings_setView other).factory]
      exact (entryBar settings c f).factory_renew.trans
        ((sameSettings_recompute _).trans (sameSettings_rebound _)).factory
    refine (bindings_rebuild_of_remembered hsnapshot).trans ?_
    rw [bindings_bind_column hfactory]
    rfl
  refine ⟨bar, other, edit_entryBar hmode hedits, hmemory, ?_, ha.suspended,
    hasJustAccepted_entryBar hname hvisible hactive hwritten htrim, ?_, hother, hsame, rfl, hfilters,
    ?_⟩
  · rw [ha.refreshMode, show (columnBar settings c f).refreshMode = .onInput from hmode]
    decide
  · rw [ha.columns]
    simpa [columnBar, columnView, View.columns] using hname
  · rw [filters, hbindings, List.map_singleton, hback]

end Entries

/-- The widest range and an operand that is no number are given up, a zero loses its sign, day and
month of a date change places, and a range is given up that the user has asked for where the
settings do not offer it. -/
theorem entries_are_forgotten :
    let settings : FilterSettings := { keepFilters := true }
    let age := Column.ofName "age" .number
    ComesBackAs settings age
      [.setNumeric (some .between) (some "-79228162514264337593543950335")
        (some "79228162514264337593543950335")]
      "[age] >= -79228162514264337593543950335 AND [age] <= 79228162514264337593543950335" "" ∧
    ComesBackAs settings age [.setNumeric none (some "abc") none] "[age] = false" "" ∧
    ComesBackAs settings age [.setNumeric none (some "-0.4e-28") none]
      "[age] = -0.0000000000000000000000000000" "[age] = 0.0000000000000000000000000000" ∧
    ComesBackAs { settings with dateFormats := ["%Y-%d-%m"] } (.ofName "sent" .date)
      [.setDate (some (some (.compare .eq))) (some "2001-04-03") none]
      "[sent] = #03/04/2001#" "[sent] = #04/03/2001#" ∧
    ComesBackAs { settings with offerRange := false } age
      [.offerRange true, .setNumeric (some .between) (some "1") (some "5")]
      "[age] >= 1 AND [age] <= 5" "" := by
  have hage : "age" ≠ "" := by decide
  refine ⟨.of_edit rfl rfl hage rfl rfl ?_ ?_ ?_ ?_, .of_edit rfl rfl hage rfl rfl ?_ ?_ ?_ ?_,
    .of_edit rfl rfl hage rfl rfl ?_ ?_ ?_ ?_,
    .of_edit rfl rfl (by decide) rfl rfl ?_ ?_ ?_ ?_,
    .of_edit rfl rfl hage rfl rfl ?_ ?_ ?_ ?_⟩ <;> decide +kernel

end FilterBar
end TableFilter
