import TableFilter.Proofs.Filter.Losing
import TableFilter.Proofs.FilterBar.Origins
import TableFilter.Proofs.FilterBar.Rebinding

/-!
# Returning to a table

A bar that is given another table and then the first one again has made new filters twice. The
second time it restores them from what it remembers of the table, which is what the filters wrote
when their predicate was last accepted. The new filters write what the old ones wrote exactly if
each of them takes its criteria from it.
-/

namespace TableFilter

open Literal

namespace Filter

theorem isActive_clear {f : Filter} (h : f.widget.disposed = false) :
    f.clear.1.isActive = false := by
  rw [clear]
  by_cases hs : f.strategy = .empty
  · rw [hs]
    change f.strategy.isActive f.input = false
    rw [hs]
    rfl
  · have hcleared : f.strategy.cleared? = some f.strategy.initial := by
      unfold Strategy.cleared?
      split
      · exact absurd ‹_› hs
      · rfl
    rw [hcleared]
    change f.strategy.isActive (f.put f.strategy.initial).1.input = false
    rw [input_put h]
    exact Strategy.isActive_initial _

end Filter

namespace Binding

variable {between : Bool} {old new : Binding}

structure Renews (between : Bool) (old new : Binding) : Prop where
  column : new.column = old.column
  strategy : new.filter.strategy = old.filter.strategy.withRange between
  disposed : new.filter.widget.disposed = false
  inactive : new.filter.isActive = false

def Recovers (between : Bool) (b : Binding) : Prop :=
  b.filter.isActive → (b.filter.strategy.withRange between).Recovers b.filter.input

theorem fragment_ne_empty (hn : old.column ≠ "") (h : old.filter.isActive) : old.fragment ≠ "" := by
  rw [fragment, if_pos h]
  exact Strategy.fragment_ne_empty hn h

theorem fragment_ne_empty_iff (hn : old.column ≠ "") : old.fragment ≠ "" ↔ old.filter.isActive := by
  constructor
  · intro h
    by_contra hactive
    exact h (if_neg hactive)
  · exact fragment_ne_empty hn

theorem fragment_eq (b : Binding) :
    b.fragment = b.filter.strategy.fragment b.filter.input (columnRef b.column) := by
  rw [fragment]
  split
  · rfl
  · rename_i h
    exact (Strategy.fragment_of_not_isActive (Bool.eq_false_iff.mpr h) _).symm

theorem fragment_restore_of_some (h : new.filter.widget.disposed = false) {s : String}
    {input : Input} (hs : s ≠ "") (hr : new.filter.strategy.restore? s = some input) :
    (new.restore s).fragment = new.filter.strategy.fragment input (columnRef new.column) := by
  have hput : new.restore s = { new with filter := (new.filter.put input).1 } := by
    rw [restore, if_neg hs, Filter.setFilter, hr]
    rfl
  have hinput := Filter.input_put h input
  rw [hput, fragment_eq, hinput]
  rfl

/-- A predicate that is not recognised leaves the filter as it is. -/
theorem restore_of_none {s : String} (hs : s ≠ "") (hr : new.filter.strategy.restore? s = none) :
    new.restore s = new := by
  rw [restore, if_neg hs, Filter.setFilter, hr]
  rfl

theorem fragment_restore_of_none (h : new.filter.isActive = false) {s : String} (hs : s ≠ "")
    (hr : new.filter.strategy.restore? s = none) : (new.restore s).fragment = "" := by
  rw [restore_of_none hs hr]
  exact if_neg (Bool.eq_false_iff.mp h)

theorem fragment_restore_empty (h : new.filter.widget.disposed = false) :
    (new.restore "").fragment = "" := by
  have hclear : new.clear.filter.isActive = false := Filter.isActive_clear h
  rw [restore, if_pos rfl]
  exact if_neg (Bool.eq_false_iff.mp hclear)

/-- A new filter writes what it is given if and only if the old one has criteria that recover. -/
theorem fragment_restore_iff (h : Renews between old new) (hn : old.column ≠ "") :
    (new.restore old.fragment).fragment = old.fragment ↔ old.Recovers between := by
  by_cases hactive : old.filter.isActive
  · have hs : new.filter.strategy.isActive old.filter.input := by
      rw [h.strategy, Strategy.isActive_withRange]
      exact hactive
    have hold : new.filter.strategy.fragment old.filter.input (columnRef old.column) =
        old.fragment := by
      rw [h.strategy, Strategy.fragment_withRange, fragment_eq]
    have hne := fragment_ne_empty hn hactive
    rw [Recovers, imp_iff_right hactive, ← h.strategy, Strategy.recovers_iff hn hs, hold]
    cases hr : new.filter.strategy.restore? old.fragment with
    | none =>
      rw [fragment_restore_of_none h.inactive hne hr]
      simp [hne.symm]
    | some input =>
      rw [fragment_restore_of_some h.disposed hne hr, h.column]
      simp
  · have hold : old.fragment = "" := if_neg hactive
    rw [hold, fragment_restore_empty h.disposed]
    exact ⟨fun _ h => absurd h hactive, fun _ => rfl⟩

theorem column_restore (b : Binding) (s : String) : (b.restore s).column = b.column := by
  unfold restore
  split <;> rfl

section List

variable {olds news : List Binding} (h : List.Forall₂ (Renews between) olds news)

include h

theorem map_column_restore : (List.zipWith restore news (olds.map fragment) ++
    news.drop (olds.map fragment).length).map column = olds.map column := by
  induction h with
  | nil => rfl
  | @cons old new olds news hold _ ih =>
    rw [List.map_cons, List.zipWith_cons_cons, List.length_cons, List.drop_succ_cons,
      List.cons_append, List.map_cons, List.map_cons, column_restore, hold.column, ih]

theorem map_fragment_restore_iff (hn : ∀ b ∈ olds, b.column ≠ "") :
    (List.zipWith restore news (olds.map fragment) ++ news.drop (olds.map fragment).length).map
      fragment = olds.map fragment ↔ ∀ b ∈ olds, b.Recovers between := by
  induction h with
  | nil => simp
  | @cons old new olds news hold _ ih =>
    obtain ⟨hn, hns⟩ := List.forall_mem_cons.mp hn
    rw [List.map_cons, List.zipWith_cons_cons, List.length_cons, List.drop_succ_cons,
      List.cons_append, List.map_cons, List.cons.injEq, fragment_restore_iff hold hn, ih hns,
      List.forall_mem_cons]

end List

end Binding

namespace FilterBar

variable {bar a b : FilterBar} {view : View}

/-- Display index and predicate of what is written for a column, if there is anything and the column
is visible. -/
def part? (bar : FilterBar) (p : String × String) : Option (Nat × String) := do
  let c ← bar.view.column? p.1
  if c.visible && p.2 != "" then some (c.displayIndex, p.2) else none

/-- What the filters write decides which of them take part, in a table whose columns have names. -/
theorem active_eq (hn : ∀ b ∈ bar.bindings, b.column ≠ "") :
    bar.active = ((bar.bindings.map (·.column)).zip bar.filters).filterMap bar.part? := by
  rw [active, filters, List.zip_map', List.filterMap_map]
  apply List.filterMap_congr
  intro b hb
  have hactive : b.filter.isActive = (b.fragment != "") := by
    rw [Bool.eq_iff_iff, bne_iff_ne, Binding.fragment_ne_empty_iff (hn b hb)]
  rw [hactive]
  rfl

structure SameSettings (a b : FilterBar) : Prop where
  factory : a.factory = b.factory
  baseFilters : a.baseFilters = b.baseFilters
  baseEnabled : a.baseEnabled = b.baseEnabled
  baseOperator : a.baseOperator = b.baseOperator
  operator : a.operator = b.operator
  customFilter : a.customFilter = b.customFilter

theorem SameSettings.trans {c : FilterBar} (h : SameSettings a b) (h' : SameSettings b c) :
    SameSettings a c :=
  ⟨h.factory.trans h'.factory, h.baseFilters.trans h'.baseFilters,
    h.baseEnabled.trans h'.baseEnabled, h.baseOperator.trans h'.baseOperator,
    h.operator.trans h'.operator, h.customFilter.trans h'.customFilter⟩

theorem sameSettings_recompute (bar : FilterBar) : SameSettings bar.recompute bar :=
  have h := bar.alike_recompute
  ⟨bar.factory_recompute, h.baseFilters, h.baseEnabled, h.baseOperator, h.operator, h.customFilter⟩

theorem sameSettings_rebound (bar : FilterBar) : SameSettings bar.rebound bar := by
  rw [rebound, reinstate]
  split <;> exact ⟨rfl, rfl, rfl, rfl, rfl, rfl⟩

theorem sameSettings_setView (bar : FilterBar) (view : View) :
    SameSettings (bar.setView view) bar :=
  (sameSettings_recompute _).trans
    ((sameSettings_rebound _).trans ⟨rfl, rfl, rfl, rfl, rfl, rfl⟩)

theorem compose_congr (h : SameSettings a b) (htable : a.view.table = b.view.table)
    (hcolumns : a.view.columns = b.view.columns) (hn : ∀ c ∈ a.bindings, c.column ≠ "")
    (hn' : ∀ c ∈ b.bindings, c.column ≠ "")
    (hbound : a.bindings.map (·.column) = b.bindings.map (·.column))
    (hfilters : a.filters = b.filters) : a.compose = b.compose := by
  have hpart : a.part? = b.part? := by
    funext p
    rw [part?, part?, View.column?, View.column?, hcolumns]
  have hactive : a.active = b.active := by
    rw [active_eq hn, active_eq hn', hbound, hfilters, hpart]
  simp only [compose, fragments, hactive, baseFilter, htable, h.baseFilters, h.baseEnabled,
    h.baseOperator, h.operator, h.customFilter]

/-- The last recompute was not skipped, and the table has accepted the composed predicate. -/
def HasJustAccepted (bar : FilterBar) : Prop :=
  (∃ before : FilterBar, before.suspended = 0 ∧ before.isIdle = false ∧ before.renew = bar) ∧
    bar.view.predicate = bar.compose

theorem snapshot?_of_justAccepted (h : bar.HasJustAccepted) (hm : bar.memory.enabled) :
    bar.memory.snapshot? bar.view.table = some ⟨bar.view.table, bar.filters⟩ := by
  obtain ⟨⟨before, hsuspended, hidle, rfl⟩, haccepted⟩ := h
  rw [enabled_renew] at hm
  have ha := before.alike_renew
  rw [ha.table, filters_eq ha]
  exact snapshot?_renew hsuspended hidle hm haccepted

theorem memory_rebound (bar : FilterBar) : bar.rebound.memory = bar.memory := by
  rw [rebound, reinstate]
  split <;> rfl

theorem snapshot?_setView_of_ne {t : TableId} (h : view.table ≠ t) :
    (bar.setView view).memory.snapshot? t = bar.memory.snapshot? t := by
  have hrebound := ({ bar with view, lastApplied := some "" }).memory_rebound
  have htable : ({ bar with view, lastApplied := some "" }).rebound.view.table ≠ t := by
    rw [view_rebound]
    exact h
  have hrecompute := snapshot?_recompute_of_ne htable
  rw [hrebound] at hrecompute
  exact hrecompute

theorem sameTable_rebuild (bar : FilterBar) : bar.rebuild.view.SameTable bar.view :=
  bar.view_rebound ▸ bar.rebound.sameTable_recompute

theorem snapshot?_away (h : bar.HasJustAccepted) (hm : bar.memory.enabled)
    (hother : view.table ≠ bar.view.table) :
    (bar.setView view).memory.snapshot? bar.view.table = some ⟨bar.view.table, bar.filters⟩ := by
  rw [snapshot?_setView_of_ne hother, snapshot?_of_justAccepted h hm]

theorem bindings_rebuild_of_remembered {s : TableSnapshot}
    (h : bar.memory.snapshot? bar.view.table = some s) : bar.rebuild.bindings =
      List.zipWith Binding.restore bar.bind.bindings s.filters ++
        bar.bind.bindings.drop s.filters.length := by
  have hsome : bar.unbind.bind.memory.snapshot? bar.unbind.bind.view.table = some s := h
  have hrebound : bar.rebound = bar.unbind.bind.restore s.filters := by
    rw [rebound, reinstate, hsome]
  have hbindings : bar.rebuild.bindings = bar.rebound.bindings := (alike_recompute _).bindings
  rw [hbindings, hrebound]
  rfl

/-- For the same columns and cells the factory makes filters of the same kinds again. -/
theorem renews_bind (hmade : a.HasMadeFilters) (hfactory : b.factory = a.factory)
    (hcolumns : b.view.columns = a.view.columns)
    (hvalues : ∀ name, b.view.columnValues name = a.view.columnValues name) :
    List.Forall₂ (Binding.Renews a.factory.offerRange) a.bindings b.bind.bindings := by
  have hcreate (c : Column) : b.factory.create c b.view = a.factory.create c a.view := by
    rw [hfactory, FilterFactory.create_congr hvalues]
  have hnew {old : Binding} {c : Column} (position : Nat)
      (horigin : old.origin a.factory.offerRange = (c.name, (a.factory.create c a.view).1)) :
      old.Renews a.factory.offerRange (b.bindColumn c position) := by
    obtain ⟨hname, hstrategy⟩ := Prod.mk.inj horigin
    refine ⟨hname.symm, ?_, rfl, Strategy.isActive_initial _⟩
    rw [hstrategy, ← hcreate]
    rfl
  -- The induction is on the columns, whose positions start anywhere.
  have hlist (columns : List Column) (start : Nat) (olds : List Binding)
      (horigins : olds.map (Binding.origin a.factory.offerRange) =
        columns.map fun c => (c.name, (a.factory.create c a.view).1)) :
      List.Forall₂ (Binding.Renews a.factory.offerRange) olds
        ((columns.zipIdx start).map fun q => b.bindColumn q.1 q.2) := by
    induction columns generalizing start olds with
    | nil =>
      rw [List.map_eq_nil_iff.mp horigins]
      exact .nil
    | cons c columns ih =>
      obtain ⟨old, olds, rfl, horigin, hrest⟩ := List.map_eq_cons_iff.mp horigins
      rw [List.zipIdx_cons, List.map_cons]
      exact .cons (hnew start horigin) (ih (start + 1) olds hrest)
  have hall := hlist a.view.columns 0 a.bindings hmade
  rwa [← hcolumns] at hall

theorem column_ne_empty (hmade : bar.HasMadeFilters)
    (hnames : ∀ c ∈ bar.view.columns, c.name ≠ "") : ∀ b ∈ bar.bindings, b.column ≠ "" := by
  intro b hb
  have hmem : b.origin bar.factory.offerRange ∈
      bar.view.columns.map fun c => (c.name, (bar.factory.create c bar.view).1) :=
    hmade ▸ List.mem_map_of_mem hb
  obtain ⟨c, hc, horigin⟩ := List.mem_map.mp hmem
  rw [← show c.name = b.column from congrArg Prod.fst horigin]
  exact hnames c hc

section Rebuild

variable (hmade : a.HasMadeFilters) (hfactory : b.factory = a.factory)
  (hcolumns : b.view.columns = a.view.columns)
  (hvalues : ∀ name, b.view.columnValues name = a.view.columnValues name)
  (hsnapshot : b.memory.snapshot? b.view.table = some ⟨b.view.table, a.filters⟩)

include hmade hfactory hcolumns hvalues hsnapshot

theorem map_column_rebuild :
    b.rebuild.bindings.map (·.column) = a.bindings.map (·.column) := by
  rw [bindings_rebuild_of_remembered hsnapshot]
  exact Binding.map_column_restore (renews_bind hmade hfactory hcolumns hvalues)

/-- New filters write what the former filters wrote if and only if the criteria of those recover. -/
theorem filters_rebuild_iff (hnames : ∀ c ∈ a.view.columns, c.name ≠ "") :
    b.rebuild.filters = a.filters ↔ ∀ f ∈ a.bindings, f.Recovers a.factory.offerRange := by
  rw [filters, bindings_rebuild_of_remembered hsnapshot]
  exact Binding.map_fragment_restore_iff (renews_bind hmade hfactory hcolumns hvalues)
    (column_ne_empty hmade hnames)

end Rebuild

end FilterBar
end TableFilter
