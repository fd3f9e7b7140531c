import TableFilter.Proofs.FilterBar.Edits
import TableFilter.Proofs.FilterBar.Remembering

/-!
# Filters stay those that were made

A factory makes the filters of a bar when it binds a table. Users edit them and programs restore and
clear them, but a filter keeps its column and its strategy; only a range can be offered that was not
offered before, or the other way round. So as long as nobody changes the table from outside, the
filters of a bar are those that its factory would make for the table now, up to that offer.
-/

namespace TableFilter

def Strategy.withRange (between : Bool) : Strategy → Strategy
  | .numeric _ => .numeric between
  | .date _ formats => .date between formats
  | s => s

namespace Strategy

variable (between : Bool) (input : Input)

theorem isActive_withRange (s : Strategy) :
    (s.withRange between).isActive input = s.isActive input := by
  cases s <;> rfl

theorem fragment_withRange (ref : String) (s : Strategy) :
    (s.withRange between).fragment input ref = s.fragment input ref := by
  cases s <;> rfl

end Strategy

namespace FilterFactory

variable {v w : View}

theorem withRange_create (f : FilterFactory) (c : Column) (view : View) :
    (f.create c view).1.withRange f.offerRange = (f.create c view).1 := by
  unfold create
  split
  case h_6 =>
    unfold distinct
    split <;> rfl
  all_goals rfl

theorem create_congr (h : ∀ name, v.columnValues name = w.columnValues name) (f : FilterFactory)
    (c : Column) : f.create c v = f.create c w := by
  have hvalues : v.distinctValues f.distinctCap c.name = w.distinctValues f.distinctCap c.name := by
    rw [View.distinctValues, View.distinctValues, h]
  unfold create
  rw [distinct, distinct, hvalues]

end FilterFactory

namespace Filter

variable {f g : Filter}

def SameKind (f g : Filter) : Prop :=
  ∀ between, g.strategy.withRange between = f.strategy.withRange between

theorem SameKind.refl (f : Filter) : SameKind f f := fun _ => rfl

theorem SameKind.trans {h : Filter} (hfg : SameKind f g) (hgh : SameKind g h) : SameKind f h :=
  fun between => (hgh between).trans (hfg between)

theorem SameKind.of_eq (h : g.strategy = f.strategy) : SameKind f g := by
  intro between
  rw [h]

theorem sameKind_putSome (f : Filter) (input : Option Input) : SameKind f (f.putSome input).1 := by
  cases input with
  | none => exact .refl f
  | some input => exact .of_eq rfl

theorem strategy_giveUp {chosen : Prop} [Decidable chosen] {input : Input}
    {r : Filter × List WidgetEvent}
    (h : (if chosen then some (g.put input) else some (g, [])) = some r) :
    r.1.strategy = g.strategy := by
  split at h
  · rw [← Option.some.inj h]
    rfl
  · rw [← Option.some.inj h]

theorem sameKind_offerRange {offered : Bool} {r : Filter × List WidgetEvent}
    (h : f.offerRange? offered = some r) : SameKind f r.1 := by
  unfold offerRange? at h
  intro between
  split at h
  case h_1 hstrategy =>
    rw [strategy_giveUp h, hstrategy]
    rfl
  case h_2 hstrategy =>
    rw [strategy_giveUp h, hstrategy]
    rfl
  case h_3 => cases h

theorem sameKind_edit {e : Edit} {r : Filter × List WidgetEvent} (h : f.edit? e = some r) :
    SameKind f r.1 := by
  cases e with
  | setFilter predicate =>
    rw [← Option.some.inj h]
    exact f.sameKind_putSome _
  | clear =>
    rw [← Option.some.inj h]
    exact f.sameKind_putSome _
  | offerRange between => exact sameKind_offerRange h
  | put | commit | leave | subscribe | unsubscribe | dispose =>
    rw [← Option.some.inj h]
    exact .of_eq rfl
  | _ =>
    obtain ⟨input, -, rfl⟩ := Option.map_eq_some_iff.mp h
    exact .of_eq rfl

theorem sameKind_editAll (f : Filter) (edits : List Edit) : SameKind f (f.editAll edits).1 := by
  induction edits generalizing f with
  | nil => exact .refl f
  | cons e es ih =>
    have hfirst : SameKind f ((f.edit? e).getD (f, [])).1 := by
      cases h : f.edit? e with
      | none => exact .refl f
      | some r => exact sameKind_edit h
    exact hfirst.trans (ih _)

end Filter

def Binding.origin (between : Bool) (b : Binding) : String × Strategy :=
  (b.column, b.filter.strategy.withRange between)

theorem Binding.origin_restore (between : Bool) (b : Binding) (predicate : String) :
    (b.restore predicate).origin between = b.origin between := by
  unfold Binding.restore
  split
  · exact congrArg (Prod.mk b.column) (b.filter.sameKind_putSome _ between)
  · exact congrArg (Prod.mk b.column) (b.filter.sameKind_putSome _ between)

namespace FilterBar

variable {bar a b c : FilterBar}

/-- The filters are those that the factory makes for the table, but for the offer of a range. -/
def HasMadeFilters (bar : FilterBar) : Prop :=
  bar.bindings.map (Binding.origin bar.factory.offerRange) =
    bar.view.columns.map fun c => (c.name, (bar.factory.create c bar.view).1)

structure KeepsFilters (a b : FilterBar) : Prop where
  origins : ∀ between,
    b.bindings.map (Binding.origin between) = a.bindings.map (Binding.origin between)
  factory : b.factory = a.factory
  table : b.view.SameTable a.view

namespace KeepsFilters

theorem of_eq (hbindings : b.bindings = a.bindings) (hfactory : b.factory = a.factory)
    (hview : b.view = a.view) : KeepsFilters a b :=
  ⟨fun _ => by rw [hbindings], hfactory, hview ▸ .refl a.view⟩

theorem refl (a : FilterBar) : KeepsFilters a a := of_eq rfl rfl rfl

theorem trans (h : KeepsFilters a b) (h' : KeepsFilters b c) : KeepsFilters a c :=
  ⟨fun between => (h'.origins between).trans (h.origins between), h'.factory.trans h.factory,
    h'.table.trans h.table⟩

end KeepsFilters

theorem HasMadeFilters.of_keeps (h : a.HasMadeFilters) (hk : KeepsFilters a b) :
    b.HasMadeFilters := by
  have hcreate (c : Column) : b.factory.create c b.view = a.factory.create c a.view := by
    rw [hk.factory, FilterFactory.create_congr hk.table.columnValues]
  unfold HasMadeFilters
  simp only [hcreate, hk.table.columns]
  rw [hk.factory, hk.origins]
  exact h

theorem keeps_renew (bar : FilterBar) : KeepsFilters bar bar.renew :=
  ⟨fun _ => by rw [bar.alike_renew.bindings], bar.factory_renew, bar.sameTable_renew⟩

theorem keeps_recompute (bar : FilterBar) : KeepsFilters bar bar.recompute :=
  ⟨fun _ => by rw [bar.alike_recompute.bindings], bar.factory_recompute, bar.sameTable_recompute⟩

theorem KeepsFilters.recompute (h : KeepsFilters a b) : KeepsFilters a b.recompute :=
  h.trans b.keeps_recompute

/-- Neither the filters nor the table were changed before the bar recomputes. -/
theorem keeps_recompute_of_eq (hbindings : b.bindings = a.bindings) (hfactory : b.factory = a.factory)
    (hview : b.view = a.view) : KeepsFilters a b.recompute :=
  KeepsFilters.recompute (.of_eq hbindings hfactory hview)

theorem keeps_refresh (bar : FilterBar) : KeepsFilters bar bar.refresh := by
  have hforced : KeepsFilters bar { bar with lastApplied := none } := .of_eq rfl rfl rfl
  exact hforced.trans (keeps_renew _)

theorem keeps_handle (bar : FilterBar) (e : WidgetEvent) : KeepsFilters bar (bar.handle e) := by
  unfold handle
  split
  · exact .refl bar
  · exact bar.keeps_recompute
  · exact bar.keeps_refresh

theorem keeps_foldl_handle (bar : FilterBar) (events : List WidgetEvent) :
    KeepsFilters bar (events.foldl handle bar) := by
  induction events generalizing bar with
  | nil => exact .refl bar
  | cons e events ih => exact (bar.keeps_handle e).trans (ih _)

theorem keeps_process (bar : FilterBar) : KeepsFilters bar bar.process := by
  have hqueue : KeepsFilters bar { bar with queue := [] } := .of_eq rfl rfl rfl
  exact hqueue.trans (keeps_foldl_handle _ bar.queue)

theorem map_origin_replaceFilter {column : String} {f g : Filter} (hg : f.SameKind g)
    {bindings : List Binding} (hf : (bindings.find? (·.column = column)).map (·.filter) = some f)
    (between : Bool) : (replaceFilter column g bindings).map (Binding.origin between) =
      bindings.map (Binding.origin between) := by
  let read (b : Binding) : Option (String × Strategy) := some (b.origin between)
  have hread (b : Binding) (hb : b.filter = f) : read { b with filter := g } = read b := by
    simp only [read, Binding.origin, hb, hg between]
  have hfilterMap := filterMap_replaceFilter hread hf
  rwa [List.filterMap_eq_map'] at hfilterMap

theorem keeps_editDirectly {column : String} {edits : List Edit}
    (h : bar.editDirectly column edits = .ok b) : KeepsFilters bar b := by
  obtain ⟨f, hf, rfl⟩ := editDirectly_eq_ok h
  exact ⟨map_origin_replaceFilter (f.sameKind_editAll edits) hf, rfl, .refl _⟩

theorem keeps_edit {column : String} {edits : List Edit} (h : bar.edit column edits = .ok b) :
    KeepsFilters bar b := by
  obtain ⟨edited, hedited, rfl⟩ := edit_eq_ok h
  exact (keeps_editDirectly hedited).trans edited.keeps_process

/-- What does not depend on the criteria stays when those are restored. -/
theorem map_restore {α : Type} {f : Binding → α} (hf : ∀ b p, f (b.restore p) = f b)
    (bindings : List Binding) (predicates : List String) :
    (List.zipWith Binding.restore bindings predicates ++ bindings.drop predicates.length).map f =
      bindings.map f := by
  induction bindings generalizing predicates with
  | nil => simp
  | cons b bs ih =>
    cases predicates with
    | nil => simp
    | cons p ps =>
      rw [List.zipWith_cons_cons, List.length_cons, List.drop_succ_cons, List.cons_append,
        List.map_cons, List.map_cons, ih, hf]

theorem keeps_restore (bar : FilterBar) (predicates : List String) :
    KeepsFilters bar (bar.restore predicates) :=
  ⟨fun between => map_restore (Binding.origin_restore between) _ _, rfl, .refl _⟩

theorem keeps_clear (bar : FilterBar) :
    KeepsFilters bar { bar with bindings := bar.bindings.map Binding.clear, queue := [] } := by
  refine ⟨fun between => ?_, rfl, .refl _⟩
  rw [List.map_map]
  apply List.map_congr_left
  intro b _
  exact congrArg (Prod.mk b.column) (b.filter.sameKind_putSome _ between)

/-- What does not depend on the shown names stays when those are taken over. -/
theorem map_rename {α : Type} {f : Binding → α} (hf : ∀ b c, f (b.rename c) = f b)
    {bindings : List Binding} {columns : List Column} (h : bindings.length = columns.length) :
    (List.zipWith Binding.rename bindings columns).map f = bindings.map f := by
  induction bindings generalizing columns with
  | nil => rfl
  | cons b bs ih =>
    cases columns with
    | nil => cases h
    | cons c cs =>
      rw [List.zipWith_cons_cons, List.map_cons, List.map_cons, hf, ih (Nat.succ.inj h)]

theorem keeps_rename (h : bar.isInStep) :
    KeepsFilters bar
      { bar with bindings := List.zipWith Binding.rename bar.bindings bar.view.columns } :=
  ⟨fun _ => map_rename (fun _ _ => rfl) (length_of_isInStep h), rfl, .refl _⟩

/-- What a new filter has of its column alone, the filters have of the columns. -/
theorem map_bind {α : Type} {f : Binding → α} {g : Column → α}
    (h : ∀ c position, f (bar.bindColumn c position) = g c) :
    bar.bind.bindings.map f = bar.view.columns.map g := by
  have hpair : (f ∘ fun q => bar.bindColumn q.1 q.2) = g ∘ Prod.fst := funext fun q => h q.1 q.2
  change (bar.view.columns.zipIdx.map fun q => bar.bindColumn q.1 q.2).map f = _
  rw [List.map_map, hpair, ← List.map_map, List.zipIdx_map_fst]

/-- What does not depend on the criteria is that of new filters. -/
theorem map_rebound {α : Type} {f : Binding → α} (hf : ∀ b p, f (b.restore p) = f b) :
    bar.rebound.bindings.map f = bar.unbind.bind.bindings.map f := by
  rw [rebound, reinstate]
  split
  · exact map_restore hf _ _
  · rfl

theorem hasMadeFilters_bind (bar : FilterBar) : bar.bind.HasMadeFilters :=
  map_bind fun c _ => congrArg (Prod.mk c.name) (bar.factory.withRange_create c bar.view)

theorem hasMadeFilters_rebuild (bar : FilterBar) : bar.rebuild.HasMadeFilters := by
  have hbind := bar.unbind.hasMadeFilters_bind
  have hrebound : bar.rebound.HasMadeFilters := by
    rw [rebound, reinstate]
    split
    · exact hbind.of_keeps (keeps_restore _ _)
    · exact hbind
  exact hrebound.of_keeps (keeps_recompute _)

theorem keeps_endUpdate (bar : FilterBar) : KeepsFilters bar bar.endUpdate := by
  simp only [endUpdate]
  split
  · exact keeps_recompute_of_eq rfl rfl rfl
  · exact .of_eq rfl rfl rfl

def Rebinds (a b : FilterBar) : Prop := ∃ c : FilterBar, c.factory = a.factory ∧ b = c.rebuild

/-- An operation keeps all filters or binds all anew. -/
theorem keeps_or_rebinds {op : Operation} (hb : bar.perform op = .ok b) :
    KeepsFilters bar b ∨ Rebinds bar b := by
  cases op with
  | edit column edits => exact .inl (keeps_edit hb)
  | editDirectly column edits => exact .inl (keeps_editDirectly hb)
  | commit column => exact .inl (keeps_edit hb)
  | leave column => exact .inl (keeps_edit hb)
  | process =>
    cases hb
    exact .inl bar.keeps_process
  | handle e =>
    cases hb
    exact .inl (bar.keeps_handle e)
  | refresh =>
    cases hb
    exact .inl bar.keeps_refresh
  | setFilters predicates =>
    cases hb
    exact .inl (bar.keeps_restore predicates).recompute
  | clearFilters =>
    cases hb
    exact .inl bar.keeps_clear.recompute
  | endUpdate =>
    cases hb
    exact .inl bar.keeps_endUpdate
  | syncColumns =>
    cases hb
    unfold syncColumns
    split
    case isTrue hstep => exact .inl (keeps_rename hstep).recompute
    case isFalse => exact .inr ⟨bar, rfl, rfl⟩
  | rebuild =>
    cases hb
    exact .inr ⟨bar, rfl, rfl⟩
  | dataSourceChanged =>
    cases hb
    exact .inr ⟨{ bar with lastApplied := some "" }, rfl, rfl⟩
  | setView view =>
    cases hb
    exact .inr ⟨{ bar with view, lastApplied := some "" }, rfl, rfl⟩
  | setRefreshMode | setKeepFilters | beginUpdate =>
    cases hb
    exact .inl (.of_eq rfl rfl rfl)
  -- The settings that a predicate is composed of leave the filters alone.
  | _ =>
    cases hb
    exact .inl (keeps_recompute_of_eq rfl rfl rfl)

theorem HasMadeFilters.perform (h : bar.HasMadeFilters) {op : Operation}
    (hb : bar.perform op = .ok b) : b.HasMadeFilters := by
  rcases keeps_or_rebinds hb with hkeeps | ⟨c, -, rfl⟩
  · exact h.of_keeps hkeeps
  · exact c.hasMadeFilters_rebuild

def Performs (bar b : FilterBar) : Prop := ∃ op : Operation, bar.perform op = .ok b

theorem HasMadeFilters.run (h : bar.HasMadeFilters) (hr : Relation.ReflTransGen Performs bar b) :
    b.HasMadeFilters := by
  induction hr with
  | refl => exact h
  | tail _ hstep ih =>
    obtain ⟨op, hb⟩ := hstep
    exact ih.perform hb

end FilterBar
end TableFilter
