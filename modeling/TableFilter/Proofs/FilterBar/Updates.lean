import TableFilter.Proofs.FilterBar.Stillness

/-!
# Changes made as one update

Filters and settings can be changed one by one, with a recompute after each change, or as one
update, at the end of which the bar recomputes once. Both ways lead to the same filters and compose
the same predicate. They lead to the same rows as well if the table accepts the predicate in the end
and the bar hears of every change of its filters: then whatever the bar takes for the last predicate
is either refused by its table or the table looks as if nothing else had ever been in force.

Only a filter that nobody listens to makes a difference. Changing it alone leads to no recompute,
while an update recomputes in any case.
-/

namespace TableFilter

namespace View

variable {v w : View} {p : String}

def unmarked : View → View
  | memory v => memory { v with predicate := "", expr := none, marks := [], applied := 0 }
  | frame v => frame { v with predicate := "", expr := none, marks := [] }

def uncounted : View → View
  | memory v => memory { v with applied := 0 }
  | frame v => frame v

/-- The table looks as it does when it accepts the predicate, whatever was in force before. -/
def IsMarkedBy (p : String) (v : View) : Prop :=
  ∃ w, v.unmarked.setPredicate p = .ok w ∧ w.uncounted = v.uncounted

theorem unmarked_of_setPredicate (h : v.setPredicate p = .ok w) : w.unmarked = v.unmarked := by
  cases v with
  | memory v =>
    obtain ⟨w, hw, rfl⟩ := map_eq_ok.mp h
    obtain ⟨o, -, rfl⟩ := MemoryView.setPredicate_eq_ok.mp hw
    rfl
  | frame v =>
    obtain ⟨w, hw, rfl⟩ := map_eq_ok.mp h
    obtain ⟨o, -, marks, -, rfl⟩ := FrameView.setPredicate_eq_ok.mp hw
    rfl

theorem isMarkedBy_of_setPredicate (h : v.setPredicate p = .ok w) : w.IsMarkedBy p := by
  rw [IsMarkedBy, unmarked_of_setPredicate h]
  cases v with
  | memory v =>
    obtain ⟨w, hw, rfl⟩ := map_eq_ok.mp h
    obtain ⟨o, ho, rfl⟩ := MemoryView.setPredicate_eq_ok.mp hw
    exact ⟨_, map_eq_ok.mpr ⟨_, MemoryView.setPredicate_eq_ok.mpr ⟨o, ho, rfl⟩, rfl⟩, rfl⟩
  | frame v =>
    obtain ⟨w, hw, rfl⟩ := map_eq_ok.mp h
    obtain ⟨o, ho, marks, hmarks, rfl⟩ := FrameView.setPredicate_eq_ok.mp hw
    exact ⟨_, map_eq_ok.mpr ⟨_, FrameView.setPredicate_eq_ok.mpr ⟨o, ho, marks, hmarks, rfl⟩, rfl⟩,
      rfl⟩

theorem predicate_uncounted (v : View) : v.uncounted.predicate = v.predicate := by
  cases v <;> rfl

theorem IsMarkedBy.predicate_eq (h : v.IsMarkedBy p) : v.predicate = p := by
  obtain ⟨w, hw, heq⟩ := h
  rw [← predicate_uncounted, ← heq, predicate_uncounted]
  exact (accepts_of_setPredicate hw).predicate

theorem IsMarkedBy.uncounted_eq (h : v.IsMarkedBy p) (h' : w.IsMarkedBy p)
    (hsame : v.unmarked = w.unmarked) : v.uncounted = w.uncounted := by
  obtain ⟨v', hv, hv'⟩ := h
  obtain ⟨w', hw, hw'⟩ := h'
  rw [hsame, hw] at hv
  rw [← hv', ← hw', Except.ok.inj hv]

theorem sameTable_unmarked (v : View) : v.unmarked.SameTable v := by
  cases v <;> exact ⟨rfl, rfl, fun _ => rfl, fun _ => Iff.rfl⟩

theorem sameTable_of_unmarked_eq (h : v.unmarked = w.unmarked) : v.SameTable w :=
  (h ▸ v.sameTable_unmarked.symm).trans w.sameTable_unmarked

end View

def Operation.isChange : Operation → Bool
  | .edit _ edits => edits.all Edit.isCriteria
  | .setFilters _ | .clearFilters | .refresh => true
  | .setOperator _ | .setBaseOperator _ | .setCustomFilter _ => true
  | .setBaseFilter _ | .setBaseFilterFor _ _ | .setBaseEnabled _ => true
  | _ => false

namespace FilterBar

variable {bar a b c start : FilterBar} {op : Operation} {action : RefreshAction}
  {actions : List RefreshAction} {ops : List Operation}

/-- The bar after some operations, of which those that are refused change nothing. -/
def performAll (bar : FilterBar) (ops : List Operation) : FilterBar :=
  ops.foldl (fun bar op => (attempt bar (bar.perform op)).1) bar

def AllHeard (bindings : List Binding) : Prop := ∀ b ∈ bindings, b.filter.widget.IsHeard

/-- The table refuses what the bar takes for the last predicate, or looks as if nothing else had
ever been in force. -/
def Judged (bar : FilterBar) : Prop :=
  ∀ p, bar.lastApplied = some p → bar.view.Rejects p ∨ bar.view.IsMarkedBy p

theorem Judged.of_eq (h : bar.Judged) (hview : b.view = bar.view)
    (hlast : b.lastApplied = bar.lastApplied ∨ b.lastApplied = none) : b.Judged := by
  intro p hp
  rw [hview]
  rcases hlast with hlast | hlast
  · exact h p (hlast ▸ hp)
  · rw [hlast] at hp
    cases hp

theorem judged_push (bar : FilterBar) (p : String) : (bar.push p).Judged := by
  intro q hq
  rw [lastApplied_push] at hq
  cases hq
  rcases bar.events_push p with ⟨-, hview⟩ | ⟨-, hrejects, hview⟩
  · exact .inr (View.isMarkedBy_of_setPredicate hview)
  · exact .inl (hview ▸ hrejects)

theorem Judged.renew (h : bar.Judged) : bar.renew.Judged := by
  have hremember (b : FilterBar) (hb : b.Judged) : b.remember.Judged :=
    hb.of_eq b.view_remember (.inl b.lastApplied_remember)
  unfold FilterBar.renew
  split
  · exact h
  · split
    · exact hremember _ h
    · exact hremember _ (bar.judged_push _)

theorem judged_forced (bar : FilterBar) : { bar with lastApplied := none }.Judged :=
  fun _ hp => nomatch hp

theorem judged_refresh (bar : FilterBar) : bar.refresh.Judged := bar.judged_forced.renew

theorem Judged.act (h : bar.Judged) (action : RefreshAction) : (bar.act action).Judged := by
  cases action with
  | ignore => exact h
  | recompute =>
    rw [FilterBar.act, recompute]
    split
    · exact h
    · exact h.renew
  | force => exact bar.judged_refresh

structure IsFresh (bar : FilterBar) : Prop where
  last : bar.lastApplied = some bar.compose
  judged : bar.Judged
  remembered : bar.memory.enabled → bar.IsApplied →
    bar.memory.snapshot? bar.view.table = some bar.snapshot

theorem Judged.isFresh_renew (h : bar.Judged) (hsuspended : bar.suspended = 0)
    (hidle : bar.isIdle = false) : bar.renew.IsFresh where
  last := by rw [lastApplied_renew hsuspended hidle, bar.alike_renew.compose_eq]
  judged := h.renew
  remembered := fun hmemory => snapshot?_renew_of_applied hsuspended hidle
    (bar.enabled_renew ▸ hmemory)

theorem isFresh_refresh (hsuspended : bar.suspended = 0) (hidle : bar.isIdle = false) :
    bar.refresh.IsFresh :=
  bar.judged_forced.isFresh_renew hsuspended hidle

/-- Bars that write the same filters and compose the same predicate are up to date together. -/
theorem IsFresh.of_eq (h : bar.IsFresh) (hview : b.view = bar.view)
    (hlast : b.lastApplied = bar.lastApplied) (hmemory : b.memory = bar.memory)
    (hcompose : b.compose = bar.compose) (hfilters : b.filters = bar.filters) : b.IsFresh where
  last := by rw [hlast, hcompose, h.last]
  judged := h.judged.of_eq hview (.inl hlast)
  remembered := by
    rw [IsApplied, snapshot, hview, hmemory, hcompose, hfilters]
    exact h.remembered

structure Adjusts (bar b : FilterBar) : Prop where
  view : b.view = bar.view
  memory : b.memory = bar.memory
  trace : b.trace = bar.trace
  lastApplied : b.lastApplied = bar.lastApplied
  suspended : b.suspended = bar.suspended
  refreshMode : b.refreshMode = bar.refreshMode
  bound : bar.bindings ≠ [] → b.bindings ≠ []
  heard : AllHeard bar.bindings → AllHeard b.bindings

theorem heard_editAll {f : Filter} (h : f.widget.IsHeard) {edits : List Edit}
    (he : edits.all Edit.isCriteria) : (f.editAll edits).1.widget.IsHeard :=
  (Filter.told_editAll h he).isHeard h

theorem AllHeard.filter? (h : AllHeard bar.bindings) {column : String} {f : Filter}
    (hf : bar.filter? column = some f) : f.widget.IsHeard :=
  holds_filter? (P := fun f => f.widget.IsHeard) h hf

theorem AllHeard.restore (h : AllHeard bar.bindings) (predicates : List String) :
    AllHeard (bar.restore predicates).bindings := by
  refine forall_restore (P := fun f => f.widget.IsHeard) h (fun b predicate hb => ?_) predicates
  obtain ⟨events, htold⟩ := told_restore hb predicate
  exact htold.isHeard hb

theorem AllHeard.clear (h : AllHeard bar.bindings) :
    AllHeard (bar.bindings.map Binding.clear) := by
  intro b hb
  obtain ⟨old, hold, rfl⟩ := List.mem_map.mp hb
  exact (Filter.told_clear (h old hold)).isHeard (h old hold)

theorem adjusts_of_prepare (hop : op.isChange) (h : bar.prepare op = .ok (b, actions)) :
    Adjusts bar b := by
  cases op with
  | edit column edits =>
    obtain ⟨f, hf, rfl, -⟩ := edit_dequeue_eq_ok h
    refine ⟨rfl, rfl, rfl, rfl, rfl, rfl, replaceFilter_ne_nil, fun hheard => ?_⟩
    exact forall_replaceFilter (P := fun f => f.widget.IsHeard) hheard
      (heard_editAll (hheard.filter? hf) hop) column
  | setFilters predicates =>
    cases h
    refine ⟨rfl, rfl, rfl, rfl, rfl, rfl, fun hbound => ?_, fun hheard => hheard.restore predicates⟩
    have hpos := List.length_pos_iff.mpr hbound
    exact List.length_pos_iff.mp (bar.length_restore predicates ▸ hpos)
  | clearFilters =>
    cases h
    exact ⟨rfl, rfl, rfl, rfl, rfl, rfl, fun hbound hnil => hbound (List.map_eq_nil_iff.mp hnil),
      AllHeard.clear⟩
  | refresh | setOperator | setBaseOperator | setCustomFilter | setBaseFilter | setBaseFilterFor
    | setBaseEnabled =>
    cases h
    exact ⟨rfl, rfl, rfl, rfl, rfl, rfl, id, id⟩
  | _ => cases hop

/-- A filter that writes the same predicate leaves what all filters write as it is. -/
theorem filters_replaceFilter {column : String} {f g : Filter} (hf : bar.filter? column = some f)
    (hs : Filter.SameCriteria f g) (queue : List WidgetEvent) :
    { bar with bindings := replaceFilter column g bar.bindings, queue }.filters = bar.filters := by
  simp only [filters, ← List.filterMap_eq_map]
  refine filterMap_replaceFilter (fun b hb => ?_) hf
  simp only [Function.comp_apply, Binding.fragment, Binding.ref, hs.isActive, hs.fragment, hb]

/-- A change asks for a recompute or is without effect on the predicate. -/
theorem recomputes_or_isFresh (hmode : bar.refreshMode = .onInput) (hheard : AllHeard bar.bindings)
    (hfresh : bar.IsFresh) (hop : op.isChange) (h : bar.prepare op = .ok (b, actions)) :
    (∃ action ∈ actions, action ≠ .ignore) ∨ b.IsFresh := by
  cases op with
  | edit column edits =>
    obtain ⟨f, hf, rfl, rfl⟩ := edit_dequeue_eq_ok h
    rcases (Filter.told_editAll (hheard.filter? hf) hop).told with hsame | ⟨e, he, hkind⟩
    -- After a silent edit the filters write what they wrote before.
    · exact .inr (hfresh.of_eq rfl rfl rfl (compose_replaceFilter hf hsame _)
        (filters_replaceFilter hf hsame _))
    · refine .inl ⟨_, List.mem_map.mpr ⟨e, List.mem_append_right _ he, rfl⟩, ?_⟩
      simp only [hmode, hkind]
      decide
  | setFilters | clearFilters | refresh | setOperator | setBaseOperator | setCustomFilter
    | setBaseFilter | setBaseFilterFor | setBaseEnabled =>
    cases h
    exact .inl ⟨_, List.mem_singleton_self _, by decide⟩
  | _ => cases hop

structure Follows (bar : FilterBar) : Prop where
  mode : bar.refreshMode = .onInput
  suspended : bar.suspended = 0
  bound : bar.bindings ≠ []
  heard : AllHeard bar.bindings
  judged : bar.Judged

namespace Follows

theorem act (h : bar.Follows) (action : RefreshAction) : (bar.act action).Follows := by
  have ha := bar.alike_act action
  exact ⟨ha.refreshMode.trans h.mode, ha.suspended.trans h.suspended, ha.bindings ▸ h.bound,
    ha.bindings ▸ h.heard, h.judged.act action⟩

theorem isFresh_act (h : bar.Follows) (haction : action ≠ .ignore ∨ bar.IsFresh) :
    (bar.act action).IsFresh := by
  have hidle := isIdle_of_bound h.bound
  cases action with
  | ignore => exact haction.resolve_left fun hne => hne rfl
  | recompute =>
    have hmode : bar.refreshMode ≠ .off := by
      rw [h.mode]
      decide
    rw [FilterBar.act, recompute, if_neg hmode]
    exact h.judged.isFresh_renew h.suspended hidle
  | force => exact isFresh_refresh h.suspended hidle

theorem actAll (h : bar.Follows) (actions : List RefreshAction) : (bar.actAll actions).Follows :=
  actAll_induction h (fun _ action hb => hb.act action) actions

/-- A bar that is up to date stays so; one recompute brings it up to date. -/
theorem isFresh_actAll (h : bar.Follows)
    (hactions : (∃ action ∈ actions, action ≠ .ignore) ∨ bar.IsFresh) :
    (bar.actAll actions).IsFresh := by
  -- The bar changes with every recompute, so that the induction is for all such bars.
  induction actions generalizing bar with
  | nil =>
    obtain ⟨action, hmem, -⟩ | hfresh := hactions
    · exact absurd hmem List.not_mem_nil
    · exact hfresh
  | cons action actions ih =>
    apply ih (h.act action)
    obtain ⟨action', hmem, hne⟩ | hfresh := hactions
    · rcases List.mem_cons.mp hmem with rfl | hmem
      · exact .inr (h.isFresh_act (.inl hne))
      · exact .inl ⟨action', hmem, hne⟩
    · exact .inr (h.isFresh_act (.inr hfresh))

theorem of_adjusts (h : bar.Follows) (hb : Adjusts bar b) : b.Follows :=
  ⟨hb.refreshMode.trans h.mode, hb.suspended.trans h.suspended, hb.bound h.bound,
    hb.heard h.heard, h.judged.of_eq hb.view (.inl hb.lastApplied)⟩

theorem refresh (hmode : bar.refreshMode = .onInput) (hsuspended : bar.suspended = 0)
    (hbound : bar.bindings ≠ []) (hheard : AllHeard bar.bindings) : bar.refresh.Follows := by
  have ha := bar.alike_refresh
  exact ⟨ha.refreshMode.trans hmode, ha.suspended.trans hsuspended, ha.bindings ▸ hbound,
    ha.bindings ▸ hheard, bar.judged_refresh⟩

/-- However the changes come, the bar is up to date after each of them. -/
theorem performAll (h : bar.Follows) (hfresh : bar.IsFresh) (hops : ∀ op ∈ ops, op.isChange) :
    (bar.performAll ops).Follows ∧ (bar.performAll ops).IsFresh := by
  induction ops generalizing bar with
  | nil => exact ⟨h, hfresh⟩
  | cons op ops ih =>
    obtain ⟨hop, hrest⟩ := List.forall_mem_cons.mp hops
    have hstep : (attempt bar (bar.perform op)).1.Follows ∧
        (attempt bar (bar.perform op)).1.IsFresh := by
      rw [perform_eq_prepare]
      cases hprepare : bar.prepare op with
      | error e => exact ⟨h, hfresh⟩
      | ok q =>
        have hprepared := h.of_adjusts (adjusts_of_prepare hop hprepare)
        exact ⟨hprepared.actAll q.2, hprepared.isFresh_actAll
          (recomputes_or_isFresh h.mode h.heard hfresh hop hprepare)⟩
    exact ih hstep.1 hstep.2 hrest

end Follows

/-- The bar is as it was at the start of an update, except for filters, settings and what it takes
for the last predicate. -/
structure Waits (start bar : FilterBar) : Prop where
  view : bar.view = start.view
  memory : bar.memory = start.memory
  trace : bar.trace = start.trace
  lastApplied : bar.lastApplied = start.lastApplied ∨ bar.lastApplied = none
  suspended : bar.suspended = start.suspended + 1
  refreshMode : bar.refreshMode = start.refreshMode
  bound : start.bindings ≠ [] → bar.bindings ≠ []

namespace Waits

theorem beginUpdate (start : FilterBar) : Waits start start.beginUpdate :=
  ⟨rfl, rfl, rfl, .inl rfl, rfl, rfl, id⟩

theorem of_adjusts (h : Waits start bar) (hb : Adjusts bar b) : Waits start b where
  view := hb.view.trans h.view
  memory := hb.memory.trans h.memory
  trace := hb.trace.trans h.trace
  lastApplied := hb.lastApplied ▸ h.lastApplied
  suspended := hb.suspended.trans h.suspended
  refreshMode := hb.refreshMode.trans h.refreshMode
  bound := fun hbound => hb.bound (h.bound hbound)

theorem actAll (h : Waits start bar) (actions : List RefreshAction) :
    Waits start (bar.actAll actions) := by
  have hsuspended : 0 < bar.suspended := h.suspended ▸ Nat.succ_pos _
  obtain ⟨last, hlast, heq⟩ := actAll_of_suspended hsuspended actions
  rw [heq]
  refine ⟨h.view, h.memory, h.trace, ?_, h.suspended, h.refreshMode, h.bound⟩
  rcases hlast with rfl | rfl
  · exact h.lastApplied
  · exact .inr rfl

theorem performAll (h : Waits start bar) (hops : ∀ op ∈ ops, op.isChange) :
    Waits start (bar.performAll ops) := by
  induction ops generalizing bar with
  | nil => exact h
  | cons op ops ih =>
    obtain ⟨hop, hrest⟩ := List.forall_mem_cons.mp hops
    have hstep : Waits start (attempt bar (bar.perform op)).1 := by
      rw [perform_eq_prepare]
      cases hprepare : bar.prepare op with
      | error e => exact h
      | ok q => exact (h.of_adjusts (adjusts_of_prepare hop hprepare)).actAll q.2
    exact ih hstep hrest

/-- The bar at the end of an update that no other one encloses, before it recomputes. -/
theorem endUpdate_eq (h : Waits start bar) (hsuspended : start.suspended = 0)
    (hmode : start.refreshMode = .onInput) :
    bar.endUpdate = { bar with suspended := 0, queue := [] }.renew := by
  have hone : bar.suspended - 1 = 0 := by rw [h.suspended, hsuspended]
  have hauto : bar.refreshMode ≠ .off := by
    rw [h.refreshMode, hmode]
    decide
  simp only [endUpdate, hone, if_true]
  exact if_neg hauto

/-- The end of the update hands one predicate over at most. -/
theorem events_endUpdate (h : Waits start bar) (hsuspended : start.suspended = 0)
    (hmode : start.refreshMode = .onInput) :
    bar.endUpdate.events = start.events ∧ bar.endUpdate.view = start.view ∨
      ∃ p, bar.endUpdate.events = start.events ++ [.before p, .after p] ∧
          start.view.setPredicate p = .ok bar.endUpdate.view ∨
        bar.endUpdate.events = start.events ++ [.before p] ∧ start.view.Rejects p ∧
          bar.endUpdate.view = start.view := by
  let ended : FilterBar := { bar with suspended := 0, queue := [] }
  have hevents : ended.events = start.events := congrArg (List.filter Notice.isEvent) h.trace
  rw [h.endUpdate_eq hsuspended hmode, ← hevents, ← h.view]
  by_cases hready : ended.suspended = 0 ∧ ended.isIdle = false ∧
      ended.lastApplied ≠ some ended.compose
  · obtain ⟨hzero, hidle, hlast⟩ := hready
    rw [renew_eq_push hzero hidle hlast, events, trace_remember, view_remember]
    exact .inr ⟨_, ended.events_push ended.compose⟩
  · left
    rcases renew_of_not_ready hready with hrenew | hrenew <;> rw [hrenew]
    · exact ⟨rfl, rfl⟩
    · exact ⟨congrArg (List.filter Notice.isEvent) ended.trace_remember, ended.view_remember⟩

theorem isFresh_endUpdate (h : Waits start bar) (hsuspended : start.suspended = 0)
    (hmode : start.refreshMode = .onInput) (hbound : start.bindings ≠ []) (hjudged : start.Judged) :
    bar.endUpdate.IsFresh := by
  rw [h.endUpdate_eq hsuspended hmode]
  have hended : { bar with suspended := 0, queue := [] }.Judged :=
    hjudged.of_eq h.view h.lastApplied
  exact hended.isFresh_renew rfl (isIdle_of_bound (h.bound hbound))

end Waits

/-- The bars have the same filters and settings over the same table, of which another predicate may
be in force. -/
structure Parallel (a b : FilterBar) : Prop where
  bindings : a.bindings = b.bindings
  baseFilters : a.baseFilters = b.baseFilters
  baseEnabled : a.baseEnabled = b.baseEnabled
  baseOperator : a.baseOperator = b.baseOperator
  operator : a.operator = b.operator
  customFilter : a.customFilter = b.customFilter
  refreshMode : a.refreshMode = b.refreshMode
  view : a.view.unmarked = b.view.unmarked
  enabled : a.memory.enabled = b.memory.enabled

theorem unmarked_push (bar : FilterBar) (p : String) :
    (bar.push p).view.unmarked = bar.view.unmarked := by
  rcases bar.events_push p with ⟨-, hview⟩ | ⟨-, -, hview⟩
  · exact View.unmarked_of_setPredicate hview
  · rw [hview]

theorem unmarked_act (bar : FilterBar) (action : RefreshAction) :
    (bar.act action).view.unmarked = bar.view.unmarked := by
  by_cases hhands : bar.HandsOver action
  · rw [act_eq_push hhands, view_remember, unmarked_push]
  · rw [(act_of_not_handsOver hhands).1]

namespace Parallel

theorem refl (a : FilterBar) : Parallel a a := ⟨rfl, rfl, rfl, rfl, rfl, rfl, rfl, rfl, rfl⟩

theorem trans (h : Parallel a b) (h' : Parallel b c) : Parallel a c where
  bindings := h.bindings.trans h'.bindings
  baseFilters := h.baseFilters.trans h'.baseFilters
  baseEnabled := h.baseEnabled.trans h'.baseEnabled
  baseOperator := h.baseOperator.trans h'.baseOperator
  operator := h.operator.trans h'.operator
  customFilter := h.customFilter.trans h'.customFilter
  refreshMode := h.refreshMode.trans h'.refreshMode
  view := h.view.trans h'.view
  enabled := h.enabled.trans h'.enabled

theorem symm (h : Parallel a b) : Parallel b a where
  bindings := h.bindings.symm
  baseFilters := h.baseFilters.symm
  baseEnabled := h.baseEnabled.symm
  baseOperator := h.baseOperator.symm
  operator := h.operator.symm
  customFilter := h.customFilter.symm
  refreshMode := h.refreshMode.symm
  view := h.view.symm
  enabled := h.enabled.symm

theorem sameTable (h : Parallel a b) : a.view.SameTable b.view :=
  View.sameTable_of_unmarked_eq h.view

theorem filters_eq (h : Parallel a b) : a.filters = b.filters := by
  rw [filters, filters, h.bindings]

/-- What is composed does not depend on the updates under way and on the waiting events. -/
theorem compose_eq (h : Parallel a b) : a.compose = b.compose := by
  have ha : Alike a { b with suspended := a.suspended, queue := a.queue } :=
    { h with columns := h.sameTable.columns, table := h.sameTable.table, suspended := rfl,
             queue := rfl }
  exact ha.compose_eq

theorem act (bar : FilterBar) (action : RefreshAction) : Parallel (bar.act action) bar :=
  { bar.alike_act action with
    view := bar.unmarked_act action, enabled := bar.enabled_act action }

theorem actAll (bar : FilterBar) (actions : List RefreshAction) :
    Parallel (bar.actAll actions) bar :=
  actAll_induction (P := (Parallel · bar)) (.refl bar) (fun b action h => (act b action).trans h)
    actions

theorem filter?_eq (h : Parallel a b) (column : String) : a.filter? column = b.filter? column := by
  rw [filter?, filter?, h.bindings]

/-- A change is made to both bars in the same way or refused by both. -/
theorem prepare (h : Parallel a b) (hop : op.isChange) :
    (∃ e, a.prepare op = .error e ∧ b.prepare op = .error e) ∨
      ∃ a' xs b' ys, a.prepare op = .ok (a', xs) ∧ b.prepare op = .ok (b', ys) ∧
        Parallel a' b' := by
  cases op with
  | edit column edits =>
    have hfilter := h.filter?_eq column
    simp only [FilterBar.prepare, editDirectly, hfilter]
    cases b.filter? column with
    | none => exact .inl ⟨_, rfl, rfl⟩
    | some f =>
      exact .inr ⟨_, _, _, _, rfl, rfl,
        { h with bindings := congrArg (replaceFilter column _) h.bindings }⟩
  | setFilters predicates =>
    refine .inr ⟨_, _, _, _, rfl, rfl, { h with bindings := ?_ }⟩
    rw [bindings_restore, bindings_restore, h.bindings]
  | clearFilters =>
    exact .inr ⟨_, _, _, _, rfl, rfl, { h with bindings := congrArg (List.map _) h.bindings }⟩
  | refresh => exact .inr ⟨_, _, _, _, rfl, rfl, h⟩
  | setOperator operator => exact .inr ⟨_, _, _, _, rfl, rfl, { h with operator := rfl }⟩
  | setBaseOperator operator => exact .inr ⟨_, _, _, _, rfl, rfl, { h with baseOperator := rfl }⟩
  | setBaseEnabled enabled => exact .inr ⟨_, _, _, _, rfl, rfl, { h with baseEnabled := rfl }⟩
  | setCustomFilter predicate =>
    exact .inr ⟨_, _, _, _, rfl, rfl, { h with customFilter := rfl }⟩
  | setBaseFilter predicate =>
    refine .inr ⟨_, _, _, _, rfl, rfl, { h with baseFilters := ?_ }⟩
    simp only [baseFiltersWith, h.baseFilters, h.sameTable.table]
  | setBaseFilterFor table predicate =>
    refine .inr ⟨_, _, _, _, rfl, rfl, { h with baseFilters := ?_ }⟩
    simp only [baseFiltersWith, h.baseFilters]
  | _ => cases hop

theorem performAll (h : Parallel a b) (hops : ∀ op ∈ ops, op.isChange) :
    Parallel (a.performAll ops) (b.performAll ops) := by
  induction ops generalizing a b with
  | nil => exact h
  | cons op ops ih =>
    obtain ⟨hop, hrest⟩ := List.forall_mem_cons.mp hops
    have hstep : Parallel (attempt a (a.perform op)).1 (attempt b (b.perform op)).1 := by
      rw [perform_eq_prepare, perform_eq_prepare]
      rcases h.prepare hop with ⟨e, ha, hb⟩ | ⟨a', xs, b', ys, ha, hb, hprepared⟩
      · rw [ha, hb]
        exact h
      · rw [ha, hb]
        exact ((actAll a' xs).trans hprepared).trans (actAll b' ys).symm
    exact ih hstep hrest

theorem endUpdate (bar : FilterBar) : Parallel bar.endUpdate bar := by
  simp only [FilterBar.endUpdate]
  split
  · exact (actAll { bar with suspended := bar.suspended - 1, queue := [] } [.recompute]).trans
      ⟨rfl, rfl, rfl, rfl, rfl, rfl, rfl, rfl, rfl⟩
  · exact ⟨rfl, rfl, rfl, rfl, rfl, rfl, rfl, rfl, rfl⟩

/-- Bars that are up to date show the same rows and remember the same if the table accepts what they
compose. -/
theorem ends_alike (h : Parallel a b) (ha : a.IsFresh) (hb : b.IsFresh)
    (haccepts : ¬ a.view.Rejects a.compose) :
    a.view.predicate = a.compose ∧ a.view.uncounted = b.view.uncounted ∧
      a.memory.snapshot? a.view.table = b.memory.snapshot? b.view.table := by
  -- Neither table shows a trace of what was in force before, so that they do not differ.
  have hmarked := (ha.judged _ ha.last).resolve_left haccepts
  have hmarked' : b.view.IsMarkedBy a.compose := by
    rw [h.compose_eq] at haccepts ⊢
    exact (hb.judged _ hb.last).resolve_left fun hr => haccepts ((h.sameTable.rejects_iff _).mpr hr)
  refine ⟨hmarked.predicate_eq, hmarked.uncounted_eq hmarked' h.view, ?_⟩
  cases henabled : a.memory.enabled with
  | false =>
    rw [TableMemory.snapshot?_of_disabled henabled,
      TableMemory.snapshot?_of_disabled (h.enabled ▸ henabled)]
  | true =>
    rw [ha.remembered henabled hmarked.predicate_eq,
      hb.remembered (h.enabled ▸ henabled) (hmarked'.predicate_eq.trans h.compose_eq), snapshot,
      snapshot, h.filters_eq, h.sameTable.table]

/-- Changes made one by one, and the same changes made as one update. -/
theorem update (start : FilterBar) (hops : ∀ op ∈ ops, op.isChange) :
    Parallel (start.performAll ops) (start.beginUpdate.performAll ops).endUpdate := by
  have hbegin : Parallel start start.beginUpdate := ⟨rfl, rfl, rfl, rfl, rfl, rfl, rfl, rfl, rfl⟩
  exact (hbegin.performAll hops).trans (endUpdate _).symm

end Parallel

/-- Just after a refresh, changes made one by one and the same changes made as one update lead to
the same filters and compose the same predicate. If the bar hears of every change and the table
accepts that predicate, they lead to the same table, in which it is in force, but for the number of
predicates accepted, and the same is remembered. Until the update ends nothing is handed over, told
or remembered, and then one predicate at most. -/
theorem update_ends_alike (hmode : bar.refreshMode = .onInput) (hsuspended : bar.suspended = 0)
    (hbound : bar.bindings ≠ []) (hops : ∀ op ∈ ops, op.isChange) :
    let start := bar.refresh
    let direct := start.performAll ops
    let updated := (start.beginUpdate.performAll ops).endUpdate
    (updated.filters = direct.filters ∧ updated.compose = direct.compose) ∧
    (AllHeard bar.bindings → ¬ direct.view.Rejects direct.compose →
      direct.view.predicate = direct.compose ∧ direct.view.uncounted = updated.view.uncounted ∧
      direct.memory.snapshot? direct.view.table = updated.memory.snapshot? updated.view.table) ∧
    (∀ made, made <+: ops → let waiting := start.beginUpdate.performAll made
      waiting.view = start.view ∧ waiting.trace = start.trace ∧ waiting.memory = start.memory) ∧
    (updated.events = start.events ∧ updated.view = start.view ∨
      ∃ p, updated.events = start.events ++ [.before p, .after p] ∧
          start.view.setPredicate p = .ok updated.view ∨
        updated.events = start.events ++ [.before p] ∧ start.view.Rejects p ∧
          updated.view = start.view) := by
  intro start direct updated
  have ha : Alike start bar := bar.alike_refresh
  have hzero : start.suspended = 0 := ha.suspended.trans hsuspended
  have hinput : start.refreshMode = .onInput := ha.refreshMode.trans hmode
  have hfilters : start.bindings ≠ [] := ha.bindings ▸ hbound
  have hwaits : Waits start (start.beginUpdate.performAll ops) :=
    (Waits.beginUpdate start).performAll hops
  have hparallel : Parallel direct updated := .update start hops
  refine ⟨⟨hparallel.filters_eq.symm, hparallel.compose_eq.symm⟩, fun hheard haccepts => ?_,
    fun made hmade => ?_, hwaits.events_endUpdate hzero hinput⟩
  · have hfollows := Follows.refresh hmode hsuspended hbound hheard
    have hfresh := isFresh_refresh hsuspended (isIdle_of_bound hbound)
    exact hparallel.ends_alike (hfollows.performAll hfresh hops).2
      (hwaits.isFresh_endUpdate hzero hinput hfilters bar.judged_refresh) haccepts
  · have hwaiting := (Waits.beginUpdate start).performAll fun op hop => hops op (hmade.subset hop)
    exact ⟨hwaiting.view, hwaiting.trace, hwaiting.memory⟩

theorem accepts_likeAnn {v : View} (h : v.SameTable peopleView) :
    ¬ v.Rejects "[name] LIKE 'ann*'" := by
  rw [View.rejects_iff, not_not]
  exact View.exists_setPredicate_of_reads reads_likeAnn
    (by simpa [Expr.mentions] using knows_people h)

/-- Over a table of people, changes that end with a filter for a name lead to the people of that
name either way. -/
theorem update_ends_alike_ann :
    let ops := [.setOperator .or, .setFilters ["[name] LIKE 'ann*'"]]
    let direct := (ofSettings peopleView rememberingSettings).refresh.performAll ops
    let updated :=
      ((ofSettings peopleView rememberingSettings).refresh.beginUpdate.performAll ops).endUpdate
    direct.view.predicate = "[name] LIKE 'ann*'" ∧ direct.view.uncounted = updated.view.uncounted ∧
      direct.memory.snapshot? direct.view.table = updated.memory.snapshot? updated.view.table := by
  intro ops direct updated
  have ha := alike_ofSettings peopleView rememberingSettings
  have hrefresh := (ofSettings peopleView rememberingSettings).alike_refresh.trans ha
  have hor : Alike ((ofSettings peopleView rememberingSettings).refresh.setOperator .or)
      { unsettled peopleView rememberingSettings with operator := .or } :=
    (alike_recompute _).trans { hrefresh with operator := rfl }
  have hdirect : Alike direct ({ unsettled peopleView rememberingSettings with
      operator := .or }.restore ["[name] LIKE 'ann*'"]) :=
    (alike_recompute _).trans (hor.restore _)
  have hcompose : direct.compose = "[name] LIKE 'ann*'" := by
    have hactive : ({ unsettled peopleView rememberingSettings with
        operator := .or }.restore ["[name] LIKE 'ann*'"]).active = [(0, "[name] LIKE 'ann*'")] := by
      decide
    rw [hdirect.compose_eq, compose_of_active_singleton hactive]
    rfl
  have hheard : AllHeard (ofSettings peopleView rememberingSettings).bindings := by
    rw [ha.bindings]
    exact fun b hb => (allLive_bind _ b hb).isHeard
  have hbound : (ofSettings peopleView rememberingSettings).bindings ≠ [] := by
    rw [ha.bindings]
    decide
  have hops : ∀ op ∈ ops, op.isChange := by
    intro op hop
    simp only [ops, List.mem_cons, List.not_mem_nil, or_false] at hop
    rcases hop with rfl | rfl <;> rfl
  obtain ⟨-, hsame, -⟩ := update_ends_alike ha.refreshMode ha.suspended hbound hops
  have htable : direct.view.SameTable peopleView :=
    (sameTable_recompute _).trans ((sameTable_recompute _).trans
      ((sameTable_renew _).trans (sameTable_recompute _)))
  have haccepts : ¬ direct.view.Rejects direct.compose := hcompose ▸ accepts_likeAnn htable
  rw [← hcompose]
  exact hsame hheard haccepts

def unheardBar : FilterBar :=
  { unsettled peopleView {} with
    bindings := [⟨"name", "name", ⟨.text, { input := .text "" }⟩⟩] }

def unheardEdited : FilterBar :=
  { unheardBar.refresh with
    bindings := [⟨"name", "name", ⟨.text, { input := .text "ann" }⟩⟩], queue := [] }

theorem perform_unsubscribe :
    (ofSettings peopleView {}).perform (.edit "name" [.unsubscribe]) = .ok unheardBar := by
  rw [ofSettings_people]
  rfl

theorem performAll_unheardBar :
    unheardBar.refresh.performAll [.edit "name" [.setText "ann"]] = unheardEdited := by
  have ha := unheardBar.alike_refresh
  have hfilter : unheardBar.refresh.filter? "name" = some ⟨.text, { input := .text "" }⟩ := by
    rw [filter?, ha.bindings]
    rfl
  have hqueue : unheardBar.refresh.queue = [] := ha.queue
  have hedit : unheardBar.refresh.perform (.edit "name" [.setText "ann"]) = .ok unheardEdited := by
    rw [perform, edit, editDirectly, hfilter, ha.bindings, hqueue]
    rfl
  simp only [performAll, List.foldl_cons, List.foldl_nil, hedit]
  rfl

theorem compose_unheardEdited : unheardEdited.compose = "[name] LIKE 'ann*'" := by
  have ha : Alike unheardEdited { unheardBar with
      bindings := [⟨"name", "name", ⟨.text, { input := .text "ann" }⟩⟩] } :=
    { unheardBar.alike_refresh with bindings := rfl, queue := rfl }
  have hactive : { unheardBar with
      bindings := [⟨"name", "name", ⟨.text, { input := .text "ann" }⟩⟩] }.active =
        [(0, "[name] LIKE 'ann*'")] := by
    decide
  rw [ha.compose_eq, compose_of_active_singleton hactive]
  rfl

theorem predicate_unheardEdited : unheardEdited.view.predicate = "" := by
  have hfresh : unheardBar.refresh.IsFresh := isFresh_refresh rfl rfl
  have hcompose : unheardBar.refresh.compose = "" :=
    unheardBar.alike_refresh.compose_eq.trans (compose_of_inactive (by decide))
  have hjudged := hfresh.judged _ hfresh.last
  rw [hcompose] at hjudged
  exact (hjudged.resolve_left unheardBar.refresh.view.not_rejects_empty).predicate_eq

/-- An edit that nobody hears of does not reach the table by itself, but as an update it does. -/
theorem update_reaches_further :
    let ops := [.edit "name" [.setText "ann"]]
    let direct := unheardBar.refresh.performAll ops
    let updated := (unheardBar.refresh.beginUpdate.performAll ops).endUpdate
    (ofSettings peopleView {}).perform (.edit "name" [.unsubscribe]) = .ok unheardBar ∧
      unheardBar.refreshMode = .onInput ∧ unheardBar.suspended = 0 ∧ unheardBar.bindings ≠ [] ∧
      (∀ op ∈ ops, op.isChange) ∧ ¬ direct.view.Rejects direct.compose ∧
      direct.view.predicate = "" ∧ updated.view.predicate = "[name] LIKE 'ann*'" := by
  intro ops direct updated
  have hops : ∀ op ∈ ops, op.isChange := fun op hop => List.mem_singleton.mp hop ▸ rfl
  have ha := unheardBar.alike_refresh
  have hparallel : Parallel direct updated := .update _ hops
  have hdirect : direct = unheardEdited := performAll_unheardBar
  have htable : direct.view.SameTable peopleView := hdirect ▸ sameTable_renew _
  have hcompose : direct.compose = "[name] LIKE 'ann*'" := hdirect ▸ compose_unheardEdited
  have haccepts := accepts_likeAnn (hparallel.sameTable.symm.trans htable)
  have hwaits : Waits unheardBar.refresh (unheardBar.refresh.beginUpdate.performAll ops) :=
    (Waits.beginUpdate _).performAll hops
  have hfresh : updated.IsFresh := hwaits.isFresh_endUpdate ha.suspended ha.refreshMode
    (by rw [ha.bindings]; decide) unheardBar.judged_refresh
  have hjudged := hfresh.judged _ hfresh.last
  rw [← hparallel.compose_eq, hcompose] at hjudged
  refine ⟨perform_unsubscribe, rfl, rfl, by decide, hops, hcompose ▸ accepts_likeAnn htable, ?_,
    (hjudged.resolve_left haccepts).predicate_eq⟩
  rw [hdirect]
  exact predicate_unheardEdited

end FilterBar
end TableFilter
