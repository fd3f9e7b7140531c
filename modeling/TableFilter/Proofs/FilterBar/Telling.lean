import TableFilter.Proofs.FilterBar.Notices

/-!
# What was told before

A bar adds to what it has told and never looks at it. So an operation does the same to a bar that
has told more before, and whoever takes the notices away after each operation is left with the bar
that a run without interruptions leads to.
-/

namespace TableFilter

namespace FilterBar

variable {a b : FilterBar} {op : Operation}

def withPast (bar : FilterBar) (past : List Notice) : FilterBar :=
  { bar with trace := past ++ bar.trace }

def untold (bar : FilterBar) : FilterBar := { bar with trace := [] }

theorem withPast_untold (bar : FilterBar) : bar.untold.withPast bar.trace = bar := by
  rw [withPast, untold, List.append_nil]

theorem emit_withPast (bar : FilterBar) (past notices : List Notice) :
    (bar.withPast past).emit notices = (bar.emit notices).withPast past := by
  simp only [emit, withPast, List.append_assoc]

theorem compose_withPast (bar : FilterBar) (past : List Notice) :
    (bar.withPast past).compose = bar.compose := rfl

theorem push_withPast (bar : FilterBar) (past : List Notice) (p : String) :
    (bar.withPast past).push p = (bar.push p).withPast past := by
  cases hs : bar.view.setPredicate p with
  | ok view => simp only [push, hs, emit, withPast, List.append_assoc]
  | error e =>
    simp only [push, hs, emit, withPast, List.append_assoc]
    rfl

theorem remember_withPast (bar : FilterBar) (past : List Notice) :
    (bar.withPast past).remember = bar.remember.withPast past := by
  have hview : (bar.withPast past).view = bar.view := rfl
  by_cases h : bar.view.predicate = bar.compose
  · rw [remember, remember, compose_withPast, hview, if_pos h, if_pos h]
    rfl
  · rw [remember, remember, compose_withPast, hview, if_neg h, if_neg h]

theorem renew_withPast (bar : FilterBar) (past : List Notice) :
    (bar.withPast past).renew = bar.renew.withPast past := by
  have hskip : ((bar.withPast past).suspended > 0 || (bar.withPast past).isIdle) =
      (bar.suspended > 0 || bar.isIdle) := rfl
  have hlast : (bar.withPast past).lastApplied = bar.lastApplied := rfl
  rw [renew, renew, hskip, compose_withPast, hlast, remember_withPast, push_withPast,
    remember_withPast]
  split
  · rfl
  · split <;> rfl

theorem act_withPast (bar : FilterBar) (past : List Notice) (action : RefreshAction) :
    (bar.withPast past).act action = (bar.act action).withPast past := by
  cases action with
  | ignore => rfl
  | recompute =>
    have hmode : (bar.withPast past).refreshMode = bar.refreshMode := rfl
    rw [act, act, recompute, recompute, hmode, renew_withPast]
    split <;> rfl
  | force => exact renew_withPast { bar with lastApplied := none } past

theorem actAll_withPast (bar : FilterBar) (past : List Notice) (actions : List RefreshAction) :
    (bar.withPast past).actAll actions = (bar.actAll actions).withPast past := by
  induction actions generalizing bar with
  | nil => rfl
  | cons action actions ih =>
    have hcons (b : FilterBar) : b.actAll (action :: actions) = (b.act action).actAll actions := rfl
    rw [hcons, hcons, act_withPast, ih]

theorem rebound_withPast (bar : FilterBar) (past : List Notice) :
    (bar.withPast past).rebound = bar.rebound.withPast past := by
  have hbind : (bar.withPast past).unbind.bind = bar.unbind.bind.withPast past := by
    have hunbind : (bar.withPast past).unbind = bar.unbind.withPast past :=
      emit_withPast { bar with bindings := [] } past _
    rw [hunbind]
    exact emit_withPast { bar.unbind with bindings := bar.unbind.bind.bindings, queue := [] } past _
  have hreinstate (b : FilterBar) : (b.withPast past).reinstate = b.reinstate.withPast past := by
    have hmemory : (b.withPast past).memory.snapshot? (b.withPast past).view.table =
        b.memory.snapshot? b.view.table := rfl
    rw [reinstate, reinstate, hmemory]
    split <;> rfl
  rw [rebound, rebound, hbind, hreinstate]

theorem editDirectly_withPast (bar : FilterBar) (past : List Notice) (column : String)
    (edits : List Edit) : (bar.withPast past).editDirectly column edits =
      (bar.editDirectly column edits).map (withPast · past) := by
  have hfilter : (bar.withPast past).filter? column = bar.filter? column := rfl
  rw [editDirectly, editDirectly, hfilter]
  split <;> rfl

theorem dequeue_withPast (bar : FilterBar) (past : List Notice) (column : String)
    (edits : List Edit) : ((bar.withPast past).editDirectly column edits).map dequeue =
      ((bar.editDirectly column edits).map dequeue).map fun q => (q.1.withPast past, q.2) := by
  rw [editDirectly_withPast]
  cases bar.editDirectly column edits <;> rfl

theorem prepare_withPast (bar : FilterBar) (past : List Notice) (op : Operation) :
    (bar.withPast past).prepare op =
      (bar.prepare op).map fun q => (q.1.withPast past, q.2) := by
  cases op with
  | edit column edits => exact bar.dequeue_withPast past column edits
  | commit column => exact bar.dequeue_withPast past column _
  | leave column => exact bar.dequeue_withPast past column _
  | editDirectly column edits =>
    rw [prepare, prepare, editDirectly_withPast]
    cases bar.editDirectly column edits <;> rfl
  | endUpdate =>
    have hsuspended : (bar.withPast past).suspended = bar.suspended := rfl
    rw [prepare, prepare, hsuspended]
    split <;> rfl
  | rebuild =>
    rw [prepare, rebound_withPast]
    rfl
  | syncColumns =>
    have hstep : (bar.withPast past).isInStep = bar.isInStep := rfl
    rw [prepare, prepare, hstep, rebound_withPast]
    split <;> rfl
  | dataSourceChanged =>
    have hrebound := rebound_withPast { bar with lastApplied := some "" } past
    exact congrArg (fun b => Except.ok (b, [RefreshAction.recompute])) hrebound
  | setView view =>
    have hrebound := rebound_withPast { bar with view, lastApplied := some "" } past
    exact congrArg (fun b => Except.ok (b, [RefreshAction.recompute])) hrebound
  | _ => rfl

/-- An operation is the same whatever was told before. -/
theorem perform_withPast (bar : FilterBar) (past : List Notice) (op : Operation) :
    (bar.withPast past).perform op = (bar.perform op).map (withPast · past) := by
  rw [perform_eq_prepare, perform_eq_prepare, prepare_withPast]
  cases bar.prepare op with
  | error e => rfl
  | ok q => exact congrArg Except.ok (actAll_withPast q.1 past q.2)

/-- The notices can be taken away before an operation if they are taken away after it. -/
theorem perform_of_untold (h : a.untold.perform op = .ok b) :
    ∃ c, a.perform op = .ok c ∧ c.untold = b.untold := by
  refine ⟨b.withPast a.trace, ?_, rfl⟩
  rw [← a.withPast_untold, perform_withPast, withPast_untold, h]
  rfl

end FilterBar
end TableFilter
