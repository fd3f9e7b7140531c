import TableFilter.Proofs.FilterBar.Rebinding

/-!
# When a bar recomputes

Every operation changes the bar and then recomputes it, as often as it has events to handle and
otherwise once or not at all. So an operation is a preparation, which does not touch the table, and
a list of recomputes, of which some are forced. A recompute hands the composed predicate over or
leaves the table and everyone who listens alone.
-/

namespace TableFilter

namespace FilterBar

variable {bar b c : FilterBar} {op : Operation} {a : RefreshAction} {actions : List RefreshAction}

def act (bar : FilterBar) : RefreshAction → FilterBar
  | .ignore => bar
  | .recompute => bar.recompute
  | .force => bar.refresh

def HandsOver (bar : FilterBar) (a : RefreshAction) : Prop :=
  bar.suspended = 0 ∧ bar.isIdle = false ∧ (a = .force ∨
    a = .recompute ∧ bar.refreshMode ≠ .off ∧ bar.lastApplied ≠ some bar.compose)

theorem handle_eq_act (bar : FilterBar) (e : WidgetEvent) :
    bar.handle e = bar.act (bar.refreshMode.decide e.kind) := by
  unfold handle
  cases bar.refreshMode.decide e.kind <;> rfl

theorem alike_act (bar : FilterBar) (a : RefreshAction) : Alike (bar.act a) bar := by
  cases a with
  | ignore => exact .refl bar
  | recompute => exact bar.alike_recompute
  | force => exact bar.alike_refresh

theorem renew_eq_push (hsuspended : bar.suspended = 0) (hidle : bar.isIdle = false)
    (hlast : bar.lastApplied ≠ some bar.compose) : bar.renew = (bar.push bar.compose).remember := by
  have hskip : ¬ (bar.suspended > 0 || bar.isIdle) = true := by simp [hsuspended, hidle]
  rw [renew, if_neg hskip, if_neg hlast]

/-- What was handed over last is of no account to handing another predicate over. -/
theorem push_forget (bar : FilterBar) (p : String) :
    { bar with lastApplied := none }.push p = bar.push p := by
  simp only [push, emit]

theorem act_eq_push (h : bar.HandsOver a) : bar.act a = (bar.push bar.compose).remember := by
  obtain ⟨hsuspended, hidle, rfl | ⟨rfl, hmode, hlast⟩⟩ := h
  · have hcompose : { bar with lastApplied := none }.compose = bar.compose := rfl
    have hrenew : bar.refresh = _ := renew_eq_push hsuspended hidle nofun
    rw [hcompose, push_forget] at hrenew
    exact hrenew
  · exact (if_neg hmode).trans (renew_eq_push hsuspended hidle hlast)

theorem trace_remember (bar : FilterBar) : bar.remember.trace = bar.trace := by
  unfold remember
  split <;> rfl

/-- Nothing is handed over during updates, where there is nothing to compose, and again. -/
theorem renew_of_not_ready (h : ¬ (bar.suspended = 0 ∧ bar.isIdle = false ∧
    bar.lastApplied ≠ some bar.compose)) : bar.renew = bar ∨ bar.renew = bar.remember := by
  unfold renew
  split
  case isTrue => exact .inl rfl
  case isFalse hskip =>
    split
    case isTrue => exact .inr rfl
    case isFalse hlast =>
      simp only [gt_iff_lt, Bool.or_eq_true, decide_eq_true_eq, not_or, Bool.not_eq_true,
        Nat.pos_iff_ne_zero, not_not] at hskip
      exact absurd ⟨hskip.1, hskip.2, hlast⟩ h

/-- A recompute that hands nothing over leaves the table alone and tells nobody. -/
theorem act_of_not_handsOver (h : ¬ bar.HandsOver a) :
    (bar.act a).view = bar.view ∧ (bar.act a).trace = bar.trace ∧
      (a ≠ .force → (bar.act a).lastApplied = bar.lastApplied) := by
  cases a with
  | ignore => exact ⟨rfl, rfl, fun _ => rfl⟩
  | recompute =>
    rw [act, recompute]
    split
    case isTrue => exact ⟨rfl, rfl, fun _ => rfl⟩
    case isFalse hmode =>
      have hready : ¬ (bar.suspended = 0 ∧ bar.isIdle = false ∧
          bar.lastApplied ≠ some bar.compose) := by
        rintro ⟨hsuspended, hidle, hlast⟩
        exact h ⟨hsuspended, hidle, .inr ⟨rfl, hmode, hlast⟩⟩
      rcases renew_of_not_ready hready with hrenew | hrenew <;> rw [hrenew]
      · exact ⟨rfl, rfl, fun _ => rfl⟩
      · exact ⟨bar.view_remember, bar.trace_remember, fun _ => bar.lastApplied_remember⟩
  | force =>
    let forgetful := { bar with lastApplied := none }
    have hready : ¬ (forgetful.suspended = 0 ∧ forgetful.isIdle = false ∧
        forgetful.lastApplied ≠ some forgetful.compose) := by
      rintro ⟨hsuspended, hidle, -⟩
      exact h ⟨hsuspended, hidle, .inl rfl⟩
    have hact : bar.act .force = forgetful.renew := rfl
    rcases renew_of_not_ready hready with hrenew | hrenew <;> rw [hact, hrenew]
    · exact ⟨rfl, rfl, fun hne => absurd rfl hne⟩
    · exact ⟨forgetful.view_remember, forgetful.trace_remember, fun hne => absurd rfl hne⟩

def actAll (bar : FilterBar) (actions : List RefreshAction) : FilterBar := actions.foldl act bar

theorem actAll_append (bar : FilterBar) (earlier later : List RefreshAction) :
    bar.actAll (earlier ++ later) = (bar.actAll earlier).actAll later :=
  List.foldl_append

/-- What single recomputes preserve is preserved by several. -/
theorem actAll_induction {P : FilterBar → Prop} (h : P bar)
    (hact : ∀ (b : FilterBar) (a : RefreshAction), P b → P (b.act a))
    (actions : List RefreshAction) : P (bar.actAll actions) := by
  induction actions generalizing bar with
  | nil => exact h
  | cons a actions ih => exact ih (hact bar a h)

theorem alike_actAll (bar : FilterBar) (actions : List RefreshAction) :
    Alike (bar.actAll actions) bar :=
  actAll_induction (P := (Alike · bar)) (.refl bar) (fun b a h => (b.alike_act a).trans h) actions

/-- The events are all handled in the refresh mode that the bar has before. -/
theorem foldl_handle_eq_actAll (bar : FilterBar) (events : List WidgetEvent) :
    events.foldl handle bar = bar.actAll (events.map fun e => bar.refreshMode.decide e.kind) := by
  induction events generalizing bar with
  | nil => rfl
  | cons e events ih =>
    have hmode : (bar.handle e).refreshMode = bar.refreshMode := by
      rw [handle_eq_act]
      exact (bar.alike_act _).refreshMode
    rw [List.foldl_cons, ih, hmode, handle_eq_act]
    rfl

def dequeue (bar : FilterBar) : FilterBar × List RefreshAction :=
  ({ bar with queue := [] }, bar.queue.map fun e => bar.refreshMode.decide e.kind)

def baseFiltersWith (bar : FilterBar) (table : TableId) (predicate : String) :
    List (TableId × String) :=
  let others := bar.baseFilters.filter (·.1 ≠ table)
  if Text.isBlankText predicate then others else (table, predicate) :: others

/-- What an operation does to the bar before it recomputes, and the recomputes that follow. -/
def prepare (bar : FilterBar) : Operation → Except FilterError (FilterBar × List RefreshAction)
  | .edit column edits => (bar.editDirectly column edits).map dequeue
  | .editDirectly column edits => (bar.editDirectly column edits).map (·, [])
  | .process => .ok bar.dequeue
  | .handle e => .ok (bar, [bar.refreshMode.decide e.kind])
  | .commit column => (bar.editDirectly column [.commit]).map dequeue
  | .leave column => (bar.editDirectly column [.leave]).map dequeue
  | .setCustomFilter customFilter => .ok ({ bar with customFilter }, [.recompute])
  | .setBaseFilter predicate =>
    .ok ({ bar with baseFilters := bar.baseFiltersWith bar.view.table predicate }, [.recompute])
  | .setBaseFilterFor table predicate =>
    .ok ({ bar with baseFilters := bar.baseFiltersWith table predicate }, [.recompute])
  | .setBaseEnabled baseEnabled => .ok ({ bar with baseEnabled }, [.recompute])
  | .setOperator operator => .ok ({ bar with operator }, [.recompute])
  | .setBaseOperator baseOperator => .ok ({ bar with baseOperator }, [.recompute])
  | .setRefreshMode mode => .ok (bar.setRefreshMode mode, [])
  | .setKeepFilters keep => .ok (bar.setKeepFilters keep, [])
  | .setFilters predicates => .ok (bar.restore predicates, [.recompute])
  | .clearFilters =>
    .ok ({ bar with bindings := bar.bindings.map Binding.clear, queue := [] }, [.recompute])
  | .beginUpdate => .ok (bar.beginUpdate, [])
  | .endUpdate =>
    if bar.suspended - 1 = 0 then .ok ({ bar with suspended := 0, queue := [] }, [.recompute])
    else .ok ({ bar with suspended := bar.suspended - 1 }, [])
  | .refresh => .ok (bar, [.force])
  | .rebuild => .ok (bar.rebound, [.recompute])
  | .syncColumns =>
    if bar.isInStep then
      .ok ({ bar with bindings := List.zipWith Binding.rename bar.bindings bar.view.columns },
        [.recompute])
    else .ok (bar.rebound, [.recompute])
  | .dataSourceChanged => .ok ({ bar with lastApplied := some "" }.rebound, [.recompute])
  | .setView view => .ok ({ bar with view, lastApplied := some "" }.rebound, [.recompute])

/-- An edit replaces one filter and asks for what the events of all inputs ask for. -/
theorem edit_dequeue_eq_ok {column : String} {edits : List Edit}
    (h : (bar.editDirectly column edits).map dequeue = .ok (b, actions)) :
    ∃ f, bar.filter? column = some f ∧
      b = { bar with
        bindings := replaceFilter column (f.editAll edits).1 bar.bindings, queue := [] } ∧
      actions = (bar.queue ++ (f.editAll edits).2).map fun e => bar.refreshMode.decide e.kind := by
  obtain ⟨edited, hedited, hb⟩ := map_eq_ok.mp h
  obtain ⟨f, hf, rfl⟩ := editDirectly_eq_ok hedited
  cases hb
  exact ⟨f, hf, rfl, rfl⟩

theorem process_eq_actAll (bar : FilterBar) :
    bar.process = bar.dequeue.1.actAll bar.dequeue.2 :=
  foldl_handle_eq_actAll { bar with queue := [] } bar.queue

theorem alike_process (bar : FilterBar) : Alike bar.process { bar with queue := [] } := by
  rw [process_eq_actAll]
  exact alike_actAll _ _

theorem edit_eq_actAll (bar : FilterBar) (column : String) (edits : List Edit) :
    bar.edit column edits =
      ((bar.editDirectly column edits).map dequeue).map fun q => q.1.actAll q.2 := by
  unfold edit
  cases bar.editDirectly column edits with
  | error e => rfl
  | ok edited => exact congrArg Except.ok edited.process_eq_actAll

theorem endUpdate_eq_actAll (bar : FilterBar) : (Except.ok bar.endUpdate : Except FilterError _) =
    (bar.prepare .endUpdate).map fun q => q.1.actAll q.2 := by
  simp only [endUpdate, prepare]
  split
  case isTrue hlast =>
    rw [hlast]
    rfl
  case isFalse => rfl

/-- An operation is its preparation, followed by recomputes. -/
theorem perform_eq_prepare (bar : FilterBar) (op : Operation) :
    bar.perform op = (bar.prepare op).map fun q => q.1.actAll q.2 := by
  cases op with
  | edit column edits => exact bar.edit_eq_actAll column edits
  | commit column => exact bar.edit_eq_actAll column _
  | leave column => exact bar.edit_eq_actAll column _
  | editDirectly column edits =>
    simp only [perform, prepare]
    cases bar.editDirectly column edits <;> rfl
  | process => exact congrArg Except.ok bar.process_eq_actAll
  | handle e => exact congrArg Except.ok (bar.handle_eq_act e)
  | endUpdate => exact bar.endUpdate_eq_actAll
  | syncColumns =>
    simp only [perform, prepare, syncColumns]
    split <;> rfl
  | _ => rfl

theorem perform_of_prepare (h : bar.prepare op = .ok (b, actions)) :
    bar.perform op = .ok (b.actAll actions) := by
  rw [perform_eq_prepare, h]
  rfl

structure KeepsTable (bar b : FilterBar) : Prop where
  view : b.view = bar.view
  lastApplied : b.lastApplied = bar.lastApplied
  trace : b.trace = bar.trace ∨ b.trace = bar.rebound.trace

theorem keepsTable_rebound (bar : FilterBar) : KeepsTable bar bar.rebound :=
  ⟨bar.view_rebound, bar.lastApplied_rebound, .inr rfl⟩

theorem keepsTable_of_prepare (hop : op.keepsView) (h : bar.prepare op = .ok (b, actions)) :
    KeepsTable bar b := by
  cases op with
  | edit | commit | leave =>
    obtain ⟨f, -, rfl, -⟩ := edit_dequeue_eq_ok h
    exact ⟨rfl, rfl, .inl rfl⟩
  | dataSourceChanged => cases hop
  | setView view => cases hop
  | editDirectly column edits =>
    obtain ⟨edited, hedited, hb⟩ := map_eq_ok.mp h
    obtain ⟨f, -, rfl⟩ := editDirectly_eq_ok hedited
    cases hb
    exact ⟨rfl, rfl, .inl rfl⟩
  | rebuild =>
    cases h
    exact bar.keepsTable_rebound
  | syncColumns =>
    rw [prepare] at h
    split at h
    · cases h
      exact ⟨rfl, rfl, .inl rfl⟩
    · cases h
      exact bar.keepsTable_rebound
  | endUpdate =>
    rw [prepare] at h
    split at h <;> cases h <;> exact ⟨rfl, rfl, .inl rfl⟩
  | _ =>
    cases h
    exact ⟨rfl, rfl, .inl rfl⟩

end FilterBar
end TableFilter
