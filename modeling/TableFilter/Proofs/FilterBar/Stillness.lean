import TableFilter.Proofs.FilterBar.Coherence
import TableFilter.Proofs.FilterBar.Notices

/-!
# When a bar keeps still

A bar that only explicit refreshes renew, and a bar with updates under way, hands nothing to its
table, reports nothing and remembers nothing, whatever is done to it. All operations recompute in
one of two ways, of which the refresh mode stops the automatic one and an update stops both. How
many updates are under way is a matter of those that were begun and ended alone: changing all
filters counts as an update of its own, which is over when it is done.
-/

namespace TableFilter

def Operation.depth (depth : Nat) : Operation → Nat
  | .beginUpdate => depth + 1
  | .endUpdate => depth - 1
  | _ => depth

/-- Whether a notice tells that filters are bound anew, or is a warning of the factory that makes
them. No predicates and no errors are told of in this way. -/
def Notice.IsOfBinding (n : Notice) : Prop :=
  (∃ column kind, n = .bound column kind ∨ n = .unbound column kind) ∨
    ∃ (factory : FilterFactory) (c : Column) (view : View) (text : String),
      (factory.create c view).2 = some text ∧ n = .logged text

namespace FilterBar

variable {bar a b c d : FilterBar} {op : Operation} {actions : List RefreshAction}

/-- Without explicit refreshes nothing happens in the refresh mode that waits for them. -/
theorem actAll_of_off (hmode : bar.refreshMode = .off) (hforce : .force ∉ actions) :
    bar.actAll actions = bar := by
  induction actions with
  | nil => rfl
  | cons action actions ih =>
    obtain ⟨hfirst, hrest⟩ := not_or.mp (mt List.mem_cons.mpr hforce)
    have hact : bar.act action = bar := by
      cases action with
      | ignore => rfl
      | recompute => exact if_pos hmode
      | force => exact absurd rfl hfirst
    have hcons : bar.actAll (action :: actions) = (bar.act action).actAll actions := rfl
    rw [hcons, hact]
    exact ih hrest

theorem renew_of_suspended (h : 0 < bar.suspended) : bar.renew = bar := by
  rw [renew, if_pos (by simp [h])]

/-- During an update even a refresh only decides that the next predicate is handed over. -/
theorem actAll_of_suspended (h : 0 < bar.suspended) (actions : List RefreshAction) :
    ∃ lastApplied, (lastApplied = bar.lastApplied ∨ lastApplied = none) ∧
      bar.actAll actions = { bar with lastApplied } := by
  induction actions generalizing bar with
  | nil => exact ⟨bar.lastApplied, .inl rfl, rfl⟩
  | cons action actions ih =>
    obtain ⟨last, hlast, hact⟩ : ∃ lastApplied,
        (lastApplied = bar.lastApplied ∨ lastApplied = none) ∧
          bar.act action = { bar with lastApplied } := by
      cases action with
      | ignore => exact ⟨bar.lastApplied, .inl rfl, rfl⟩
      | recompute =>
        refine ⟨bar.lastApplied, .inl rfl, ?_⟩
        rw [act, recompute, renew_of_suspended h, ite_self]
      | force =>
        have hforced : 0 < { bar with lastApplied := none }.suspended := h
        exact ⟨none, .inr rfl, renew_of_suspended hforced⟩
    have hlater : 0 < { bar with lastApplied := last }.suspended := h
    obtain ⟨last', hlast', hrest⟩ := ih hlater
    refine ⟨last', ?_, (congrArg (·.actAll actions) hact).trans hrest⟩
    rcases hlast' with rfl | rfl
    · exact hlast
    · exact .inr rfl

/-- In this mode no event asks for a recompute, and no operation but a refresh forces one. -/
theorem force_notMem_of_off (hmode : bar.refreshMode = .off) (hop : op ≠ .refresh)
    (h : bar.prepare op = .ok (b, actions)) : .force ∉ actions := by
  have hdecide (kind : WidgetEventKind) : RefreshMode.decide .off kind = .ignore := by
    cases kind <;> rfl
  cases op with
  | edit | commit | leave =>
    obtain ⟨f, -, rfl, rfl⟩ := edit_dequeue_eq_ok h
    simp [hmode, hdecide]
  | refresh => exact absurd rfl hop
  | editDirectly column edits =>
    obtain ⟨edited, -, hb⟩ := map_eq_ok.mp h
    cases hb
    exact List.not_mem_nil
  | process =>
    cases h
    simp [hmode, hdecide]
  | handle e =>
    cases h
    simp [hmode, hdecide]
  | syncColumns =>
    rw [prepare] at h
    split at h <;> cases h <;> simp
  | endUpdate =>
    rw [prepare] at h
    split at h <;> cases h <;> simp
  | _ =>
    cases h
    simp

/-- How many updates are under way after the preparation of an operation, and that the refresh mode
stays if recomputes follow. -/
theorem depth_of_prepare (h : bar.prepare op = .ok (b, actions)) :
    b.suspended = op.depth bar.suspended ∧ (b.refreshMode = bar.refreshMode ∨ actions = []) := by
  cases op with
  | edit | commit | leave =>
    obtain ⟨f, -, rfl, -⟩ := edit_dequeue_eq_ok h
    exact ⟨rfl, .inl rfl⟩
  | editDirectly column edits =>
    obtain ⟨edited, hedited, hb⟩ := map_eq_ok.mp h
    obtain ⟨f, -, rfl⟩ := editDirectly_eq_ok hedited
    cases hb
    exact ⟨rfl, .inl rfl⟩
  | setRefreshMode mode =>
    cases h
    exact ⟨rfl, .inr rfl⟩
  | rebuild =>
    cases h
    exact ⟨bar.suspended_rebound, .inl bar.refreshMode_rebound⟩
  | dataSourceChanged =>
    cases h
    exact ⟨suspended_rebound _, .inl (refreshMode_rebound _)⟩
  | setView view =>
    cases h
    exact ⟨suspended_rebound _, .inl (refreshMode_rebound _)⟩
  | syncColumns =>
    rw [prepare] at h
    split at h <;> cases h
    · exact ⟨rfl, .inl rfl⟩
    · exact ⟨bar.suspended_rebound, .inl bar.refreshMode_rebound⟩
  | endUpdate =>
    rw [prepare] at h
    split at h
    case isTrue hlast =>
      cases h
      exact ⟨hlast.symm, .inl rfl⟩
    case isFalse =>
      cases h
      exact ⟨rfl, .inl rfl⟩
  | _ =>
    cases h
    exact ⟨rfl, .inl rfl⟩

def TellsOfBinding (a b : FilterBar) : Prop :=
  ∃ told, b.trace = a.trace ++ told ∧ ∀ n ∈ told, n.IsOfBinding

namespace TellsOfBinding

theorem of_eq (h : b.trace = a.trace) : TellsOfBinding a b :=
  ⟨[], h.trans (List.append_nil _).symm, nofun⟩

theorem trans (h : TellsOfBinding a b) (h' : TellsOfBinding b c) : TellsOfBinding a c := by
  obtain ⟨told, htold, hall⟩ := h
  obtain ⟨more, hmore, hall'⟩ := h'
  refine ⟨told ++ more, by rw [hmore, htold, List.append_assoc], fun n hn => ?_⟩
  exact (List.mem_append.mp hn).elim (hall n) (hall' n)

theorem unbind (bar : FilterBar) : TellsOfBinding bar bar.unbind := by
  refine ⟨_, rfl, fun n hn => ?_⟩
  obtain ⟨b, -, rfl⟩ := List.mem_map.mp hn
  exact .inl ⟨_, _, .inr rfl⟩

theorem bind (bar : FilterBar) : TellsOfBinding bar bar.bind := by
  refine ⟨_, rfl, fun n hn => ?_⟩
  rcases List.mem_append.mp hn with hn | hn
  · obtain ⟨text, hwarnings, rfl⟩ := List.mem_map.mp hn
    obtain ⟨c, -, hc⟩ := List.mem_filterMap.mp hwarnings
    exact .inr ⟨bar.factory, c, bar.view, text, hc, rfl⟩
  · obtain ⟨b, -, rfl⟩ := List.mem_map.mp hn
    exact .inl ⟨_, _, .inl rfl⟩

/-- What is remembered of a table is given back without a word. -/
theorem rebound (bar : FilterBar) : TellsOfBinding bar bar.rebound := by
  have hreinstate : TellsOfBinding bar.unbind.bind bar.rebound := by
    apply of_eq
    rw [FilterBar.rebound, reinstate]
    split <;> rfl
  exact ((unbind bar).trans (bind bar.unbind)).trans hreinstate

theorem prepare (h : bar.prepare op = .ok (b, actions)) : TellsOfBinding bar b := by
  cases hop : op.keepsView with
  | true =>
    rcases (keepsTable_of_prepare hop h).trace with htrace | htrace
    · exact .of_eq htrace
    · exact (rebound bar).trans (.of_eq htrace)
  | false =>
    cases op with
    | dataSourceChanged =>
      cases h
      exact rebound { bar with lastApplied := some "" }
    | setView view =>
      cases h
      exact rebound { bar with view, lastApplied := some "" }
    | _ => cases hop

end TellsOfBinding

/-- Whether an operation finds the bar told to keep still: only explicit refreshes renew it, or an
update is under way afterwards. -/
def Mutes (bar : FilterBar) (op : Operation) : Prop :=
  bar.refreshMode = .off ∧ op ≠ .refresh ∨ 0 < op.depth bar.suspended

structure LeavesBe (op : Operation) (bar b : FilterBar) : Prop where
  view : b.view = op.target bar.view
  memory : b.memory = bar.memory ∨
    ∃ keep, op = .setKeepFilters keep ∧ b.memory = bar.memory.setEnabled keep
  trace : TellsOfBinding bar b

theorem leavesBe_of_prepare (h : bar.prepare op = .ok (b, actions)) : LeavesBe op bar b where
  view := (prepares_of_prepare h).view
  memory := by
    obtain hmemory | ⟨keep, rfl, rfl, -⟩ := memory_of_prepare h
    · exact .inl hmemory
    · exact .inr ⟨keep, rfl, rfl⟩
  trace := .prepare h

/-- The recomputes that follow the preparation come to nothing. -/
theorem leavesBe_of_perform (hmutes : bar.Mutes op) (h : bar.perform op = .ok b) :
    LeavesBe op bar b := by
  rw [perform_eq_prepare] at h
  obtain ⟨⟨prepared, actions⟩, hprepare, rfl⟩ := map_eq_ok.mp h
  have hprepared := leavesBe_of_prepare hprepare
  obtain ⟨hdepth, hmode⟩ := depth_of_prepare hprepare
  rcases hmutes with ⟨hoff, hop⟩ | hsuspended
  · have hstill : prepared.actAll actions = prepared := by
      rcases hmode with hmode | rfl
      · exact actAll_of_off (hmode.trans hoff) (force_notMem_of_off hoff hop hprepare)
      · rfl
    rw [show (prepared.actAll actions) = prepared from hstill]
    exact hprepared
  · have hlater : 0 < prepared.suspended := hdepth ▸ hsuspended
    obtain ⟨lastApplied, -, hstill⟩ := actAll_of_suspended hlater actions
    rw [show prepared.actAll actions = { prepared with lastApplied } from hstill]
    exact ⟨hprepared.view, hprepared.memory, hprepared.trace⟩

theorem suspended_perform (h : bar.perform op = .ok b) :
    b.suspended = op.depth bar.suspended := by
  rw [perform_eq_prepare] at h
  obtain ⟨⟨prepared, actions⟩, hprepare, rfl⟩ := map_eq_ok.mp h
  exact (prepared.alike_actAll actions).suspended.trans (depth_of_prepare hprepare).1

/-- What can happen to a bar with one table while it is told to keep still: an operation, any change
of a filter with any events, a change of the reports, and what is done to the table from outside. -/
inductive Hushed (outside : View → View → Prop) : FilterBar → FilterBar → Prop where
  | perform {bar b : FilterBar} (op : Operation) : (∀ view, op ≠ .setView view) → bar.Mutes op →
      bar.perform op = .ok b → Hushed outside bar b
  | alter (bar : FilterBar) (column : String) (f : Filter) (events : List WidgetEvent) :
      Hushed outside bar { bar with
        bindings := replaceFilter column f bar.bindings, queue := bar.queue ++ events }
  | report (bar : FilterBar) (reporter : Reporter) : Hushed outside bar { bar with reporter }
  | table (bar : FilterBar) (view : View) : outside bar.view view →
      Hushed outside bar { bar with view }

structure Unmoved (outside : View → View → Prop) (a b : FilterBar) : Prop where
  view : Relation.ReflTransGen outside a.view b.view
  memory : b.memory.snapshots = a.memory.snapshots ∨ b.memory.snapshots = []
  trace : TellsOfBinding a b

theorem LeavesBe.unmoved {outside : View → View → Prop} (h : LeavesBe op a b)
    (hop : ∀ view, op ≠ .setView view) : Unmoved outside a b where
  view := by
    rw [h.view, Operation.target_of_ne hop]
  memory := by
    obtain hmemory | ⟨keep, -, hmemory⟩ := h.memory
    · exact .inl (congrArg TableMemory.snapshots hmemory)
    · rw [hmemory]
      cases keep with
      | true => exact .inl rfl
      | false => exact .inr rfl
  trace := h.trace

theorem Unmoved.trans {outside : View → View → Prop} (h : Unmoved outside a b)
    (h' : Unmoved outside b c) : Unmoved outside a c where
  view := h.view.trans h'.view
  memory := by
    rcases h'.memory with heq | hnil
    · rw [heq]
      exact h.memory
    · exact .inr hnil
  trace := h.trace.trans h'.trace

theorem Hushed.unmoved {outside : View → View → Prop} (h : Hushed outside a b) :
    Unmoved outside a b := by
  cases h with
  | perform op hop hmutes hb => exact (leavesBe_of_perform hmutes hb).unmoved hop
  | alter | report => exact ⟨.refl, .inl rfl, .of_eq rfl⟩
  | table view hview => exact ⟨.single hview, .inl rfl, .of_eq rfl⟩

theorem unmoved_run {outside : View → View → Prop}
    (hr : Relation.ReflTransGen (Hushed outside) a b) : Unmoved outside a b := by
  induction hr with
  | refl => exact ⟨.refl, .inl rfl, .of_eq rfl⟩
  | tail _ hs ih => exact ih.trans hs.unmoved

/-- A bar that is told to keep still does so. While only explicit refreshes renew it and there are
none, and while more updates were begun than ended, explicit refreshes included, nothing that is
done to it hands a predicate to the table, tells listeners of one, reports an error or remembers
filters. How many updates are under way depends on those begun and ended alone. All filters can be
changed at once without that. -/
theorem bar_keeps_still {outside : View → View → Prop}
    (hr : Relation.ReflTransGen (Hushed outside) a b) :
    Unmoved outside a b ∧
    (∀ (bar d : FilterBar) (op : Operation), bar.Mutes op → bar.perform op = .ok d →
      LeavesBe op bar d) ∧
    (∀ (bar d : FilterBar) (op : Operation), bar.perform op = .ok d →
      d.suspended = op.depth bar.suspended) ∧
    (∀ (view : View) (s : FilterSettings) (overrides : List (String × FilterKind)),
      (ofSettings view s overrides).suspended = 0) ∧
    ∀ bar : FilterBar, (∀ change, (bar.changeFilters change).suspended = bar.suspended) ∧
      (∀ predicates, (bar.setFilters predicates).suspended = bar.suspended) ∧
      bar.clearFilters.suspended = bar.suspended ∧ bar.reinstate.suspended = bar.suspended := by
  refine ⟨unmoved_run hr, fun bar d op hmutes hd => leavesBe_of_perform hmutes hd,
    fun bar d op hd => suspended_perform hd, fun view s overrides => ?_,
    fun bar => ⟨fun change => rfl, fun predicates => ?_, ?_, ?_⟩⟩
  · exact (alike_recompute _).suspended.trans (suspended_rebound _)
  · have hperform : bar.perform (.setFilters predicates) = .ok (bar.setFilters predicates) := rfl
    exact suspended_perform hperform
  · have hperform : bar.perform .clearFilters = .ok bar.clearFilters := rfl
    exact suspended_perform hperform
  · rw [reinstate]
    split <;> rfl

def waitingSettings : FilterSettings := { refreshMode := .off }

def waitingBar : FilterBar :=
  (ofSettings peopleView waitingSettings).setFilters ["[name] LIKE 'ann*'"]

def busyBar : FilterBar := (waitingBar.beginUpdate.setRefreshMode .onInput).refresh

theorem alike_busyBar : Alike busyBar
    { (unsettled peopleView waitingSettings).restore ["[name] LIKE 'ann*'"] with
      suspended := 1, refreshMode := .onInput } := by
  have hwaiting : Alike waitingBar _ :=
    (alike_recompute _).trans ((alike_ofSettings peopleView waitingSettings).restore _)
  have hsuspended : waitingBar.suspended = 0 := hwaiting.suspended
  have hbusy : Alike (waitingBar.beginUpdate.setRefreshMode .onInput)
      { (unsettled peopleView waitingSettings).restore ["[name] LIKE 'ann*'"] with
        suspended := 1, refreshMode := .onInput } :=
    { hwaiting with suspended := congrArg (· + 1) hsuspended, refreshMode := rfl }
  exact (alike_refresh _).trans hbusy

theorem compose_busyBar : busyBar.compose = "[name] LIKE 'ann*'" := by
  have hactive : { (unsettled peopleView waitingSettings).restore ["[name] LIKE 'ann*'"] with
      suspended := 1, refreshMode := .onInput }.active = [(0, "[name] LIKE 'ann*'")] := by decide
  rw [alike_busyBar.compose_eq, compose_of_active_singleton hactive]
  rfl

/-- Neither the filter nor the refresh during the update reaches the table. -/
theorem bar_keeps_still_ann :
    Relation.ReflTransGen (Hushed fun _ _ => False) (ofSettings peopleView waitingSettings)
        busyBar ∧
      busyBar.compose = "[name] LIKE 'ann*'" ∧ busyBar.view = peopleView ∧
      TellsOfBinding (ofSettings peopleView waitingSettings) busyBar := by
  have hmode : (ofSettings peopleView waitingSettings).refreshMode = .off :=
    (alike_ofSettings _ _).refreshMode.trans (refreshMode_rebound _)
  have hrun : Relation.ReflTransGen (Hushed fun _ _ => False)
      (ofSettings peopleView waitingSettings) busyBar := by
    have hfilters : Hushed (fun _ _ => False) (ofSettings peopleView waitingSettings) waitingBar :=
      .perform (.setFilters _) nofun (.inl ⟨hmode, nofun⟩) rfl
    have hbegin : Hushed (fun _ _ => False) waitingBar waitingBar.beginUpdate :=
      .perform .beginUpdate nofun (.inr (Nat.succ_pos _)) rfl
    have hset : Hushed (fun _ _ => False) waitingBar.beginUpdate
        (waitingBar.beginUpdate.setRefreshMode .onInput) :=
      .perform (.setRefreshMode .onInput) nofun (.inr (Nat.succ_pos _)) rfl
    have hrefresh : Hushed (fun _ _ => False) (waitingBar.beginUpdate.setRefreshMode .onInput)
        busyBar := .perform .refresh nofun (.inr (Nat.succ_pos _)) rfl
    exact .tail (.tail (.tail (.single hfilters) hbegin) hset) hrefresh
  obtain ⟨hunmoved, -⟩ := bar_keeps_still hrun
  have hview : busyBar.view = (ofSettings peopleView waitingSettings).view := by
    rcases Relation.ReflTransGen.cases_tail hunmoved.view with heq | ⟨_, _, hfalse⟩
    · exact heq
    · exact hfalse.elim
  have hpeople : ofSettings peopleView waitingSettings = unsettled peopleView waitingSettings := by
    change (unsettled peopleView waitingSettings).recompute = _
    exact if_pos rfl
  refine ⟨hrun, compose_busyBar, ?_, hunmoved.trace⟩
  rw [hview, hpeople]
  rfl

end FilterBar
end TableFilter
