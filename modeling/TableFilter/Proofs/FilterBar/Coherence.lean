import TableFilter.Proofs.FilterBar.Places
import TableFilter.Proofs.FilterBar.Refusal

/-!
# Snapshots are coherent

Every snapshot is what the filters wrote after an operation that left their predicate in force in
the table of the snapshot, and a recompute that leaves the composed predicate in force remembers the
present filters. The snapshots of other tables are left alone, unless the bar is told to remember
nothing.
-/

namespace TableFilter

def TableMemory.IsTidy (m : TableMemory) : Prop := m.enabled = false → m.snapshots = []

namespace FilterBar

variable {bar a b c : FilterBar} {op : Operation} {action : RefreshAction}
  {actions : List RefreshAction} {t : TableId}

theorem snapshot?_renew_of_ne (h : bar.view.table ≠ t) :
    bar.renew.memory.snapshot? t = bar.memory.snapshot? t := by
  unfold renew
  split
  · rfl
  · split
    · exact snapshot?_remember_of_ne h
    · rw [snapshot?_remember_of_ne ((bar.alike_push _).table ▸ h), memory_push]

theorem snapshot?_act_of_ne (h : bar.view.table ≠ t) (action : RefreshAction) :
    (bar.act action).memory.snapshot? t = bar.memory.snapshot? t := by
  cases action with
  | ignore => rfl
  | recompute => exact snapshot?_recompute_of_ne h
  | force =>
    have hforced : { bar with lastApplied := none }.view.table ≠ t := h
    exact snapshot?_renew_of_ne hforced

theorem snapshot?_actAll_of_ne (h : bar.view.table ≠ t) (actions : List RefreshAction) :
    (bar.actAll actions).memory.snapshot? t = bar.memory.snapshot? t := by
  induction actions generalizing bar with
  | nil => rfl
  | cons action actions ih =>
    have htable : (bar.act action).view.table ≠ t := (bar.alike_act action).table ▸ h
    exact (ih htable).trans (snapshot?_act_of_ne h action)

theorem enabled_act (bar : FilterBar) (action : RefreshAction) :
    (bar.act action).memory.enabled = bar.memory.enabled := by
  cases action with
  | ignore => rfl
  | recompute => exact bar.enabled_recompute
  | force => exact ({ bar with lastApplied := none }).enabled_renew

theorem enabled_actAll (bar : FilterBar) (actions : List RefreshAction) :
    (bar.actAll actions).memory.enabled = bar.memory.enabled :=
  actAll_induction (P := fun b => b.memory.enabled = bar.memory.enabled) rfl
    (fun b action h => (b.enabled_act action).trans h) actions

theorem memory_renew_of_disabled (h : bar.memory.enabled = false) :
    bar.renew.memory = bar.memory := by
  unfold renew
  split
  · rfl
  · split
    · rw [remember_of_disabled h]
    · have hpushed := bar.memory_push bar.compose
      rw [remember_of_disabled (hpushed ▸ h), hpushed]

theorem memory_act_of_disabled (h : bar.memory.enabled = false) (action : RefreshAction) :
    (bar.act action).memory = bar.memory := by
  cases action with
  | ignore => rfl
  | recompute =>
    rw [act, recompute]
    split
    · rfl
    · exact memory_renew_of_disabled h
  | force =>
    have hforced : { bar with lastApplied := none }.memory.enabled = false := h
    exact memory_renew_of_disabled hforced

theorem memory_actAll_of_disabled (h : bar.memory.enabled = false)
    (actions : List RefreshAction) : (bar.actAll actions).memory = bar.memory :=
  actAll_induction (P := fun b => b.memory = bar.memory) rfl
    (fun _ action hb => (memory_act_of_disabled (hb ▸ h) action).trans hb) actions

theorem IsTidy.prepare (h : bar.memory.IsTidy) (hb : bar.prepare op = .ok (b, actions)) :
    b.memory.IsTidy := by
  obtain hmemory | ⟨keep, -, rfl, -⟩ := memory_of_prepare hb
  · rw [hmemory]
    exact h
  · intro hkeep
    have hoff : keep = false := hkeep
    simp only [setKeepFilters, TableMemory.setEnabled, hoff]
    rfl

theorem IsTidy.actAll (h : bar.memory.IsTidy) (actions : List RefreshAction) :
    (bar.actAll actions).memory.IsTidy := by
  intro hdisabled
  rw [enabled_actAll] at hdisabled
  rw [memory_actAll_of_disabled hdisabled]
  exact h hdisabled

theorem IsTidy.perform (h : bar.memory.IsTidy) (hb : bar.perform op = .ok b) :
    b.memory.IsTidy := by
  rw [perform_eq_prepare] at hb
  obtain ⟨⟨prepared, actions⟩, hprepare, rfl⟩ := map_eq_ok.mp hb
  exact IsTidy.actAll (IsTidy.prepare h hprepare) actions

/-- Switching a memory on that is on already changes nothing, and one that was off was empty. -/
theorem snapshot?_setEnabled_true {m : TableMemory} (h : m.IsTidy) (t : TableId) :
    (m.setEnabled true).snapshot? t = m.snapshot? t := by
  cases henabled : m.enabled with
  | true => simp [TableMemory.setEnabled, TableMemory.snapshot?, TableMemory.find?, henabled]
  | false =>
    simp [TableMemory.setEnabled, TableMemory.snapshot?, TableMemory.find?, henabled, h henabled]

theorem snapshot?_perform_of_ne (h : bar.memory.IsTidy) (hop : op ≠ .setKeepFilters false)
    (hb : bar.perform op = .ok b) (ht : b.view.table ≠ t) :
    b.memory.snapshot? t = bar.memory.snapshot? t := by
  rw [perform_eq_prepare] at hb
  obtain ⟨⟨prepared, actions⟩, hprepare, rfl⟩ := map_eq_ok.mp hb
  rw [snapshot?_actAll_of_ne ((prepared.alike_actAll actions).table ▸ ht)]
  obtain hmemory | ⟨keep, rfl, rfl, -⟩ := memory_of_prepare hprepare
  · rw [hmemory]
  · cases keep with
    | true => exact snapshot?_setEnabled_true h t
    | false => exact absurd rfl hop

/-- What can happen to a bar whose table and memory nobody else touches: an operation, any change of
a filter with any events, and a change of the reports. -/
inductive Operates : FilterBar → FilterBar → Prop where
  | perform {bar b : FilterBar} (op : Operation) : bar.perform op = .ok b → Operates bar b
  | alter (bar : FilterBar) (column : String) (f : Filter) (events : List WidgetEvent) :
      Operates bar { bar with
        bindings := replaceFilter column f bar.bindings, queue := bar.queue ++ events }
  | report (bar : FilterBar) (reporter : Reporter) : Operates bar { bar with reporter }

section

variable {view : View} {settings : FilterSettings} {overrides : List (String × FilterKind)}

theorem isTidy_run (hr : Relation.ReflTransGen Operates (ofSettings view settings overrides) bar) :
    bar.memory.IsTidy := by
  induction hr with
  | refl =>
    apply IsTidy.actAll _ [.recompute]
    change (rebound _).memory.IsTidy
    rw [memory_rebound]
    exact fun _ => rfl
  | tail _ hs ih =>
    cases hs with
    | perform op hb => exact IsTidy.perform ih hb
    | alter | report => exact ih

/-- Whatever a bar remembers is what it wrote after an operation that left the composed predicate in
force. -/
theorem exists_applied
    (hr : Relation.ReflTransGen Operates (ofSettings view settings overrides) bar) :
    ∀ s ∈ bar.memory.snapshots, ∃ earlier,
      Relation.ReflTransGen Operates (ofSettings view settings overrides) earlier ∧
        Relation.ReflTransGen Operates earlier bar ∧ s = earlier.snapshot ∧ earlier.IsApplied := by
  induction hr with
  | refl =>
    exact fun s hs => ⟨_, .refl, .refl, eq_snapshot_of_ofSettings hs⟩
  | @tail b c hb hstep ih =>
    have hearlier : ∀ s ∈ b.memory.snapshots, ∃ earlier,
        Relation.ReflTransGen Operates (ofSettings view settings overrides) earlier ∧
          Relation.ReflTransGen Operates earlier c ∧ s = earlier.snapshot ∧
            earlier.IsApplied := by
      intro s hs
      obtain ⟨earlier, hfrom, hto, hrest⟩ := ih s hs
      exact ⟨earlier, hfrom, hto.tail hstep, hrest⟩
    intro s hs
    cases hstep with
    | perform op hop =>
      rcases remembersApplied_perform hop s hs with hs | ⟨rfl, happlied⟩
      · exact hearlier s hs
      · exact ⟨c, hb.tail (.perform op hop), .refl, rfl, happlied⟩
    | alter | report => exact hearlier s hs

end

/-- After a recompute that is not skipped and leaves the composed predicate in force, the present
filters are remembered. -/
theorem snapshot?_renew_of_applied (hsuspended : bar.suspended = 0) (hidle : bar.isIdle = false)
    (hmemory : bar.memory.enabled) (happlied : bar.renew.IsApplied) :
    bar.renew.memory.snapshot? bar.renew.view.table = some bar.renew.snapshot := by
  rw [snapshot_of_alike bar.alike_renew, bar.alike_renew.table]
  exact snapshot?_renew hsuspended hidle hmemory happlied

/-- What is remembered of a table is what the filters wrote at a time when the bar was bound to it
and their predicate was in force. A recompute that is not skipped and leaves the composed predicate
in force remembers the present filters. And an operation leaves the snapshots of all tables alone to
which the bar is not bound in the end, unless it switches the memory off, which forgets everything.
-/
theorem memories_are_coherent {view : View} {settings : FilterSettings}
    {overrides : List (String × FilterKind)}
    (hr : Relation.ReflTransGen Operates (ofSettings view settings overrides) bar) :
    (∀ s ∈ bar.memory.snapshots, ∃ earlier,
      Relation.ReflTransGen Operates (ofSettings view settings overrides) earlier ∧
      Relation.ReflTransGen Operates earlier bar ∧ earlier.view.table = s.table ∧
      earlier.filters = s.filters ∧ earlier.view.predicate = earlier.compose) ∧
    (∀ b : FilterBar, b.suspended = 0 → b.isIdle = false → b.memory.enabled →
      (b.refreshMode ≠ .off → b.recompute.view.predicate = b.recompute.compose →
        b.recompute.memory.snapshot? b.recompute.view.table = some b.recompute.snapshot) ∧
      (b.refresh.view.predicate = b.refresh.compose →
        b.refresh.memory.snapshot? b.refresh.view.table = some b.refresh.snapshot)) ∧
    (∀ op b, bar.perform op = .ok b →
      (op ≠ .setKeepFilters false → ∀ t, t ≠ b.view.table →
        b.memory.snapshot? t = bar.memory.snapshot? t) ∧
      (op = .setKeepFilters false → b.memory.snapshots = [])) := by
  refine ⟨fun s hs => ?_,
    fun b hsuspended hidle hmemory => ⟨fun hmode happlied => ?_, fun happlied => ?_⟩,
    fun op b hb => ⟨fun hop t ht => ?_, fun hop => ?_⟩⟩
  · obtain ⟨earlier, hfrom, hto, rfl, happlied⟩ := exists_applied hr s hs
    exact ⟨earlier, hfrom, hto, rfl, rfl, happlied⟩
  · have hrenew : b.recompute = b.renew := if_neg hmode
    rw [hrenew] at happlied ⊢
    exact snapshot?_renew_of_applied hsuspended hidle hmemory happlied
  · have hforced : { b with lastApplied := none }.suspended = 0 := hsuspended
    exact snapshot?_renew_of_applied hforced hidle hmemory happlied
  · exact snapshot?_perform_of_ne (isTidy_run hr) hop hb ht.symm
  · subst hop
    cases hb
    rfl

def townsView : View := .memory { table := ⟨"towns"⟩, columns := [.ofName "town" .text] }

theorem table_setView (bar : FilterBar) (view : View) :
    (bar.setView view).view.table = view.table :=
  (alike_recompute _).table.trans (congrArg View.table (view_rebound _))

/-- What is remembered of the people was in force once, and it is remembered when the bar turns to
the towns. -/
theorem memories_are_coherent_ann :
    (∃ earlier, Relation.ReflTransGen Operates (ofSettings peopleView rememberingSettings) earlier ∧
      earlier.view.table = ⟨"people"⟩ ∧ earlier.filters = ["[name] LIKE 'ann*'"] ∧
      earlier.view.predicate = earlier.compose) ∧
    (rememberingBar.setView townsView).view.table = ⟨"towns"⟩ ∧
    (rememberingBar.setView townsView).memory.snapshot? ⟨"people"⟩ =
      some ⟨⟨"people"⟩, ["[name] LIKE 'ann*'"]⟩ := by
  have hrun : Relation.ReflTransGen Operates (ofSettings peopleView rememberingSettings)
      rememberingBar := .single (.perform (.setFilters ["[name] LIKE 'ann*'"]) rfl)
  obtain ⟨hsnapshots, -, hothers⟩ := memories_are_coherent hrun
  have htable : (rememberingBar.setView townsView).view.table = ⟨"towns"⟩ := table_setView _ _
  refine ⟨?_, htable, ?_⟩
  · obtain ⟨earlier, hfrom, -, hrest⟩ :=
      hsnapshots _ (TableMemory.mem_of_snapshot? snapshot?_rememberingBar)
    exact ⟨earlier, hfrom, hrest⟩
  · rw [(hothers (.setView townsView) _ rfl).1 nofun ⟨"people"⟩ (by rw [htable]; decide)]
    exact snapshot?_rememberingBar

end FilterBar
end TableFilter
