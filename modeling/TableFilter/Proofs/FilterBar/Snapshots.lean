import TableFilter.Proofs.FilterBar.Renewals
import TableFilter.Proofs.FilterBar.Returning

/-!
# Where snapshots come from

A bar puts nothing into its memory but what its filters write, under the table that it is bound to,
and only while the table has their predicate in force. What it hands over later in the same
operation does not put another predicate in force. So whatever a bar remembers is what it wrote
after an earlier operation that left its predicate in force, whoever changed the table in the
meantime.
-/

namespace TableFilter

namespace TableMemory

variable {m : TableMemory} {t : TableId} {filters : List String} {s r : TableSnapshot}

theorem eq_or_mem_of_insert {snapshots : List TableSnapshot} (h : r ∈ insert s snapshots) :
    r = s ∨ r ∈ snapshots := by
  induction snapshots with
  | nil => exact .inl (List.mem_singleton.mp h)
  | cons u rest ih =>
    unfold insert at h
    split at h
    · exact List.mem_cons.mp h
    · exact (List.mem_cons.mp h).imp_right (List.mem_cons_of_mem u)
    · rcases List.mem_cons.mp h with rfl | h
      · exact .inr List.mem_cons_self
      · exact (ih h).imp_right (List.mem_cons_of_mem u)

theorem mem_or_eq_of_record (h : s ∈ (m.record t filters).snapshots) :
    s ∈ m.snapshots ∨ s = ⟨t, filters⟩ := by
  unfold record at h
  split at h
  · exact (eq_or_mem_of_insert h).symm
  · exact .inl h

theorem mem_of_setEnabled {enabled : Bool} (h : s ∈ (m.setEnabled enabled).snapshots) :
    s ∈ m.snapshots := by
  cases enabled with
  | true => exact h
  | false => cases h

theorem mem_of_snapshot? (h : m.snapshot? t = some s) : s ∈ m.snapshots := by
  unfold snapshot? at h
  split at h
  · exact List.mem_of_find?_eq_some h
  · cases h

theorem table_of_snapshot? (h : m.snapshot? t = some s) : s.table = t := by
  unfold snapshot? at h
  split at h
  · simpa using List.find?_some h
  · cases h

end TableMemory

namespace FilterBar

variable {bar a b c : FilterBar} {op : Operation} {actions : List RefreshAction}

def snapshot (bar : FilterBar) : TableSnapshot := ⟨bar.view.table, bar.filters⟩

def IsApplied (bar : FilterBar) : Prop := bar.view.predicate = bar.compose

theorem IsApplied.push (h : bar.IsApplied) : (bar.push bar.compose).IsApplied := by
  rw [IsApplied, (bar.alike_push _).compose_eq]
  obtain ⟨view, trace, ha, hpush⟩ | ⟨trace, -, hpush⟩ := bar.push_cases bar.compose
  · rw [hpush]
    exact ha.predicate
  · rw [hpush]
    exact h

theorem isApplied_remember_iff : bar.remember.IsApplied ↔ bar.IsApplied := by
  rw [IsApplied, IsApplied, view_remember, bar.alike_remember.compose_eq]

/-- The predicate in force stays in force, whether it is handed over once more or not. -/
theorem IsApplied.act (h : bar.IsApplied) (action : RefreshAction) :
    (bar.act action).IsApplied := by
  by_cases hhands : bar.HandsOver action
  · rw [act_eq_push hhands]
    exact isApplied_remember_iff.mpr h.push
  · rw [IsApplied, (act_of_not_handsOver hhands).1, (bar.alike_act action).compose_eq]
    exact h

theorem IsApplied.actAll (h : bar.IsApplied) (actions : List RefreshAction) :
    (bar.actAll actions).IsApplied :=
  actAll_induction h (fun _ action hb => hb.act action) actions

/-- The second bar remembers nothing that the first did not, but what the filters write if their
predicate is in force. -/
def RemembersApplied (a b : FilterBar) : Prop :=
  ∀ s ∈ b.memory.snapshots, s ∈ a.memory.snapshots ∨ s = a.snapshot ∧ b.IsApplied

theorem remembersApplied_remember (bar : FilterBar) : RemembersApplied bar bar.remember := by
  intro s hs
  by_cases happlied : bar.IsApplied
  · rw [remember_eq_record happlied] at hs
    rcases TableMemory.mem_or_eq_of_record hs with hs | rfl
    · exact .inl hs
    · exact .inr ⟨rfl, isApplied_remember_iff.mpr happlied⟩
  · have hkept : bar.remember = bar := if_neg happlied
    exact .inl (hkept ▸ hs)

theorem snapshot_of_alike (h : Alike a b) : a.snapshot = b.snapshot := by
  rw [snapshot, snapshot, filters_eq h, h.table]

theorem remembersApplied_renew (bar : FilterBar) : RemembersApplied bar bar.renew := by
  unfold renew
  split
  · exact fun s hs => .inl hs
  · split
    · exact bar.remembersApplied_remember
    · intro s hs
      have hpushed := (bar.push bar.compose).remembersApplied_remember s hs
      rwa [memory_push, snapshot_of_alike (bar.alike_push _)] at hpushed

theorem remembersApplied_act (bar : FilterBar) (action : RefreshAction) :
    RemembersApplied bar (bar.act action) := by
  cases action with
  | ignore => exact fun s hs => .inl hs
  | recompute =>
    rw [act, recompute]
    split
    · exact fun s hs => .inl hs
    · exact bar.remembersApplied_renew
  | force => exact ({ bar with lastApplied := none }).remembersApplied_renew

theorem remembersApplied_actAll (bar : FilterBar) (actions : List RefreshAction) :
    RemembersApplied bar (bar.actAll actions) := by
  induction actions generalizing bar with
  | nil => exact fun s hs => .inl hs
  | cons action actions ih =>
    intro s hs
    rcases ih (bar.act action) s hs with hs | ⟨rfl, happlied⟩
    -- What was in force after the first recompute is in force after all of them.
    · exact (bar.remembersApplied_act action s hs).imp_right fun h =>
        ⟨h.1, IsApplied.actAll h.2 actions⟩
    · exact .inr ⟨snapshot_of_alike (bar.alike_act action), happlied⟩

/-- Only the setting for it touches the memory before the bar recomputes, and then it does not
recompute. -/
theorem memory_of_prepare (h : bar.prepare op = .ok (b, actions)) : b.memory = bar.memory ∨
    ∃ keep, op = .setKeepFilters keep ∧ b = bar.setKeepFilters keep ∧ actions = [] := by
  cases op with
  | edit | commit | leave =>
    obtain ⟨f, -, rfl, -⟩ := edit_dequeue_eq_ok h
    exact .inl rfl
  | editDirectly column edits =>
    obtain ⟨edited, hedited, hb⟩ := map_eq_ok.mp h
    obtain ⟨f, -, rfl⟩ := editDirectly_eq_ok hedited
    cases hb
    exact .inl rfl
  | setKeepFilters keep =>
    cases h
    exact .inr ⟨keep, rfl, rfl, rfl⟩
  | rebuild =>
    cases h
    exact .inl bar.memory_rebound
  | dataSourceChanged =>
    cases h
    exact .inl (memory_rebound _)
  | setView view =>
    cases h
    exact .inl (memory_rebound _)
  | syncColumns =>
    rw [prepare] at h
    split at h <;> cases h
    · exact .inl rfl
    · exact .inl bar.memory_rebound
  | endUpdate =>
    rw [prepare] at h
    split at h <;> cases h <;> exact .inl rfl
  | _ =>
    cases h
    exact .inl rfl

theorem remembersApplied_perform (hb : bar.perform op = .ok b) :
    ∀ s ∈ b.memory.snapshots, s ∈ bar.memory.snapshots ∨ s = b.snapshot ∧ b.IsApplied := by
  rw [perform_eq_prepare] at hb
  obtain ⟨⟨prepared, actions⟩, hprepare, rfl⟩ := map_eq_ok.mp hb
  intro s hs
  rcases prepared.remembersApplied_actAll actions s hs with hs | ⟨rfl, happlied⟩
  · refine .inl ?_
    obtain hmemory | ⟨keep, -, rfl, -⟩ := memory_of_prepare hprepare
    · exact hmemory ▸ hs
    · exact TableMemory.mem_of_setEnabled hs
  · exact .inr ⟨(snapshot_of_alike (prepared.alike_actAll actions)).symm, happlied⟩

section

variable {view : View} {settings : FilterSettings} {overrides : List (String × FilterKind)}

/-- A new bar remembers at most what it writes itself. -/
theorem eq_snapshot_of_ofSettings {s : TableSnapshot}
    (hs : s ∈ (ofSettings view settings overrides).memory.snapshots) :
    s = (ofSettings view settings overrides).snapshot ∧
      (ofSettings view settings overrides).IsApplied := by
  rcases remembersApplied_actAll _ [.recompute] s hs with hs | ⟨rfl, happlied⟩
  · change s ∈ (rebound _).memory.snapshots at hs
    rw [memory_rebound] at hs
    cases hs
  · exact ⟨(snapshot_of_alike (alike_recompute _)).symm, happlied⟩

def Proceeds (bar b : FilterBar) : Prop := Performs bar b ∨ ∃ view, b = { bar with view }

/-- Whatever a bar remembers is what it wrote at an earlier time. -/
theorem exists_recorded
    (hr : Relation.ReflTransGen Proceeds (ofSettings view settings overrides) bar) :
    ∀ s ∈ bar.memory.snapshots, ∃ recorded,
      Relation.ReflTransGen Proceeds (ofSettings view settings overrides) recorded ∧
        Relation.ReflTransGen Proceeds recorded bar ∧ s = recorded.snapshot := by
  induction hr with
  | refl =>
    intro s hs
    exact ⟨_, .refl, .refl, (eq_snapshot_of_ofSettings hs).1⟩
  | @tail b c hb hstep ih =>
    have hreached := hb.tail hstep
    have hearlier : ∀ s ∈ b.memory.snapshots, ∃ recorded,
        Relation.ReflTransGen Proceeds (ofSettings view settings overrides) recorded ∧
          Relation.ReflTransGen Proceeds recorded c ∧ s = recorded.snapshot := by
      intro s hs
      obtain ⟨recorded, hfrom, hto, heq⟩ := ih s hs
      exact ⟨recorded, hfrom, hto.tail hstep, heq⟩
    intro s hs
    rcases hstep with ⟨op, hop⟩ | ⟨now, rfl⟩
    · rcases remembersApplied_perform hop s hs with hs | ⟨hs, -⟩
      · exact hearlier s hs
      · exact ⟨c, hreached, .refl, hs⟩
    · exact hearlier s hs

end

end FilterBar
end TableFilter
