import TableFilter.Proofs.FilterBar.Handover
import TableFilter.Proofs.View.Rows

/-!
# What is remembered of a table

Recording the filters of one table leaves what is remembered of the others alone. A bar records only
when it recomputes, for its own table, and only while the table has the composed predicate in force;
right after such a recompute the snapshot of the table holds the present filters.
-/

namespace TableFilter

namespace TableMemory

variable {m : TableMemory} {t u : TableId} {filters : List String}

theorem find?_insert_self (s : TableSnapshot) (snapshots : List TableSnapshot) :
    (insert s snapshots).find? (·.table = s.table) = some s := by
  induction snapshots with
  | nil => simp [insert]
  | cons r rest ih =>
    cases hr : compare s.table.name r.table.name with
    | lt | eq => simp [insert, hr]
    | gt =>
      have hne : r.table ≠ s.table := by
        intro h
        rw [h, Std.LawfulEqOrd.compare_eq_iff_eq.mpr rfl] at hr
        cases hr
      simp [insert, hr, hne, ih]

theorem find?_insert_of_ne {s : TableSnapshot} (h : s.table ≠ t) (snapshots : List TableSnapshot) :
    (insert s snapshots).find? (·.table = t) = snapshots.find? (·.table = t) := by
  induction snapshots with
  | nil => simp [insert, h]
  | cons r rest ih =>
    cases hr : compare s.table.name r.table.name with
    | lt => simp [insert, hr, h]
    | eq =>
      -- The older snapshot of the same table gives way.
      have hname : s.table.name = r.table.name := Std.LawfulEqOrd.compare_eq_iff_eq.mp hr
      have htable : s.table = r.table := congrArg TableId.mk hname
      simp [insert, hr, h, htable ▸ h]
    | gt =>
      simp only [insert, hr, List.find?_cons, ih]

theorem enabled_record (m : TableMemory) (t : TableId) (filters : List String) :
    (m.record t filters).enabled = m.enabled := by
  unfold record
  split <;> rfl

theorem snapshot?_record_self (h : m.enabled) :
    (m.record t filters).snapshot? t = some ⟨t, filters⟩ := by
  rw [snapshot?, enabled_record, if_pos h, record, if_pos h]
  exact find?_insert_self ⟨t, filters⟩ m.snapshots

theorem snapshot?_record_of_ne (h : u ≠ t) : (m.record u filters).snapshot? t = m.snapshot? t := by
  rw [snapshot?, snapshot?, enabled_record]
  by_cases hm : m.enabled
  · rw [if_pos hm, if_pos hm, record, if_pos hm]
    exact find?_insert_of_ne h m.snapshots
  · rw [if_neg hm, if_neg hm]

theorem snapshot?_of_disabled (h : m.enabled = false) : m.snapshot? t = none := by
  rw [snapshot?, h]
  rfl

end TableMemory

namespace FilterBar

variable {bar : FilterBar} {t : TableId}

theorem filters_eq {a b : FilterBar} (h : Alike a b) : a.filters = b.filters := by
  rw [filters, filters, h.bindings]

theorem memory_push (bar : FilterBar) (p : String) : (bar.push p).memory = bar.memory := by
  obtain ⟨view, trace, -, h⟩ | ⟨trace, -, h⟩ := bar.push_cases p <;> rw [h]

theorem factory_push (bar : FilterBar) (p : String) : (bar.push p).factory = bar.factory := by
  obtain ⟨view, trace, -, h⟩ | ⟨trace, -, h⟩ := bar.push_cases p <;> rw [h]

theorem sameTable_push (bar : FilterBar) (p : String) :
    (bar.push p).view.SameTable bar.view := by
  cases hs : bar.view.setPredicate p with
  | ok view =>
    have hview : (bar.push p).view = view := by simp only [push, emit, hs]
    rw [hview]
    exact View.sameTable_of_setPredicate hs
  | error e =>
    have hview : (bar.push p).view = bar.view := by simp only [push, emit, hs]
    rw [hview]
    exact .refl bar.view

theorem enabled_remember (bar : FilterBar) :
    bar.remember.memory.enabled = bar.memory.enabled := by
  unfold remember
  split
  · exact TableMemory.enabled_record _ _ _
  · rfl

theorem snapshot?_remember_of_ne (h : bar.view.table ≠ t) :
    bar.remember.memory.snapshot? t = bar.memory.snapshot? t := by
  unfold remember
  split
  · exact TableMemory.snapshot?_record_of_ne h
  · rfl

theorem factory_remember (bar : FilterBar) : bar.remember.factory = bar.factory := by
  unfold remember
  split <;> rfl

/-- A recompute that is not skipped ends with remembering, of a bar that has the same filters and
the same memory. -/
theorem renew_eq_remember (hsuspended : bar.suspended = 0) (hidle : bar.isIdle = false) :
    ∃ b : FilterBar, bar.renew = b.remember ∧ Alike b bar ∧ b.memory = bar.memory := by
  have hskip : ¬ (bar.suspended > 0 || bar.isIdle) = true := by simp [hsuspended, hidle]
  rw [renew, if_neg hskip]
  split
  · exact ⟨bar, rfl, .refl bar, rfl⟩
  · exact ⟨bar.push bar.compose, rfl, bar.alike_push _, bar.memory_push _⟩

theorem enabled_renew (bar : FilterBar) : bar.renew.memory.enabled = bar.memory.enabled := by
  unfold renew
  split
  · rfl
  · split
    · exact bar.enabled_remember
    · rw [enabled_remember, memory_push]

theorem enabled_recompute (bar : FilterBar) :
    bar.recompute.memory.enabled = bar.memory.enabled := by
  unfold recompute
  split
  · rfl
  · exact bar.enabled_renew

theorem sameTable_renew (bar : FilterBar) : bar.renew.view.SameTable bar.view := by
  unfold renew
  split
  · exact .refl bar.view
  · split
    · rw [view_remember]
      exact .refl bar.view
    · rw [view_remember]
      exact bar.sameTable_push _

theorem sameTable_recompute (bar : FilterBar) : bar.recompute.view.SameTable bar.view := by
  unfold recompute
  split
  · exact .refl bar.view
  · exact bar.sameTable_renew

theorem factory_renew (bar : FilterBar) : bar.renew.factory = bar.factory := by
  unfold renew
  split
  · rfl
  · split
    · exact bar.factory_remember
    · rw [factory_remember, factory_push]

theorem factory_recompute (bar : FilterBar) : bar.recompute.factory = bar.factory := by
  unfold recompute
  split
  · rfl
  · exact bar.factory_renew

theorem snapshot?_recompute_of_ne (h : bar.view.table ≠ t) :
    bar.recompute.memory.snapshot? t = bar.memory.snapshot? t := by
  unfold recompute renew
  split
  · rfl
  · split
    · rfl
    · split
      · exact snapshot?_remember_of_ne h
      · rw [snapshot?_remember_of_ne ((bar.alike_push _).table ▸ h), memory_push]

/-- What was accepted is remembered. -/
theorem snapshot?_renew (hsuspended : bar.suspended = 0) (hidle : bar.isIdle = false)
    (hmemory : bar.memory.enabled) (hforce : bar.renew.view.predicate = bar.renew.compose) :
    bar.renew.memory.snapshot? bar.view.table = some ⟨bar.view.table, bar.filters⟩ := by
  obtain ⟨b, hb, ha, hm⟩ := renew_eq_remember hsuspended hidle
  rw [hb, view_remember, b.alike_remember.compose_eq] at hforce
  rw [hb, remember, if_pos hforce, ← ha.table, ← filters_eq ha]
  exact TableMemory.snapshot?_record_self (hm ▸ hmemory)

end FilterBar
end TableFilter
