import TableFilter.FilterBar.Operation
import TableFilter.Proofs.View.Accept

/-!
# Handing predicates over

A bar keeps the predicate that it handed over last. Composing does not look at what the table has in
force, so that handing a predicate over leaves the composed one as it is. After a recompute that was
not skipped the table has the composed predicate in force or refuses it, and recomputing once more
changes nothing.
-/

namespace TableFilter

namespace TableMemory

theorem insert_insert (s : TableSnapshot) (snapshots : List TableSnapshot) :
    insert s (insert s snapshots) = insert s snapshots := by
  induction snapshots with
  | nil => simp [insert]
  | cons t rest ih => cases ht : compare s.table.name t.table.name <;> simp [insert, ht, ih]

theorem record_record (m : TableMemory) (table : TableId) (filters : List String) :
    (m.record table filters).record table filters = m.record table filters := by
  cases h : m.enabled with
  | false => simp [record, h]
  | true => simp [record, h, insert_insert]

end TableMemory

namespace FilterBar

/-- The bars compose the same predicate, and for the same reasons. -/
structure Alike (a b : FilterBar) : Prop where
  columns : a.view.columns = b.view.columns
  table : a.view.table = b.view.table
  bindings : a.bindings = b.bindings
  baseFilters : a.baseFilters = b.baseFilters
  baseEnabled : a.baseEnabled = b.baseEnabled
  baseOperator : a.baseOperator = b.baseOperator
  operator : a.operator = b.operator
  customFilter : a.customFilter = b.customFilter
  refreshMode : a.refreshMode = b.refreshMode
  suspended : a.suspended = b.suspended
  queue : a.queue = b.queue

namespace Alike

variable {a b c : FilterBar}

theorem refl (a : FilterBar) : Alike a a := ⟨rfl, rfl, rfl, rfl, rfl, rfl, rfl, rfl, rfl, rfl, rfl⟩

theorem trans (h : Alike a b) (h' : Alike b c) : Alike a c where
  columns := h.columns.trans h'.columns
  table := h.table.trans h'.table
  bindings := h.bindings.trans h'.bindings
  baseFilters := h.baseFilters.trans h'.baseFilters
  baseEnabled := h.baseEnabled.trans h'.baseEnabled
  baseOperator := h.baseOperator.trans h'.baseOperator
  operator := h.operator.trans h'.operator
  customFilter := h.customFilter.trans h'.customFilter
  refreshMode := h.refreshMode.trans h'.refreshMode
  suspended := h.suspended.trans h'.suspended
  queue := h.queue.trans h'.queue

theorem compose_eq (h : Alike a b) : a.compose = b.compose := by
  have hcolumn : a.view.column? = b.view.column? := by
    funext name
    rw [View.column?, View.column?, h.columns]
  simp only [compose, fragments, active, baseFilter, h.table, h.bindings, h.baseFilters,
    h.baseEnabled, h.baseOperator, h.operator, h.customFilter, hcolumn]

theorem isIdle_eq (h : Alike a b) : a.isIdle = b.isIdle := by
  rw [isIdle, isIdle, h.bindings, h.customFilter]

end Alike

/-- The table has the composed predicate in force, or refuses it. -/
def InForce (bar : FilterBar) : Prop :=
  bar.view.predicate = bar.compose ∨ bar.view.Rejects bar.compose

/-- The predicate handed over last is in force, or the table refuses it. -/
def CacheHonest (bar : FilterBar) : Prop :=
  ∀ p, bar.lastApplied = some p → bar.view.predicate = p ∨ bar.view.Rejects p

variable {bar : FilterBar}

theorem CacheHonest.of_eq {b : FilterBar} (h : bar.CacheHonest) (hview : b.view = bar.view)
    (hlast : b.lastApplied = bar.lastApplied) : b.CacheHonest := by
  intro p hp
  rw [hview]
  exact h p (hlast ▸ hp)

theorem CacheHonest.of_none (h : bar.lastApplied = none) : bar.CacheHonest := by
  intro p hp
  rw [h] at hp
  cases hp

/-- The table takes the predicate over or stays as it is. -/
theorem push_cases (bar : FilterBar) (p : String) :
    (∃ view trace, bar.view.Accepts p view ∧
      bar.push p = { bar with view, lastApplied := some p, trace }) ∨
    (∃ trace, bar.view.Rejects p ∧ bar.push p = { bar with lastApplied := some p, trace }) := by
  cases hs : bar.view.setPredicate p with
  | ok view =>
    refine .inl ⟨view, bar.trace ++ [.before p] ++ [.after p], View.accepts_of_setPredicate hs, ?_⟩
    simp only [push, emit, hs]
  | error e =>
    refine .inr ⟨bar.trace ++ [.before p] ++ bar.report e, fun view hview => ?_, ?_⟩
    · rw [hs] at hview
      cases hview
    · simp only [push, emit, hs]
      rfl

theorem lastApplied_push (bar : FilterBar) (p : String) : (bar.push p).lastApplied = some p := by
  obtain ⟨view, trace, -, h⟩ | ⟨trace, -, h⟩ := bar.push_cases p <;> rw [h]

theorem alike_push (bar : FilterBar) (p : String) : Alike (bar.push p) bar := by
  obtain ⟨view, trace, ha, h⟩ | ⟨trace, -, h⟩ := bar.push_cases p
  · rw [h]
    exact ⟨ha.columns, ha.table, rfl, rfl, rfl, rfl, rfl, rfl, rfl, rfl, rfl⟩
  · rw [h]
    exact ⟨rfl, rfl, rfl, rfl, rfl, rfl, rfl, rfl, rfl, rfl, rfl⟩

theorem view_push (bar : FilterBar) (p : String) :
    (bar.push p).view.predicate = p ∨ (bar.push p).view.Rejects p := by
  obtain ⟨view, trace, ha, h⟩ | ⟨trace, hr, h⟩ := bar.push_cases p
  · rw [h]
    exact .inl ha.predicate
  · rw [h]
    exact .inr hr

theorem honest_push (bar : FilterBar) (p : String) : (bar.push p).CacheHonest := by
  intro q hq
  rw [lastApplied_push] at hq
  cases hq
  exact bar.view_push p

theorem view_remember (bar : FilterBar) : bar.remember.view = bar.view := by
  unfold remember
  split <;> rfl

theorem lastApplied_remember (bar : FilterBar) : bar.remember.lastApplied = bar.lastApplied := by
  unfold remember
  split <;> rfl

theorem alike_remember (bar : FilterBar) : Alike bar.remember bar := by
  unfold remember
  split <;> exact ⟨rfl, rfl, rfl, rfl, rfl, rfl, rfl, rfl, rfl, rfl, rfl⟩

theorem remember_eq_record (h : bar.view.predicate = bar.compose) : bar.remember =
    { bar with memory := bar.memory.record bar.view.table bar.filters } :=
  if_pos h

theorem remember_remember (bar : FilterBar) : bar.remember.remember = bar.remember := by
  have hview := bar.view_remember
  have hcompose := bar.alike_remember.compose_eq
  have hfilters : bar.remember.filters = bar.filters := by
    rw [filters, filters, bar.alike_remember.bindings]
  by_cases h : bar.view.predicate = bar.compose
  · have hm := remember_eq_record h
    -- Only the outer one is opened: the inner one also stands on the right.
    conv_lhs => rw [remember, if_pos (by rw [hview, hcompose, h]), hview, hfilters]
    rw [hm, TableMemory.record_record]
  · have hm : bar.remember = bar := if_neg h
    rw [hm, hm]

theorem alike_renew (bar : FilterBar) : Alike bar.renew bar := by
  unfold renew
  split
  · exact .refl bar
  · split
    · exact bar.alike_remember
    · exact (alike_remember _).trans (bar.alike_push _)

theorem alike_recompute (bar : FilterBar) : Alike bar.recompute bar := by
  unfold recompute
  split
  · exact .refl bar
  · exact bar.alike_renew

theorem alike_refresh (bar : FilterBar) : Alike bar.refresh bar :=
  (alike_renew _).trans ⟨rfl, rfl, rfl, rfl, rfl, rfl, rfl, rfl, rfl, rfl, rfl⟩

theorem CacheHonest.remember (h : bar.CacheHonest) : bar.remember.CacheHonest :=
  h.of_eq bar.view_remember bar.lastApplied_remember

theorem CacheHonest.renew (h : bar.CacheHonest) : bar.renew.CacheHonest := by
  unfold FilterBar.renew
  split
  · exact h
  · split
    · exact h.remember
    · exact (bar.honest_push bar.compose).remember

theorem CacheHonest.recompute (h : bar.CacheHonest) : bar.recompute.CacheHonest := by
  unfold FilterBar.recompute
  split
  · exact h
  · exact h.renew

theorem honest_refresh (bar : FilterBar) : bar.refresh.CacheHonest :=
  (CacheHonest.of_none rfl).renew

/-- A recompute that was not skipped has handed the composed predicate over. -/
theorem lastApplied_renew (hsuspended : bar.suspended = 0) (hidle : bar.isIdle = false) :
    bar.renew.lastApplied = some bar.compose := by
  have hskip : ¬ (bar.suspended > 0 || bar.isIdle) = true := by simp [hsuspended, hidle]
  rw [renew, if_neg hskip]
  split
  · rename_i hlast
    rw [lastApplied_remember, hlast]
  · rw [lastApplied_remember, lastApplied_push]

theorem inForce_renew (h : bar.CacheHonest) (hsuspended : bar.suspended = 0)
    (hidle : bar.isIdle = false) : bar.renew.InForce := by
  rw [InForce, bar.alike_renew.compose_eq]
  exact h.renew _ (lastApplied_renew hsuspended hidle)

theorem remember_renew (hsuspended : bar.suspended = 0) (hidle : bar.isIdle = false) :
    bar.renew.remember = bar.renew := by
  have hskip : ¬ (bar.suspended > 0 || bar.isIdle) = true := by simp [hsuspended, hidle]
  rw [renew, if_neg hskip]
  split <;> exact remember_remember _

/-- Another recompute changes nothing. -/
theorem recompute_renew (hsuspended : bar.suspended = 0) (hidle : bar.isIdle = false) :
    bar.renew.recompute = bar.renew := by
  have ha := bar.alike_renew
  have hlast : bar.renew.lastApplied = some bar.renew.compose := by
    rw [lastApplied_renew hsuspended hidle, ha.compose_eq]
  have hskip : ¬ (bar.renew.suspended > 0 || bar.renew.isIdle) = true := by
    simp [ha.suspended, ha.isIdle_eq, hsuspended, hidle]
  have hagain : bar.renew.renew = bar.renew := by
    conv_lhs => rw [renew, if_neg hskip, if_pos hlast]
    exact remember_renew hsuspended hidle
  rw [recompute, hagain, ite_self]

end FilterBar
end TableFilter
