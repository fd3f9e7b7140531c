import TableFilter.Proofs.FilterBar.Stillness
import TableFilter.Proofs.View.Truthful

/-!
# Tables that only a bar changes

As long as a bar keeps its table and nobody else hands a predicate to it, the table stays the same
but for its predicate, which is the last one that the bar has told to be accepted, and shows the
rows that satisfy it. What holds of a bar in this way holds after a whole list of operations.
-/

namespace TableFilter

open TableFilter.Parser

namespace View

variable {v : View}

/-- A truthful table counts the rows that satisfy its predicate. -/
theorem IsTruthful.rowCount_eq (h : v.IsTruthful) :
    v.rowCount = (v.satisfied v.predicate).count true := by
  rw [← h]
  cases v <;> rfl

end View

namespace FilterBar

variable {bar a b : FilterBar} {operations : List Operation}

/-- A truthful table stays so under every operation, and so does a truthful one that an operation
brings. -/
theorem isTruthful_perform {op : Operation} (h : a.view.IsTruthful)
    (hop : ∀ view, op = .setView view → view.IsTruthful) (hb : a.perform op = .ok b) :
    b.view.IsTruthful := by
  refine view_perform (fun _ _ _ hp _ => View.isTruthful_of_setPredicate hp) hb ?_
  cases op with
  | setView view => exact hop view rfl
  | _ => exact h

/-- The bar has a table that nobody else has changed since the bar was made: it shows what satisfies
its predicate, which is the last one that the bar has told to be accepted. -/
structure Serves (view : View) (bar : FilterBar) : Prop where
  table : bar.view.SameTable view
  told : TellsTable view bar.events bar.view
  truthful : bar.view.IsTruthful
  satisfied : ∀ p, bar.view.satisfied p = view.satisfied p

namespace Serves

variable {view : View}

theorem perform {op : Operation} (h : a.Serves view) (hop : ∀ view, op ≠ .setView view)
    (hb : a.perform op = .ok b) : b.Serves view := by
  obtain ⟨announced, handed, ht⟩ := tells_of_perform hb
  rw [Operation.target_of_ne hop] at ht
  have hpush (v w : View) (p : String) (hp : v.setPredicate p = .ok w)
      (hv : ∀ q, v.satisfied q = view.satisfied q) (q : String) :
      w.satisfied q = view.satisfied q :=
    (View.satisfied_of_setPredicate hp q).trans (hv q)
  exact {
    table := ht.handovers.sameTable.trans h.table
    told := ht.events ▸ h.told.trans ht.tellsTable
    truthful := isTruthful_perform h.truthful (fun view hview => absurd hview (hop view)) hb
    satisfied := ht.handovers.preserves hpush h.satisfied }

theorem rebuild (h : a.Serves view) : a.rebuild.Serves view := by
  have hne : ∀ view, Operation.rebuild ≠ .setView view := nofun
  exact h.perform hne rfl

theorem refresh (h : a.Serves view) : a.refresh.Serves view := by
  have hne : ∀ view, Operation.refresh ≠ .setView view := nofun
  exact h.perform hne rfl

theorem memorize (h : a.Serves view) (memory : TableMemory) : { a with memory }.Serves view :=
  ⟨h.table, h.told, h.truthful, h.satisfied⟩

theorem ofSettings (h : view.IsTruthful) (settings : FilterSettings)
    (overrides : List (String × FilterKind)) :
    (FilterBar.ofSettings view settings overrides).Serves view :=
  rebuild ⟨.refl view, ⟨rfl, by simp [events, acceptedIn]⟩, h, fun _ => rfl⟩

end Serves

/-- What holds of a bar and the operations that it has yet to perform holds in the end. -/
theorem foldlM_perform_induction {P : List Operation → FilterBar → Prop}
    (hP : ∀ op rest b c, b.perform op = .ok c → P (op :: rest) b → P rest c)
    (h : operations.foldlM perform a = .ok b) (ha : P operations a) : P [] b := by
  induction operations generalizing a with
  | nil =>
    cases h
    exact ha
  | cons op operations ih =>
    rw [List.foldlM_cons] at h
    obtain ⟨c, hc, h⟩ := bind_eq_ok.mp h
    exact ih h (hP op operations a c hc ha)

theorem suspended_foldlM (h : operations.foldlM perform a = .ok b) :
    b.suspended = operations.foldl Operation.depth a.suspended := by
  refine foldlM_perform_induction (P := fun rest c =>
    rest.foldl Operation.depth c.suspended = operations.foldl Operation.depth a.suspended)
    (fun op rest b c hc hdepth => ?_) h rfl
  rw [suspended_perform hc]
  exact hdepth

theorem Serves.foldlM {view : View} (h : a.Serves view)
    (hops : ∀ op ∈ operations, ∀ view, op ≠ .setView view)
    (hb : operations.foldlM FilterBar.perform a = .ok b) : b.Serves view := by
  have hend := foldlM_perform_induction (P := fun rest c =>
    c.Serves view ∧ ∀ op ∈ rest, ∀ view, op ≠ .setView view)
    (fun op rest b c hc ⟨hserves, hrest⟩ => ?_) hb ⟨h, hops⟩
  · exact hend.1
  · obtain ⟨hfirst, hrest⟩ := List.forall_mem_cons.mp hrest
    exact ⟨hserves.perform hfirst hc, hrest⟩

theorem HasMadeFilters.foldlM (h : a.HasMadeFilters)
    (hb : operations.foldlM FilterBar.perform a = .ok b) : b.HasMadeFilters :=
  foldlM_perform_induction (P := fun _ c => c.HasMadeFilters)
    (fun _ _ _ _ hc hmade => hmade.perform hc) hb h

/-- A refresh that is not held back leaves the table with the composed predicate, unless the table
refuses it. -/
theorem view_refresh_cases (hsuspended : bar.suspended = 0) (hidle : bar.isIdle = false) :
    bar.view.setPredicate bar.compose = .ok bar.refresh.view ∨
      bar.view.Rejects bar.compose ∧ bar.refresh.view = bar.view := by
  have hact : bar.refresh = (bar.push bar.compose).remember :=
    act_eq_push (a := .force) ⟨hsuspended, hidle, .inl rfl⟩
  rw [hact, view_remember]
  exact bar.view_push_cases bar.compose

end FilterBar
end TableFilter
