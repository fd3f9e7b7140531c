import TableFilter.Proofs.View.Marks
import TableFilter.Scan

/-!
# Copies of data frames

The cells of a data frame can be copied into a table in memory with the same columns. The table over
the frame evaluates a predicate on the columns that it names and looks cells up by column, the copy
evaluates it on whole rows and looks cells up by position. Nobody can tell the two apart by handing
predicates to them: they accept and refuse the same ones, with the same errors, show the same rows
and have the same values.
-/

namespace TableFilter

theorem attempt_map {σ τ ε : Type} (f : σ → τ) (s : σ) (r : Except ε σ) :
    attempt (f s) (r.map f) = (f (attempt s r).1, (attempt s r).2) := by
  cases r <;> rfl

theorem compile_eq_error {p : String} {columns : List Column} {e : FilterError}
    (h : compile p columns = .error e) : ∃ cause, e = .malformed p cause := by
  unfold compile at h
  split at h
  · cases h
  · split at h
    · exact ⟨_, (Except.error.inj h).symm⟩
    · split at h
      · exact ⟨_, (Except.error.inj h).symm⟩
      · cases h

/-- Looking up the place of a member and reading another list there is finding the member. -/
theorem bind_findIdx?_map {α β : Type} (p : α → Bool) (f : α → β) (as : List α) :
    ((as.findIdx? p).bind ((as.map f)[·]?)) = (as.find? p).map f := by
  induction as with
  | nil => rfl
  | cons a as ih =>
    rw [List.findIdx?_cons]
    by_cases ha : p a
    · rw [if_pos ha, List.find?_cons_of_pos ha]
      rfl
    · rw [if_neg ha, List.find?_cons_of_neg ha, ← ih]
      cases as.findIdx? p <;> rfl

namespace Frame

variable {f : Frame} {name : String}

def cells (f : Frame) (i : Nat) : List Value :=
  f.columns.map fun c => (c.cells[i]?).elim .null Datum.value

def rows (f : Frame) : List (List Value) := (List.range f.height).map f.cells

theorem map_name_describe (f : Frame) : f.describe.map (·.name) = f.columns.map (·.name) := by
  rw [describe, List.map_map]
  change f.columns.zipIdx.map ((fun c : FrameColumn => c.name) ∘ Prod.fst) = _
  rw [← List.map_map, List.zipIdx_map_fst]

theorem indexOf?_describe (f : Frame) (name : String) :
    Column.indexOf? f.describe name = f.columns.findIdx? fun c => c.name = name := by
  rw [Column.indexOf?_eq_findIdx?, map_name_describe, List.findIdx?_map]
  rfl

/-- The cells of a row are found by position as they are found by column. -/
theorem cell_describe (f : Frame) (i : Nat) :
    MemoryView.cell f.describe (f.cells i) = f.row i := by
  funext name
  rw [MemoryView.cell, indexOf?_describe, cells, bind_findIdx?_map, row, FrameColumn.row]
  cases f.columns.find? fun c => c.name = name <;> rfl

theorem isSome_column?_of_described (h : ∃ c ∈ f.describe, c.name = name) :
    (f.column? name).isSome := by
  have hname : name ∈ f.columns.map (·.name) := by
    rw [← map_name_describe]
    exact List.mem_map.mpr h
  obtain ⟨c, hc, rfl⟩ := List.mem_map.mp hname
  rw [column?_of_mem hc]
  rfl

end Frame

/-- The second table is a copy of the first one, and both have the same predicate and show the same
rows. -/
structure Mirrors (v : FrameView) (w : MemoryView) : Prop where
  described : v.columns = v.frame.describe
  table : w.table = v.table
  columns : w.columns = v.columns
  rows : w.rows = v.frame.rows
  predicate : w.predicate = v.predicate
  caseSensitive : w.caseSensitive = v.caseSensitive
  marks : w.marks = v.marks

namespace Mirrors

variable {v : FrameView} {w : MemoryView}

theorem columnValues (h : Mirrors v w) (name : String) :
    v.columnValues name = w.columnValues name := by
  rw [FrameView.columnValues, MemoryView.columnValues, h.columns, h.described, h.rows]
  cases hposition : Column.indexOf? v.frame.describe name with
  | none =>
    have hnone := hposition
    rw [Frame.indexOf?_describe, List.findIdx?_eq_none_iff] at hnone
    have hcolumn : v.frame.column? name = none :=
      List.find?_eq_none.mpr fun c hc => by simp [hnone c hc]
    rw [hcolumn]
  | some position =>
    have hknown : ∃ c ∈ v.frame.describe, c.name = name := by
      by_contra hunknown
      rw [← isNone_indexOf?_iff, hposition] at hunknown
      cases hunknown
    obtain ⟨c, hc⟩ := Option.isSome_iff_exists.mp (Frame.isSome_column?_of_described hknown)
    have hname : c.name = name := by simpa using List.find?_some hc
    have hcells := Frame.map_value_of_mem (List.mem_of_find?_eq_some hc)
    simp only [hc, hcells, hname, Frame.rows, List.map_map]
    refine congrArg Except.ok (List.map_congr_left fun i _ => ?_)
    rw [← Frame.cell_describe, MemoryView.cell, hposition]
    rfl

/-- The copy marks the rows of a predicate that the table over the frame marks. -/
theorem marks_of_evaluate (h : Mirrors v w) {o : Option Expr} {marks : List Bool}
    (hmarks : v.evaluate o = .ok marks) :
    (w.rows.map fun cells => shows w.caseSensitive o (MemoryView.cell w.columns cells)) =
      marks := by
  rw [FrameView.marks_of_evaluate hmarks, h.rows, h.columns, h.described, h.caseSensitive,
    Frame.rows, List.map_map]
  refine List.map_congr_left fun i _ => ?_
  rw [← Frame.cell_describe]
  rfl

/-- Both tables accept a predicate or refuse it for the same reason, and stay alike. -/
theorem setPredicate (h : Mirrors v w) (p : String) :
    (∃ v' w', v.setPredicate p = .ok v' ∧ w.setPredicate p = .ok w' ∧ Mirrors v' w') ∨
    ∃ cause, v.setPredicate p = .error (.malformed p cause) ∧
      w.setPredicate p = .error (.malformed p cause) := by
  have hsame : compile p w.columns = compile p v.columns := by rw [h.columns]
  cases hcompile : compile p v.columns with
  | error e =>
    obtain ⟨cause, rfl⟩ := compile_eq_error hcompile
    refine .inr ⟨cause, ?_, ?_⟩
    · rw [FrameView.setPredicate, hcompile]
      rfl
    · rw [MemoryView.setPredicate, hsame, hcompile]
      rfl
  | ok o =>
    -- What the descriptions know is in the frame, so that evaluation does not fail.
    have hknown : ∀ e ∈ o, ∀ name ∈ e.mentions, (v.frame.column? name).isSome := by
      intro e he name hname
      apply Frame.isSome_column?_of_described
      rw [← h.described]
      exact (compile_eq_ok.mp hcompile).2 e he name hname
    obtain ⟨marks, hmarks⟩ := FrameView.exists_evaluate.mpr hknown
    refine .inl ⟨_, _, FrameView.setPredicate_eq_ok.mpr ⟨o, hcompile, marks, hmarks, rfl⟩,
      MemoryView.setPredicate_eq_ok.mpr ⟨o, hsame.trans hcompile, rfl⟩, ?_⟩
    exact { h with predicate := rfl, marks := h.marks_of_evaluate hmarks }

end Mirrors

namespace View

def offerAll (v : View) : List String → View × List (Option FilterError)
  | [] => (v, [])
  | p :: ps =>
    let (w, answer) := attempt v (v.setPredicate p)
    let (last, answers) := w.offerAll ps
    (last, answer :: answers)

def ofFrame (table : TableId) (f : Frame) (caseSensitive : Bool) : View :=
  .frame ((FrameView.ofFrame table f).withCase caseSensitive)

def copyOfFrame (table : TableId) (f : Frame) (caseSensitive : Bool) : View :=
  .memory ((MemoryView.withRows { table, columns := f.describe } f.rows).withCase caseSensitive)

def Answers (p : String) (answer : Option FilterError) : Prop :=
  ∀ e ∈ answer, ∃ cause, e = .malformed p cause

end View

namespace Mirrors

variable {v : FrameView} {w : MemoryView}

theorem attempt (h : Mirrors v w) (p : String) : ∃ v' w' answer,
    TableFilter.attempt (View.frame v) ((View.frame v).setPredicate p) = (.frame v', answer) ∧
    TableFilter.attempt (View.memory w) ((View.memory w).setPredicate p) = (.memory w', answer) ∧
    Mirrors v' w' ∧ View.Answers p answer := by
  simp only [View.setPredicate, attempt_map]
  rcases h.setPredicate p with ⟨v', w', hv, hw, hmirrors⟩ | ⟨cause, hv, hw⟩
  · rw [hv, hw]
    exact ⟨v', w', none, rfl, rfl, hmirrors, fun e he => absurd he (Option.not_mem_none e)⟩
  · rw [hv, hw]
    exact ⟨v, w, some (.malformed p cause), rfl, rfl, h,
      fun e he => ⟨cause, (Option.some.inj he).symm⟩⟩

theorem offerAll (h : Mirrors v w) (ps : List String) : ∃ v' w' answers,
    (View.frame v).offerAll ps = (.frame v', answers) ∧
    (View.memory w).offerAll ps = (.memory w', answers) ∧
    Mirrors v' w' ∧ List.Forall₂ View.Answers ps answers := by
  induction ps generalizing v w with
  | nil => exact ⟨v, w, [], rfl, rfl, h, .nil⟩
  | cons p ps ih =>
    obtain ⟨v₁, w₁, answer, hv₁, hw₁, h₁, hanswer⟩ := h.attempt p
    obtain ⟨v', w', answers, hv', hw', h', hanswers⟩ := ih h₁
    refine ⟨v', w', answer :: answers, ?_, ?_, h', .cons hanswer hanswers⟩
    · simp only [View.offerAll, hv₁, hv']
    · simp only [View.offerAll, hw₁, hw']

theorem of_frame (table : TableId) (f : Frame) (caseSensitive : Bool) :
    Mirrors ((FrameView.ofFrame table f).withCase caseSensitive)
      ((MemoryView.withRows { table, columns := f.describe } f.rows).withCase caseSensitive) where
  described := rfl
  table := rfl
  columns := rfl
  rows := rfl
  predicate := rfl
  caseSensitive := rfl
  marks := by
    apply List.ext_getElem
    · simp [MemoryView.withCase, MemoryView.refilter, MemoryView.withRows, FrameView.withCase,
        FrameView.ofFrame, Frame.rows]
    · intro i _ _
      simp [MemoryView.withCase, MemoryView.refilter, MemoryView.withRows, FrameView.withCase,
        FrameView.ofFrame, shows]

end Mirrors

namespace View

/-- A table over a data frame and a copy of it in memory answer every sequence of predicates alike,
and then have the same predicate, visible rows and values. -/
theorem copy_behaves_alike (table : TableId) (f : Frame) (caseSensitive : Bool)
    (ps : List String) : ∃ v w answers,
    (ofFrame table f caseSensitive).offerAll ps = (v, answers) ∧
    (copyOfFrame table f caseSensitive).offerAll ps = (w, answers) ∧
    List.Forall₂ Answers ps answers ∧
    v.table = w.table ∧ v.columns = w.columns ∧ v.predicate = w.predicate ∧
    (∀ i, v.Shows i ↔ w.Shows i) ∧ v.rowCount = w.rowCount ∧
    (∀ name, v.columnValues name = w.columnValues name) ∧
    ∀ cap name, v.distinctValues cap name = w.distinctValues cap name := by
  obtain ⟨v, w, answers, hv, hw, h, hanswers⟩ :=
    (Mirrors.of_frame table f caseSensitive).offerAll ps
  refine ⟨.frame v, .memory w, answers, hv, hw, hanswers, h.table.symm, h.columns.symm,
    h.predicate.symm, fun i => ?_, ?_, h.columnValues, fun cap name => ?_⟩
  · rw [Shows, Shows, marks, marks, h.marks]
  · rw [rowCount, rowCount, FrameView.rowCount, MemoryView.rowCount, h.marks]
  · rw [distinctValues, distinctValues]
    exact congrArg (Except.map _) (h.columnValues name)

end View
end TableFilter
