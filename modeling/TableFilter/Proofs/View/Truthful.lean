import TableFilter.Proofs.View.Marks

/-!
# Tables that show what satisfies their predicate

A table is truthful if its marks are those of its predicate, read by itself, under its present case
policy. It is made so by every predicate that it accepts, and stays so when its columns are
described anew under the same names. A table in memory is always truthful. A table over a data
frame is truthful as long as its case policy is the one under which its predicate was accepted.
-/

namespace TableFilter

namespace View

variable {v w : View} {p : String} {columns : List Column}

def satisfied (v : View) (p : String) : List Bool :=
  (List.range v.height).map fun i => Predicate.selects v.caseSensitive (v.row i) p

def IsTruthful (v : View) : Prop := v.marks = v.satisfied v.predicate

/-- The tables judge rows in the same way. -/
theorem satisfied_congr (hheight : w.height = v.height) (hcase : w.caseSensitive = v.caseSensitive)
    (hrow : ∀ i, w.row i = v.row i) : w.satisfied p = v.satisfied p := by
  simp only [satisfied, hheight, hcase, hrow]

end View

theorem MemoryView.satisfied_eq (v : MemoryView) (p : String) :
    (View.memory v).satisfied p =
      v.rows.map fun cells => Predicate.selects v.caseSensitive (cell v.columns cells) p := by
  apply List.ext_getElem
  · simp [View.satisfied, View.height]
  · intro i hi hi'
    have hrow : i < v.rows.length := by simpa using hi'
    simp [View.satisfied, View.row, View.caseSensitive, hrow]

namespace View

variable {v w : View} {p : String} {columns : List Column}

/-- An accepted predicate marks the rows that satisfy it. -/
theorem marks_of_setPredicate (h : v.setPredicate p = .ok w) : w.marks = v.satisfied p := by
  cases v with
  | memory v =>
    obtain ⟨w, hw, rfl⟩ := map_eq_ok.mp h
    obtain ⟨o, hcompile, rfl⟩ := MemoryView.setPredicate_eq_ok.mp hw
    rw [v.satisfied_eq]
    have hp := (compile_eq_ok.mp hcompile).1
    exact List.map_congr_left fun cells _ => (Predicate.selects_of_standsFor hp _ _).symm
  | frame v =>
    obtain ⟨w, hw, rfl⟩ := map_eq_ok.mp h
    have hmarks := (FrameView.marks_of_setPredicate hw).2
    obtain ⟨o, -, marks, -, rfl⟩ := FrameView.setPredicate_eq_ok.mp hw
    exact hmarks

theorem satisfied_of_setPredicate (h : v.setPredicate p = .ok w) (q : String) :
    w.satisfied q = v.satisfied q := by
  cases v with
  | memory v =>
    obtain ⟨w, hw, rfl⟩ := map_eq_ok.mp h
    obtain ⟨o, -, rfl⟩ := MemoryView.setPredicate_eq_ok.mp hw
    rfl
  | frame v =>
    obtain ⟨w, hw, rfl⟩ := map_eq_ok.mp h
    obtain ⟨o, -, marks, -, rfl⟩ := FrameView.setPredicate_eq_ok.mp hw
    rfl

theorem isTruthful_of_setPredicate (h : v.setPredicate p = .ok w) : w.IsTruthful := by
  rw [IsTruthful, marks_of_setPredicate h, satisfied_of_setPredicate h,
    (accepts_of_setPredicate h).predicate]

theorem marks_setColumns (v : View) (columns : List Column) :
    (v.setColumns columns).marks = v.marks := by
  cases v <;> rfl

/-- Rows are judged as before if the columns keep their names. -/
theorem satisfied_setColumns (hnames : columns.map (·.name) = v.columns.map (·.name)) (p : String) :
    (v.setColumns columns).satisfied p = v.satisfied p := by
  cases v with
  | memory v =>
    refine satisfied_congr rfl rfl fun i => funext fun name => ?_
    change MemoryView.cell columns _ name = MemoryView.cell v.columns _ name
    rw [MemoryView.cell, MemoryView.cell, Column.indexOf?_congr hnames]
    rfl
  | frame v => rfl

theorem IsTruthful.setColumns (h : v.IsTruthful)
    (hnames : columns.map (·.name) = v.columns.map (·.name)) :
    (v.setColumns columns).IsTruthful := by
  have hpredicate : (v.setColumns columns).predicate = v.predicate := by cases v <;> rfl
  rw [IsTruthful, marks_setColumns, satisfied_setColumns hnames, hpredicate]
  exact h

end View

theorem MemoryView.isTruthful_of_reach {v : MemoryView} {g : Given} (h : Reach v g) :
    (View.memory v).IsTruthful := by
  have hv := UpToDate.of_reach h
  rw [View.IsTruthful, v.satisfied_eq, hv.rows, hv.columns, hv.caseSensitive]
  exact hv.marks_eq.trans (by rw [← hv.predicate]; rfl)

theorem FrameView.isTruthful_of_reach {table : TableId} {frame : Frame} {v : FrameView}
    (h : Reach table frame v v.caseSensitive) : (View.frame v).IsTruthful :=
  (marks_of_reach h).2

end TableFilter
