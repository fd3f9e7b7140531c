import TableFilter.Proofs.View.Accept

/-!
# The rows of a table

A table has rows of cells, and its predicate decides which of them are visible. Handing over a
predicate that the table accepts marks the rows anew and changes nothing else that can be seen of
the table.
-/

namespace TableFilter

open TableFilter.Parser

/-- Rows that agree on the columns that an expression mentions give it the same value. -/
theorem Expr.eval_congr {caseSensitive : Bool} {row row' : Row} {e : Expr}
    (h : ∀ name ∈ e.mentions, row name = row' name) :
    e.eval caseSensitive row = e.eval caseSensitive row' := by
  induction e with
  | literal v => rfl
  | column name => exact h name (List.mem_singleton_self name)
  | convert e kind ih => rw [eval, eval, ih h]
  | not e ih => rw [eval, eval, ih h]
  | ifNull e f ihe ihf =>
    obtain ⟨he, hf⟩ := List.forall_mem_append.mp h
    rw [eval, eval, ihe he, ihf hf]
  | compare op e f ihe ihf =>
    obtain ⟨he, hf⟩ := List.forall_mem_append.mp h
    rw [eval, eval, ihe he, ihf hf]
  | like e f ihe ihf =>
    obtain ⟨he, hf⟩ := List.forall_mem_append.mp h
    rw [eval, eval, ihe he, ihf hf]
  | join c e f ihe ihf =>
    obtain ⟨he, hf⟩ := List.forall_mem_append.mp h
    rw [eval, eval, ihe he, ihf hf]

theorem shows_congr {caseSensitive : Bool} {row row' : Row} {o : Option Expr}
    (h : ∀ e ∈ o, ∀ name ∈ e.mentions, row name = row' name) :
    shows caseSensitive o row = shows caseSensitive o row' := by
  cases o with
  | none => rfl
  | some e =>
    have heval : e.eval caseSensitive row = e.eval caseSensitive row' := Expr.eval_congr (h e rfl)
    simp only [shows, Option.all_some, Expr.matchesRow, Expr.truth, heval]

/-- What was selected is found among the selected columns as it is in the frame. -/
theorem Frame.find?_of_select {f : Frame} {names : List String} {columns : List FrameColumn}
    (h : f.select names = .ok columns) {name : String} (hname : name ∈ names) :
    columns.find? (·.name = name) = f.column? name := by
  induction names generalizing columns with
  | nil => cases hname
  | cons first names ih =>
    rw [select] at h
    split at h
    case h_2 => cases h
    case h_1 c hc =>
      obtain ⟨rest, hrest, rfl⟩ := map_eq_ok.mp h
      have hfirst : c.name = first := by simpa using List.find?_some hc
      by_cases heq : first = name
      · rw [List.find?_cons_of_pos (by simpa using hfirst.trans heq), ← heq, hc]
      · rw [List.find?_cons_of_neg (by simpa using hfirst ▸ heq)]
        exact ih hrest ((List.mem_cons.mp hname).resolve_left (Ne.symm heq))

/-- The columns that are left out of an evaluation do not matter. -/
theorem FrameView.marks_of_evaluate {v : FrameView} {o : Option Expr} {marks : List Bool}
    (h : v.evaluate o = .ok marks) :
    marks = (List.range v.frame.height).map fun i => shows v.caseSensitive o (v.frame.row i) := by
  simp only [evaluate, bind_eq_ok, pure, Except.pure, Except.ok.injEq] at h
  obtain ⟨columns, hcolumns, rfl⟩ := h
  refine List.map_congr_left fun i _ => shows_congr fun e he name hname => ?_
  rw [Option.mem_def.mp he] at hcolumns
  have hfound := Frame.find?_of_select hcolumns (Expr.mem_columns.mpr hname)
  rw [Frame.row, FrameColumn.row, FrameColumn.row, hfound]
  rfl

namespace View

variable {u v w : View} {p : String}

structure SameTable (v w : View) : Prop where
  table : v.table = w.table
  columns : v.columns = w.columns
  columnValues : ∀ name, v.columnValues name = w.columnValues name
  knows : ∀ name, v.Knows name ↔ w.Knows name

namespace SameTable

theorem refl (v : View) : SameTable v v := ⟨rfl, rfl, fun _ => rfl, fun _ => Iff.rfl⟩

theorem symm (h : SameTable v w) : SameTable w v :=
  ⟨h.table.symm, h.columns.symm, fun name => (h.columnValues name).symm,
    fun name => (h.knows name).symm⟩

theorem trans (h : SameTable u v) (h' : SameTable v w) : SameTable u w :=
  ⟨h.table.trans h'.table, h.columns.trans h'.columns,
    fun name => (h.columnValues name).trans (h'.columnValues name),
    fun name => (h.knows name).trans (h'.knows name)⟩

theorem rejects_iff (h : SameTable v w) (p : String) : v.Rejects p ↔ w.Rejects p := by
  simp only [View.rejects_iff, exists_setPredicate, h.knows]

end SameTable

theorem sameTable_of_setPredicate (h : v.setPredicate p = .ok w) : SameTable w v := by
  have ha := accepts_of_setPredicate h
  refine ⟨ha.table, ha.columns, fun name => ?_, ha.knows⟩
  cases v with
  | memory v =>
    obtain ⟨v', hv', rfl⟩ := map_eq_ok.mp h
    obtain ⟨o, -, rfl⟩ := MemoryView.setPredicate_eq_ok.mp hv'
    rfl
  | frame v =>
    obtain ⟨v', hv', rfl⟩ := map_eq_ok.mp h
    obtain ⟨o, -, marks, -, rfl⟩ := FrameView.setPredicate_eq_ok.mp hv'
    rfl

def caseSensitive : View → Bool
  | memory v => v.caseSensitive
  | frame v => v.caseSensitive

def height : View → Nat
  | memory v => v.rows.length
  | frame v => v.frame.height

def row (i : Nat) : View → Row
  | memory v => MemoryView.cell v.columns (v.rows[i]?.getD [])
  | frame v => v.frame.row i

def marks : View → List Bool
  | memory v => v.marks
  | frame v => v.marks

def Shows (v : View) (i : Nat) : Prop := v.marks[i]? = some true

/-- Under a predicate that the table accepts, exactly the rows are visible that satisfy the
expression for which the predicate stands. -/
theorem shows_iff_of_setPredicate {o : Option Expr} (h : v.setPredicate p = .ok w)
    (hp : StandsFor p o) (i : Nat) :
    w.Shows i ↔ i < v.height ∧ shows v.caseSensitive o (v.row i) := by
  cases v with
  | memory v =>
    obtain ⟨v', hv', rfl⟩ := map_eq_ok.mp h
    obtain ⟨o', hcompile, rfl⟩ := MemoryView.setPredicate_eq_ok.mp hv'
    have ho : o' = o := (compile_eq_ok.mp hcompile).1.unique hp
    subst ho
    change (v.rows.map _)[i]? = some true ↔ i < v.rows.length ∧ _
    rw [List.getElem?_map]
    by_cases hi : i < v.rows.length
    · simp [hi, row, caseSensitive]
    · simp [hi]
  | frame v =>
    obtain ⟨v', hv', rfl⟩ := map_eq_ok.mp h
    obtain ⟨o', hcompile, marks, hmarks, rfl⟩ := FrameView.setPredicate_eq_ok.mp hv'
    have ho : o' = o := (compile_eq_ok.mp hcompile).1.unique hp
    subst ho
    change marks[i]? = some true ↔ i < v.frame.height ∧ _
    rw [FrameView.marks_of_evaluate hmarks, List.getElem?_map]
    by_cases hi : i < v.frame.height
    · simp [hi, row, caseSensitive]
    · simp [hi]

/-- A table accepts what can be read over columns that it knows, and shows the rows of which it is
true. -/
theorem exists_shows_of_reads {e : Expr} (h : Reads .disjunction p e)
    (hknown : ∀ name ∈ e.mentions, v.Knows name) : ∃ w, v.setPredicate p = .ok w ∧
      ∀ i, w.Shows i ↔ i < v.height ∧ e.matchesRow v.caseSensitive (v.row i) := by
  obtain ⟨w, hw⟩ := exists_setPredicate_of_reads h hknown
  exact ⟨w, hw, shows_iff_of_setPredicate hw (.of_reads h)⟩

theorem rowCount_eq_zero : v.rowCount = 0 ↔ ∀ i, ¬ v.Shows i := by
  have hcount : v.rowCount = v.marks.count true := by cases v <;> rfl
  rw [hcount, List.count_eq_zero, List.mem_iff_getElem?, not_exists]
  rfl

end View
end TableFilter
