import TableFilter.Proofs.View.Marks

/-!
# Evaluation looks up the named columns only

An expression is evaluated on the columns that it names: other cells do not matter to it, and a
table evaluates no predicate that names a column the table lacks. To see that nothing else is
looked up on the way, an evaluation is compared with one that stops at the first name without a
cell.
-/

namespace TableFilter

open TableFilter.Parser

namespace Expr

variable {caseSensitive : Bool} {row row' : Row} {e : Expr}

/-- The value of an expression where some names have cells. There is no value if another name is
looked up, which a fallback or a pattern is only where the evaluation comes to it. -/
def evalFound? (caseSensitive : Bool) (found : String → Option Value) : Expr → Option Value
  | literal v => some v
  | column name => found name
  | convert e kind => do
    let v ← e.evalFound? caseSensitive found
    return (v.convert kind).getD .null
  | ifNull e fallback => do
    match ← e.evalFound? caseSensitive found with
    | .null => fallback.evalFound? caseSensitive found
    | v => return v
  | compare op left right => do
    let l ← left.evalFound? caseSensitive found
    let r ← right.evalFound? caseSensitive found
    return .ofTruth ((l.order caseSensitive r).map op.holds)
  | like e pattern => do
    match (← e.evalFound? caseSensitive found).shown? with
    | none => return .null
    | some text =>
      let p ← pattern.evalFound? caseSensitive found
      return .ofTruth (p.shown?.bind fun pattern => Like.accepts? caseSensitive pattern text)
  | join c left right => do
    let l ← left.evalFound? caseSensitive found
    let r ← right.evalFound? caseSensitive found
    return .ofTruth (c.kleene l.truth r.truth)
  | not e => do
    let v ← e.evalFound? caseSensitive found
    return .ofTruth (v.truth.map (!·))

/-- An evaluation that finds what the expression mentions never stops. -/
theorem evalFound?_eq_eval {found : String → Option Value}
    (h : ∀ name ∈ e.mentions, found name = some (row name)) :
    e.evalFound? caseSensitive found = some (e.eval caseSensitive row) := by
  induction e with
  | literal v => rfl
  | column name => exact h name (List.mem_singleton_self name)
  | convert e kind ih =>
    rw [evalFound?, ih h]
    rfl
  | not e ih =>
    rw [evalFound?, ih h]
    rfl
  | ifNull e f ihe ihf =>
    obtain ⟨he, hf⟩ := List.forall_mem_append.mp h
    rw [evalFound?, eval, ihe he, ihf hf]
    cases e.eval caseSensitive row <;> rfl
  | compare op e f ihe ihf =>
    obtain ⟨he, hf⟩ := List.forall_mem_append.mp h
    rw [evalFound?, ihe he, ihf hf]
    rfl
  | like e f ihe ihf =>
    obtain ⟨he, hf⟩ := List.forall_mem_append.mp h
    rw [evalFound?, eval, ihe he, ihf hf]
    cases hs : (e.eval caseSensitive row).shown? with
    | none => simp [hs, Value.ofTruth]
    | some text => cases hp : (f.eval caseSensitive row).shown? <;> simp [hs, hp]
  | join c e f ihe ihf =>
    obtain ⟨he, hf⟩ := List.forall_mem_append.mp h
    rw [evalFound?, ihe he, ihf hf]
    rfl

theorem agrees_of_columns (h : ∀ name ∈ e.columns, row name = row' name) :
    e.truth caseSensitive row = e.truth caseSensitive row' ∧
      e.eval caseSensitive row = e.eval caseSensitive row' := by
  have heval : e.eval caseSensitive row = e.eval caseSensitive row' :=
    eval_congr fun name hname => h name (mem_columns.mpr hname)
  exact ⟨by rw [truth, truth, heval], heval⟩

end Expr

/-- A predicate compiles if and only if it can be read and all names in it are known. -/
theorem compile_eq_ok_iff {s : String} {columns : List Column} (hb : ¬ Text.isBlankText s)
    (o : Option Expr) : compile s columns = .ok o ↔ ∃ e, o = some e ∧ Expr.ofText s = .ok e ∧
      ∀ name ∈ e.columns, ∃ c ∈ columns, c.name = name := by
  simp only [Expr.mem_columns]
  cases hs : Expr.ofText s with
  | ok e => simp [compile_of_ofText hb hs]
  | error cause => simp [compile, hb, hs]

namespace MemoryView

variable {columns : List Column} {name : String}

/-- The cell of a row in a column that the table has. What the row is too short for is null. -/
def cell? (columns : List Column) (cells : List Value) (name : String) : Option Value :=
  (Column.indexOf? columns name).map fun i => cells[i]?.getD .null

theorem cell?_eq_cell (h : ∃ c ∈ columns, c.name = name) (cells : List Value) :
    cell? columns cells name = some (cell columns cells name) := by
  rw [cell?, cell]
  cases hi : Column.indexOf? columns name with
  | none => exact absurd h (isNone_indexOf?_iff.mp (by rw [hi]; rfl))
  | some i => rfl

theorem evalFound?_cell? {v w : MemoryView} {p : String} {e : Expr} (h : v.setPredicate p = .ok w)
    (he : w.expr = some e) (caseSensitive : Bool) (cells : List Value) :
    e.evalFound? caseSensitive (cell? w.columns cells) =
      some (e.eval caseSensitive (cell w.columns cells)) := by
  obtain ⟨o, hcompile, rfl⟩ := setPredicate_eq_ok.mp h
  exact Expr.evalFound?_eq_eval fun name hname =>
    cell?_eq_cell ((compile_eq_ok.mp hcompile).2 e he name hname) cells

end MemoryView

def FrameColumn.cell? (columns : List FrameColumn) (i : Nat) (name : String) : Option Value :=
  ((columns.find? (·.name = name)).bind (·.cells[i]?)).map Datum.value

namespace FrameView

variable {v w : FrameView} {p : String} {e : Expr}

theorem cell?_eq_row {f : Frame} {columns : List FrameColumn} {names : List String} {i : Nat}
    {name : String} (h : f.select names = .ok columns) (hname : name ∈ names) (hi : i < f.height) :
    FrameColumn.cell? columns i name = some (f.row i name) := by
  obtain ⟨c, hc⟩ := Option.isSome_iff_exists.mp (Frame.exists_select.mp ⟨columns, h⟩ name hname)
  have hlength := f.length_cells c (List.mem_of_find?_eq_some hc)
  have hfound : f.columns.find? (·.name = name) = some c := hc
  have hcell : c.cells[i]? = some c.cells[i] := List.getElem?_eq_getElem (hlength ▸ hi)
  rw [FrameColumn.cell?, Frame.find?_of_select h hname, Frame.row, FrameColumn.row, hc, hfound,
    Option.bind_some, hcell]
  rfl

theorem evalFound?_cell? (h : v.setPredicate p = .ok w) (he : w.expr = some e) :
    ∃ columns, w.frame.select e.columns = .ok columns ∧ ∀ caseSensitive, ∀ i < w.frame.height,
      e.evalFound? caseSensitive (FrameColumn.cell? columns i) =
          some (e.eval caseSensitive (FrameColumn.row columns i)) ∧
        e.eval caseSensitive (FrameColumn.row columns i) =
          e.eval caseSensitive (w.frame.row i) := by
  obtain ⟨o, -, marks, hmarks, rfl⟩ := setPredicate_eq_ok.mp h
  have ho : o = some e := he
  subst ho
  simp only [evaluate, bind_eq_ok, pure, Except.pure, Except.ok.injEq] at hmarks
  obtain ⟨columns, hcolumns, -⟩ := hmarks
  refine ⟨columns, hcolumns, fun caseSensitive i hi => ?_⟩
  have hcell : ∀ name ∈ e.columns, FrameColumn.cell? columns i name = some (v.frame.row i name) :=
    fun name hname => cell?_eq_row hcolumns hname hi
  have hrow : ∀ name ∈ e.columns, FrameColumn.row columns i name = v.frame.row i name := by
    intro name hname
    rw [Frame.row, FrameColumn.row, Frame.find?_of_select hcolumns hname]
    rfl
  have heval : e.eval caseSensitive (FrameColumn.row columns i) =
      e.eval caseSensitive (v.frame.row i) := (Expr.agrees_of_columns hrow).2
  refine ⟨?_, heval⟩
  rw [heval]
  exact Expr.evalFound?_eq_eval fun name hname => hcell name (Expr.mem_columns.mpr hname)

end FrameView

/-- The truth and the value of an expression depend on the cells of the columns that it names and
on nothing else. A predicate that is not blank compiles if and only if it can be read and names
known columns only. So a table that accepts a predicate has every cell that is looked up when the
predicate is evaluated, and a table over a data frame, which picks out the named columns, evaluates
it as on all columns of the frame. -/
theorem evaluation_reads_named_columns :
    (∀ (e : Expr) caseSensitive (row row' : Row), (∀ name ∈ e.columns, row name = row' name) →
      e.truth caseSensitive row = e.truth caseSensitive row' ∧
        e.eval caseSensitive row = e.eval caseSensitive row') ∧
    (∀ s columns o, ¬ Text.isBlankText s → (compile s columns = .ok o ↔
      ∃ e, o = some e ∧ Expr.ofText s = .ok e ∧
        ∀ name ∈ e.columns, ∃ c ∈ columns, c.name = name)) ∧
    (∀ (v w : MemoryView) p (e : Expr), v.setPredicate p = .ok w → w.expr = some e →
      ∀ caseSensitive cells, e.evalFound? caseSensitive (MemoryView.cell? w.columns cells) =
        some (e.eval caseSensitive (MemoryView.cell w.columns cells))) ∧
    ∀ (v w : FrameView) p (e : Expr), v.setPredicate p = .ok w → w.expr = some e →
      ∃ columns, w.frame.select e.columns = .ok columns ∧
        ∀ caseSensitive, ∀ i < w.frame.height,
          e.evalFound? caseSensitive (FrameColumn.cell? columns i) =
              some (e.eval caseSensitive (FrameColumn.row columns i)) ∧
            e.eval caseSensitive (FrameColumn.row columns i) =
              e.eval caseSensitive (w.frame.row i) :=
  ⟨fun _ _ _ _ => Expr.agrees_of_columns, fun _ _ o hb => compile_eq_ok_iff hb o,
    fun _ _ _ _ => MemoryView.evalFound?_cell?, fun _ _ _ _ => FrameView.evalFound?_cell?⟩

/-- Rows that differ in the name alone, a predicate that compiles where the one column that it
names is known, a table of rows without a name, and a frame that has a row. -/
theorem evaluation_reads_named_columns_adults :
    (MemoryView.isAdult.truth false fun name => if name = "name" then .text "ann" else .bool true) =
        MemoryView.isAdult.truth false (fun _ => .bool true) ∧
      compile "[adult] = true" [.ofName "adult" .boolean] = .ok (some MemoryView.isAdult) ∧
      (∃ w, MemoryView.setPredicate
          { table := ⟨"people"⟩, columns := [.ofName "adult" .boolean] } "[adult] = true" = .ok w ∧
        MemoryView.isAdult.evalFound? false (MemoryView.cell? w.columns [.bool true]) =
          some (.bool true)) ∧
      ∃ w columns, (FrameView.ofFrame ⟨"people"⟩ FrameView.annFrame).setPredicate
          "[name] = 'ann'" = .ok w ∧
        w.frame.select FrameView.isAnn.columns = .ok columns ∧
        FrameView.isAnn.evalFound? false (FrameColumn.cell? columns 0) = some (.bool true) := by
  obtain ⟨hagree, hcompile, hmemory, hframe⟩ := evaluation_reads_named_columns
  have hblank : ¬ Text.isBlankText "[adult] = true" := by decide
  have hknown : ∀ name ∈ MemoryView.isAdult.columns, ∃ c ∈ [Column.ofName "adult" .boolean],
      c.name = name := by decide
  have hadult := (hcompile "[adult] = true" [.ofName "adult" .boolean] _ hblank).mpr
    ⟨_, rfl, standsFor_some.mp MemoryView.standsFor_isAdult, hknown⟩
  have hv := (MemoryView.setPredicate_eq_ok
    (v := { table := ⟨"people"⟩, columns := [.ofName "adult" .boolean] })).mpr ⟨_, hadult, rfl⟩
  have hfound : ∀ e ∈ some FrameView.isAnn, ∀ name ∈ e.mentions,
      (FrameView.annFrame.column? name).isSome := by decide
  obtain ⟨marks, hmarks⟩ :=
    FrameView.exists_evaluate (v := .ofFrame ⟨"people"⟩ FrameView.annFrame).mpr hfound
  have hw := FrameView.setPredicate_eq_ok.mpr
    ⟨_, compile_eq_ok.mpr ⟨FrameView.standsFor_isAnn, by decide⟩, marks, hmarks, rfl⟩
  obtain ⟨columns, hselect, heval⟩ := hframe _ _ _ _ hw rfl
  obtain ⟨hvalue, hrow⟩ := heval false 0 Nat.zero_lt_one
  refine ⟨(hagree _ _ _ _ (by decide)).1, hadult, ⟨_, hv, ?_⟩, _, columns, hw, hselect, ?_⟩
  · exact (hmemory _ _ _ _ hv rfl false [.bool true]).trans (by decide)
  · have htrue : FrameView.isAnn.eval false (FrameView.annFrame.row 0) = .bool true := by decide
    rw [hvalue, hrow]
    exact congrArg some htrue

end TableFilter
