import TableFilter.Proofs.View.Rows

/-!
# Marks of rows

A table keeps marks for the rows that its predicate shows. A table in memory marks its rows anew
whenever something changes on which the marks depend, so that what it shows depends on what it was
given alone. A table over a data frame marks its rows when it accepts a predicate and at no other
time: its marks are those of the case policy that was in force then, and they outlive that policy.
-/

namespace TableFilter

open Text

/-- What is left by an operation that may be refused, and why it was refused if it was. -/
def attempt {σ ε : Type} (s : σ) : Except ε σ → σ × Option ε
  | .ok t => (t, none)
  | .error e => (s, some e)

section Attempt

variable {σ ε : Type} {s t : σ} {r : Except ε σ}

theorem attempt_eq_none : attempt s r = (t, none) ↔ r = .ok t := by
  cases r <;> simp [attempt]

theorem attempt_eq_some {e : ε} : attempt s r = (t, some e) ↔ r = .error e ∧ t = s := by
  cases r <;> simp [attempt, and_comm, eq_comm]

end Attempt

namespace Predicate

/-- The row satisfies a predicate that is blank, or that can be read and is true of the row. -/
def selects (caseSensitive : Bool) (row : Row) (p : String) : Bool :=
  isBlankText p || (Expr.ofText p).toOption.any (·.matchesRow caseSensitive row)

theorem selects_of_standsFor {p : String} {o : Option Expr} (h : StandsFor p o)
    (caseSensitive : Bool) (row : Row) :
    selects caseSensitive row p = shows caseSensitive o row := by
  cases o with
  | none => rw [selects, standsFor_none.mp h, shows, Option.all_none, Bool.true_or]
  | some e =>
    have hblank : isBlankText p = false := by
      rw [← Bool.not_eq_true, ← standsFor_none]
      exact fun hnone => Option.some_ne_none e (h.unique hnone)
    rw [selects, hblank, Bool.false_or, standsFor_some.mp h]
    rfl

end Predicate

theorem count_true_map {α : Type} (p : α → Bool) (as : List α) :
    (as.map p).count true = (as.filter p).length := by
  rw [List.count, List.countP_map, List.countP_eq_length_filter]
  exact congrArg List.length (List.filter_congr fun a _ => by simp)

/-- Marks that are read off some positions select what is read off those positions. -/
theorem marked_map_map {α β : Type} (p : α → Bool) (f : α → β) (as : List α) :
    marked (as.map p) (as.map f) = (as.filter p).map f := by
  induction as with
  | nil => rfl
  | cons a as ih => cases h : p a <;> simp [marked, h, ih]

namespace Column

variable {columns columns' : List Column} {name : String}

theorem indexOf?_eq_findIdx? (columns : List Column) (name : String) :
    indexOf? columns name = (columns.map (·.name)).findIdx? fun n => n = name := by
  rw [indexOf?, List.findIdx?_map]
  rfl

/-- Only the names of the columns decide where a column is found. -/
theorem indexOf?_congr (h : columns.map (·.name) = columns'.map (·.name)) (name : String) :
    indexOf? columns name = indexOf? columns' name := by
  rw [indexOf?_eq_findIdx?, indexOf?_eq_findIdx?, h]

/-- A column is found at its first place. -/
theorem indexOf?_eq_some {i : Nat} {c : Column} (hc : columns[i]? = some c)
    (hfirst : ∀ j < i, ∀ d, columns[j]? = some d → d.name ≠ c.name) :
    indexOf? columns c.name = some i := by
  obtain ⟨hi, hci⟩ := List.getElem?_eq_some_iff.mp hc
  rw [indexOf?, List.findIdx?_eq_some_iff_getElem]
  refine ⟨hi, by simp [hci], fun j hj => ?_⟩
  simpa using hfirst j hj _ (List.getElem?_eq_getElem (hj.trans hi))

end Column

namespace MemoryView

variable {v w : MemoryView}

structure Given where
  columns : List Column
  rows : List (List Value) := []
  predicate : String := ""
  caseSensitive : Bool := false
  /-- How many predicates were accepted. -/
  accepted : Nat := 0

/-- What can be done to a table in memory, and what that gives to it. Columns may be described anew
as long as they keep their names. -/
inductive Reach : MemoryView → Given → Prop
  | new (table : TableId) (columns : List Column) : Reach { table, columns } { columns }
  | withRows {v : MemoryView} {g : Given} (rows : List (List Value)) : Reach v g →
      Reach (v.withRows rows) { g with rows := g.rows ++ rows }
  | pushRow {v : MemoryView} {g : Given} (cells : List Value) : Reach v g →
      Reach (v.pushRow cells) { g with rows := g.rows ++ [cells] }
  | withCase {v : MemoryView} {g : Given} (caseSensitive : Bool) : Reach v g →
      Reach (v.withCase caseSensitive) { g with caseSensitive }
  | setTable {v : MemoryView} {g : Given} (table : TableId) (columns : List Column)
      (rows : List (List Value)) : Reach v g →
      Reach (v.setTable table columns rows) { g with columns, rows, predicate := "" }
  | describe {v : MemoryView} {g : Given} (columns : List Column) : Reach v g →
      columns.map (·.name) = v.columns.map (·.name) →
      Reach { v with columns } { g with columns }
  | accept {v w : MemoryView} {g : Given} {p : String} : Reach v g →
      attempt v (v.setPredicate p) = (w, none) →
      Reach w { g with predicate := p, accepted := g.accepted + 1 }
  | refuse {v w : MemoryView} {g : Given} {p : String} {e : FilterError} : Reach v g →
      attempt v (v.setPredicate p) = (w, some e) → Reach w g

structure UpToDate (v : MemoryView) (g : Given) : Prop where
  columns : v.columns = g.columns
  rows : v.rows = g.rows
  predicate : v.predicate = g.predicate
  caseSensitive : v.caseSensitive = g.caseSensitive
  applied : v.applied = g.accepted
  expr : StandsFor v.predicate v.expr
  marks : v.marks = v.rows.map fun cells => shows v.caseSensitive v.expr (cell v.columns cells)

namespace UpToDate

variable {g : Given}

theorem describe (h : v.UpToDate g) {columns : List Column}
    (hnames : columns.map (·.name) = v.columns.map (·.name)) :
    { v with columns }.UpToDate { g with columns } := by
  have hcell : cell columns = cell v.columns := by
    funext cells name
    rw [cell, cell, Column.indexOf?_congr hnames]
  exact { h with columns := rfl, marks := h.marks.trans (by rw [← hcell]) }

theorem accept (h : v.UpToDate g) {p : String} (hp : v.setPredicate p = .ok w) :
    w.UpToDate { g with predicate := p, accepted := g.accepted + 1 } := by
  obtain ⟨o, hcompile, rfl⟩ := setPredicate_eq_ok.mp hp
  exact {
    columns := h.columns
    rows := h.rows
    predicate := rfl
    caseSensitive := h.caseSensitive
    applied := congrArg (· + 1) h.applied
    expr := (compile_eq_ok.mp hcompile).1
    marks := rfl }

theorem of_reach (h : Reach v g) : v.UpToDate g := by
  induction h with
  | new table columns => exact ⟨rfl, rfl, rfl, rfl, rfl, standsFor_none.mpr rfl, rfl⟩
  | withRows rows _ ih =>
    exact { ih with rows := congrArg (· ++ rows) ih.rows, marks := rfl }
  | pushRow cells _ ih =>
    exact { ih with rows := congrArg (· ++ [cells]) ih.rows, marks := rfl }
  | withCase caseSensitive _ ih => exact { ih with caseSensitive := rfl, marks := rfl }
  | setTable table columns rows _ ih =>
    exact {
      columns := rfl
      rows := rfl
      predicate := rfl
      caseSensitive := ih.caseSensitive
      applied := ih.applied
      expr := standsFor_none.mpr rfl
      marks := rfl }
  | describe columns _ hnames ih => exact ih.describe hnames
  | accept _ hp ih => exact ih.accept (attempt_eq_none.mp hp)
  | refuse _ hp ih =>
    rw [(attempt_eq_some.mp hp).2]
    exact ih

/-- The marks are those of the predicate as it is read. -/
theorem marks_eq (h : v.UpToDate g) : v.marks = g.rows.map fun cells =>
    Predicate.selects g.caseSensitive (cell g.columns cells) g.predicate := by
  rw [h.marks, h.rows, h.columns, h.caseSensitive, ← h.predicate]
  exact List.map_congr_left fun cells _ => (Predicate.selects_of_standsFor h.expr _ _).symm

end UpToDate

/-- However a table in memory was changed, it shows the rows that satisfy its predicate, in their
order. A missing cell of a row counts as null, and a name belongs to its first column. A refused
predicate changes nothing by the construction of `setPredicate` and `attempt`: the one assigns
nothing before the predicate has been compiled, the other hands back the table it was given. -/
theorem shows_what_satisfies {g : Given} (h : Reach v g) :
    (v.columns = g.columns ∧ v.rows = g.rows ∧ v.caseSensitive = g.caseSensitive ∧
      v.predicate = g.predicate) ∧
    v.visibleRows = (g.rows.filter fun cells =>
      Predicate.selects g.caseSensitive (cell g.columns cells) g.predicate) ∧
    v.rowCount = v.visibleRows.length ∧
    v.applied = g.accepted ∧
    (∀ (i : Nat) (c : Column), g.columns[i]? = some c →
      (∀ j < i, ∀ d : Column, g.columns[j]? = some d → d.name ≠ c.name) →
      ∀ cells, cell g.columns cells c.name = cells[i]?.getD .null) ∧
    ∀ p w e, attempt v (v.setPredicate p) = (w, some e) → w = v := by
  have hv := UpToDate.of_reach h
  have hvisible : v.visibleRows = g.rows.filter fun cells =>
      Predicate.selects g.caseSensitive (cell g.columns cells) g.predicate := by
    rw [visibleRows, hv.marks_eq, hv.rows, marked_map]
  refine ⟨⟨hv.columns, hv.rows, hv.caseSensitive, hv.predicate⟩, hvisible, ?_, hv.applied, ?_, ?_⟩
  · rw [hvisible, rowCount, hv.marks_eq, count_true_map]
  · intro i c hc hfirst cells
    rw [cell, Column.indexOf?_eq_some hc hfirst, Option.bind_some]
  · exact fun p w e hp => (attempt_eq_some.mp hp).2

def isAdult : Expr := .compare .eq (.column "adult") (.literal (.bool true))

theorem standsFor_isAdult : StandsFor "[adult] = true" (some isAdult) := by
  have hn : "adult" ≠ "" := by decide
  exact .of_reads ((Reads.columnRef hn).equal (.boolText true)).disjunction_of_comparison

/-- A row that is too short does not satisfy the predicate, and one that comes later may. -/
theorem shows_what_satisfies_adults : ∃ v g, Reach v g ∧ g.predicate = "[adult] = true" ∧
    v.visibleRows = [[.text "ann", .bool true], [.text "cid", .bool true]] := by
  let columns : List Column := [.ofName "name" .text, .ofName "adult" .boolean]
  let v := withRows { table := ⟨"people"⟩, columns } [[.text "ann", .bool true], [.text "bob"]]
  have hknown : ∀ e ∈ some isAdult, ∀ name ∈ e.mentions, ∃ c ∈ v.columns, c.name = name := by
    decide
  have hset := (setPredicate_eq_ok (v := v)).mpr
    ⟨some isAdult, compile_eq_ok.mpr ⟨standsFor_isAdult, hknown⟩, rfl⟩
  have hreach := (((Reach.new ⟨"people"⟩ columns).withRows _).accept
    (attempt_eq_none.mpr hset)).pushRow [.text "cid", .bool true]
  refine ⟨_, _, hreach, rfl, (shows_what_satisfies hreach).2.1.trans ?_⟩
  simp only [Predicate.selects_of_standsFor standsFor_isAdult]
  decide

end MemoryView

namespace Frame

variable {f : Frame} {c : FrameColumn}

theorem column?_of_mem (hc : c ∈ f.columns) : f.column? c.name = some c := by
  have hfind {columns : List FrameColumn} (hnodup : (columns.map (·.name)).Nodup)
      (hmem : c ∈ columns) : columns.find? (·.name = c.name) = some c := by
    induction columns with
    | nil => cases hmem
    | cons first columns ih =>
      obtain ⟨hfirst, hrest⟩ := List.nodup_cons.mp hnodup
      rcases List.mem_cons.mp hmem with rfl | hmem
      · exact List.find?_cons_of_pos (by simp)
      · have hne : first.name ≠ c.name := fun h => hfirst (List.mem_map.mpr ⟨c, hmem, h.symm⟩)
        rw [List.find?_cons_of_neg (by simpa using hne), ih hrest hmem]
  exact hfind f.nodup_names hc

theorem row_of_mem (hc : c ∈ f.columns) (i : Nat) :
    f.row i c.name = (c.cells[i]?).elim .null Datum.value := by
  have hcolumn := column?_of_mem hc
  rw [column?] at hcolumn
  rw [row, FrameColumn.row, hcolumn, Option.bind_some]

/-- The values of a column are its cells in all rows. -/
theorem map_value_of_mem (hc : c ∈ f.columns) :
    c.cells.map Datum.value = (List.range f.height).map fun i => f.row i c.name := by
  have hlength := f.length_cells c hc
  apply List.ext_getElem
  · simp [hlength]
  · intro i hi _
    have hcell : i < c.cells.length := by simpa using hi
    simp [row_of_mem hc, hcell]

end Frame

namespace FrameView

variable {table : TableId} {frame : Frame} {v w : FrameView} {judged : Bool}

/-- What predicates and changes of the case policy make of a table over a data frame, and the case
policy under which its predicate was accepted. -/
inductive Reach (table : TableId) (frame : Frame) : FrameView → Bool → Prop
  | new : Reach table frame (ofFrame table frame) false
  | withCase {v : FrameView} {judged : Bool} (caseSensitive : Bool) :
      Reach table frame v judged → Reach table frame (v.withCase caseSensitive) judged
  | accept {v w : FrameView} {judged : Bool} {p : String} : Reach table frame v judged →
      attempt v (v.setPredicate p) = (w, none) → Reach table frame w v.caseSensitive
  | refuse {v w : FrameView} {judged : Bool} {p : String} {e : FilterError} :
      Reach table frame v judged → attempt v (v.setPredicate p) = (w, some e) →
      Reach table frame w judged

def selected (v : FrameView) (caseSensitive : Bool) : List Nat :=
  (List.range v.frame.height).filter fun i =>
    Predicate.selects caseSensitive (v.frame.row i) v.predicate

def judgedMarks (v : FrameView) (caseSensitive : Bool) : List Bool :=
  (List.range v.frame.height).map fun i =>
    Predicate.selects caseSensitive (v.frame.row i) v.predicate

theorem marks_ofFrame (table : TableId) (frame : Frame) :
    (ofFrame table frame).marks = (ofFrame table frame).judgedMarks judged := by
  have hblank : StandsFor "" none := standsFor_none.mpr rfl
  apply List.ext_getElem
  · simp [ofFrame, judgedMarks]
  · intro i _ _
    simp [ofFrame, judgedMarks, Predicate.selects_of_standsFor hblank, shows]

theorem marks_of_setPredicate {p : String} (h : v.setPredicate p = .ok w) :
    w.frame = v.frame ∧ w.marks = w.judgedMarks v.caseSensitive := by
  obtain ⟨o, hcompile, marks, hmarks, rfl⟩ := setPredicate_eq_ok.mp h
  refine ⟨rfl, (marks_of_evaluate hmarks).trans ?_⟩
  have hp := (compile_eq_ok.mp hcompile).1
  exact List.map_congr_left fun i _ => (Predicate.selects_of_standsFor hp _ _).symm

theorem marks_of_reach (h : Reach table frame v judged) :
    v.frame = frame ∧ v.marks = v.judgedMarks judged := by
  induction h with
  | new => exact ⟨rfl, marks_ofFrame table frame⟩
  | withCase caseSensitive _ ih => exact ih
  | accept _ hp ih =>
    obtain ⟨hframe, hmarks⟩ := marks_of_setPredicate (attempt_eq_none.mp hp)
    exact ⟨hframe.trans ih.1, hmarks⟩
  | refuse _ hp ih =>
    rw [(attempt_eq_some.mp hp).2]
    exact ih

/-- A table over a data frame shows the rows that satisfied its predicate when it was accepted.
These are the rows that satisfy it now exactly if no row is judged otherwise by the case policy of
now. As with a table in memory, a refused predicate changes nothing by construction: the predicate
and the marks are assigned together, when the expression has been compiled and evaluated. -/
theorem shows_what_satisfied (h : Reach table frame v judged) :
    v.frame = frame ∧
    v.marks = v.judgedMarks judged ∧
    v.rowCount = (v.selected judged).length ∧
    v.visibleColumns = (v.frame.columns.map fun c =>
      (v.selected judged).map fun i => v.frame.row i c.name) ∧
    (∀ p w e, attempt v (v.setPredicate p) = (w, some e) → w = v) ∧
    (v.marks = v.judgedMarks v.caseSensitive ↔ ∀ i < v.frame.height,
      Predicate.selects v.caseSensitive (v.frame.row i) v.predicate =
        Predicate.selects judged (v.frame.row i) v.predicate) := by
  obtain ⟨hframe, hmarks⟩ := marks_of_reach h
  refine ⟨hframe, hmarks, ?_, ?_, fun p w e hp => (attempt_eq_some.mp hp).2, ?_⟩
  · rw [rowCount, hmarks, judgedMarks, count_true_map]
    rfl
  · refine List.map_congr_left fun c hc => ?_
    rw [hmarks, Frame.map_value_of_mem hc]
    exact marked_map_map _ _ _
  · rw [hmarks, judgedMarks, judgedMarks, List.map_inj_left]
    simp only [List.mem_range, eq_comm]

def annFrame : Frame := ⟨1, [⟨"name", .text, [.text "Ann"]⟩], by decide, by decide⟩

def isAnn : Expr := .compare .eq (.column "name") (.literal (.text "ann"))

theorem standsFor_isAnn : StandsFor "[name] = 'ann'" (some isAnn) := by
  have hn : "name" ≠ "" := by decide
  exact .of_reads ((Reads.columnRef hn).equal (.quote "ann")).disjunction_of_comparison

theorem selects_annFrame (caseSensitive : Bool) :
    Predicate.selects caseSensitive (annFrame.row 0) "[name] = 'ann'" = !caseSensitive := by
  rw [Predicate.selects_of_standsFor standsFor_isAnn]
  cases caseSensitive <;> decide

/-- The table accepts the predicate, and then the case of letters begins to count. -/
theorem reach_annFrame : ∃ v, Reach ⟨"people"⟩ annFrame v false ∧ v.frame = annFrame ∧
    v.predicate = "[name] = 'ann'" ∧ v.caseSensitive = true := by
  let v := ofFrame ⟨"people"⟩ annFrame
  have hknown : ∀ e ∈ some isAnn, ∀ name ∈ e.mentions, ∃ c ∈ v.columns, c.name = name := by
    decide
  have hfound : ∀ e ∈ some isAnn, ∀ name ∈ e.mentions, (v.frame.column? name).isSome := by
    decide
  obtain ⟨marks, hmarks⟩ := exists_evaluate.mpr hfound
  have hset := setPredicate_eq_ok.mpr
    ⟨some isAnn, compile_eq_ok.mpr ⟨standsFor_isAnn, hknown⟩, marks, hmarks, rfl⟩
  exact ⟨_, (Reach.new.accept (attempt_eq_none.mpr hset)).withCase true, rfl, rfl, rfl⟩

section Ann

variable (hframe : v.frame = annFrame) (hp : v.predicate = "[name] = 'ann'")

include hframe hp in
theorem selected_annFrame (caseSensitive : Bool) :
    v.selected caseSensitive = if caseSensitive then [] else [0] := by
  have hrange : List.range annFrame.height = [0] := rfl
  rw [selected, hframe, hp, hrange, List.filter_cons, selects_annFrame]
  cases caseSensitive <;> rfl

include hframe hp in
theorem judgedMarks_annFrame (caseSensitive : Bool) :
    v.judgedMarks caseSensitive = [!caseSensitive] := by
  rw [judgedMarks, hframe, hp]
  exact congrArg (fun b => [b]) (selects_annFrame caseSensitive)

end Ann

/-- The row stays visible. -/
theorem shows_what_satisfied_ann : ∃ v, Reach ⟨"people"⟩ annFrame v false ∧
    v.caseSensitive = true ∧ v.rowCount = 1 := by
  obtain ⟨v, hv, hframe, hp, hcase⟩ := reach_annFrame
  refine ⟨v, hv, hcase, ?_⟩
  rw [(shows_what_satisfied hv).2.2.1, selected_annFrame hframe hp]
  rfl

/-- A row is visible that does not satisfy the predicate under the case policy of the table. -/
theorem marks_outlive_case_policy : ∃ v, Reach ⟨"people"⟩ annFrame v false ∧
    v.predicate = "[name] = 'ann'" ∧ v.rowCount = 1 ∧ v.selected v.caseSensitive = [] ∧
    v.marks ≠ v.judgedMarks v.caseSensitive := by
  obtain ⟨v, hv, hframe, hp, hcase⟩ := reach_annFrame
  have hmarks := (marks_of_reach hv).2
  rw [judgedMarks_annFrame hframe hp] at hmarks
  refine ⟨v, hv, hp, ?_, ?_, ?_⟩
  · rw [rowCount, hmarks]
    rfl
  · rw [hcase]
    exact selected_annFrame hframe hp true
  · rw [hcase, hmarks, judgedMarks_annFrame hframe hp]
    decide

end FrameView
end TableFilter
