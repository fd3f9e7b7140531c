import TableFilter.Proofs.Predicate.Compose
import TableFilter.View.Basic

/-!
# Which predicates a table accepts

A table accepts a predicate that it can read and whose columns it knows; a table over a data frame
has to find them in the frame as well. Whether a predicate is accepted depends on the columns alone,
so that handing over a predicate does not change which other ones are accepted.
-/

namespace TableFilter

open Text TableFilter.Parser

namespace Expr

theorem mem_insertName {name other : String} {names : List String} :
    other ∈ insertName name names ↔ other = name ∨ other ∈ names := by
  induction names with
  | nil => simp [insertName]
  | cons first rest ih =>
    unfold insertName
    split
    case h_1 => simp
    case h_2 heq =>
      have hname : name = first := Std.LawfulEqOrd.compare_eq_iff_eq.mp heq
      subst hname
      simp
    case h_3 =>
      rw [List.mem_cons, ih, List.mem_cons]
      exact or_left_comm

theorem mem_columns {e : Expr} {name : String} : name ∈ e.columns ↔ name ∈ e.mentions := by
  have hfold (names : List String) : name ∈ names.foldr insertName [] ↔ name ∈ names := by
    induction names with
    | nil => rfl
    | cons first rest ih => rw [List.foldr_cons, mem_insertName, ih, List.mem_cons]
  exact hfold e.mentions

end Expr

theorem isNone_indexOf?_iff {columns : List Column} {name : String} :
    (Column.indexOf? columns name).isNone ↔ ¬ ∃ c ∈ columns, c.name = name := by
  simp [Column.indexOf?]

/-- A predicate that is read compiles if its columns are known. -/
theorem compile_of_ofText {s : String} {e : Expr} {columns : List Column} (hb : ¬ isBlankText s)
    (hs : Expr.ofText s = .ok e) (o : Option Expr) : compile s columns = .ok o ↔
      o = some e ∧ ∀ name ∈ e.mentions, ∃ c ∈ columns, c.name = name := by
  simp only [compile, if_neg hb, hs]
  cases hf : e.columns.find? fun name => (Column.indexOf? columns name).isNone with
  | some name =>
    have hmem := Expr.mem_columns.mp (List.mem_of_find?_eq_some hf)
    have hn := List.find?_some hf
    simp only [reduceCtorEq, false_iff, not_and]
    intro _ hall
    exact isNone_indexOf?_iff.mp hn (hall name hmem)
  | none =>
    rw [List.find?_eq_none] at hf
    have hall : ∀ name ∈ e.mentions, ∃ c ∈ columns, c.name = name := by
      intro name hname
      have hn := hf name (Expr.mem_columns.mpr hname)
      rwa [isNone_indexOf?_iff, not_not] at hn
    rw [Except.ok.injEq, and_iff_left hall]
    exact eq_comm

/-- A predicate compiles if it is blank or is read as an expression over known columns. -/
theorem compile_eq_ok {s : String} {o : Option Expr} {columns : List Column} :
    compile s columns = .ok o ↔
      StandsFor s o ∧ ∀ e ∈ o, ∀ name ∈ e.mentions, ∃ c ∈ columns, c.name = name := by
  by_cases hb : isBlankText s
  · have hnone := standsFor_none.mpr hb
    rw [compile, if_pos hb]
    constructor
    · intro h
      rw [← Except.ok.inj h]
      exact ⟨hnone, by simp⟩
    · rintro ⟨h, -⟩
      rw [h.unique hnone]
  · cases hs : Expr.ofText s with
    | ok e =>
      have he : StandsFor s (some e) := standsFor_some.mpr hs
      rw [compile_of_ofText hb hs]
      constructor
      · rintro ⟨rfl, hall⟩
        exact ⟨he, fun e' he' => Option.some.inj he' ▸ hall⟩
      · rintro ⟨h, hall⟩
        exact ⟨h.unique he, hall e (h.unique he)⟩
    | error cause =>
      simp only [compile, if_neg hb, hs, reduceCtorEq, false_iff, not_and]
      intro h
      cases o with
      | none => exact absurd (standsFor_none.mp h) hb
      | some e =>
        rw [standsFor_some, hs] at h
        cases h

/-- Columns can be selected from a frame if it has all of them. -/
theorem Frame.exists_select {f : Frame} {names : List String} :
    (∃ columns, f.select names = .ok columns) ↔ ∀ name ∈ names, (f.column? name).isSome := by
  induction names with
  | nil => simp [select]
  | cons name names ih =>
    rw [select, List.forall_mem_cons, ← ih]
    cases f.column? name with
    | none => simp
    | some c => cases f.select names <;> simp [Except.map]

theorem FrameView.exists_evaluate {v : FrameView} {o : Option Expr} :
    (∃ marks, v.evaluate o = .ok marks) ↔
      ∀ e ∈ o, ∀ name ∈ e.mentions, (v.frame.column? name).isSome := by
  have hall : (∀ e ∈ o, ∀ name ∈ e.mentions, (v.frame.column? name).isSome) ↔
      ∀ name ∈ o.elim [] Expr.columns, (v.frame.column? name).isSome := by
    cases o with
    | none => simp
    | some e => simp [Expr.mem_columns]
  rw [hall, ← Frame.exists_select]
  simp only [evaluate, bind_eq_ok, pure, Except.pure, Except.ok.injEq]
  exact ⟨fun ⟨_, columns, hcolumns, _⟩ => ⟨columns, hcolumns⟩,
    fun ⟨columns, hcolumns⟩ => ⟨_, columns, hcolumns, rfl⟩⟩

theorem map_eq_ok {ε α β : Type} {x : Except ε α} {f : α → β} {b : β} :
    x.map f = .ok b ↔ ∃ a, x = .ok a ∧ f a = b := by
  cases x <;> simp [Except.map]

theorem MemoryView.setPredicate_eq_ok {v v' : MemoryView} {p : String} :
    v.setPredicate p = .ok v' ↔ ∃ o, compile p v.columns = .ok o ∧
      { v with predicate := p, expr := o, applied := v.applied + 1 }.refilter = v' := by
  simp only [setPredicate, bind_eq_ok, pure, Except.pure, Except.ok.injEq]

theorem FrameView.setPredicate_eq_ok {v v' : FrameView} {p : String} :
    v.setPredicate p = .ok v' ↔ ∃ o, compile p v.columns = .ok o ∧
      ∃ marks, v.evaluate o = .ok marks ∧ { v with predicate := p, expr := o, marks } = v' := by
  simp only [setPredicate, bind_eq_ok, pure, Except.pure, Except.ok.injEq]

namespace View

def Knows (name : String) : View → Prop
  | memory v => ∃ c ∈ v.columns, c.name = name
  | frame v => (∃ c ∈ v.columns, c.name = name) ∧ (v.frame.column? name).isSome

def Rejects (v : View) (p : String) : Prop := ∀ v', v.setPredicate p ≠ .ok v'

structure Accepts (v : View) (p : String) (v' : View) : Prop where
  predicate : v'.predicate = p
  columns : v'.columns = v.columns
  table : v'.table = v.table
  knows : ∀ name, v'.Knows name ↔ v.Knows name

variable {v v' : View} {p : String}

/-- A table accepts a predicate that is blank or is read as an expression over columns it knows. -/
theorem exists_setPredicate : (∃ v', v.setPredicate p = .ok v') ↔
    ∃ o, StandsFor p o ∧ ∀ e ∈ o, ∀ name ∈ e.mentions, v.Knows name := by
  cases v with
  | memory v =>
    simp only [setPredicate, map_eq_ok, MemoryView.setPredicate_eq_ok, compile_eq_ok]
    constructor
    · rintro ⟨_, _, ⟨o, ho, -⟩, -⟩
      exact ⟨o, ho⟩
    · rintro ⟨o, ho⟩
      exact ⟨_, _, ⟨o, ho, rfl⟩, rfl⟩
  | frame v =>
    simp only [setPredicate, map_eq_ok, FrameView.setPredicate_eq_ok, compile_eq_ok]
    constructor
    · rintro ⟨_, _, ⟨o, ⟨hs, hk⟩, marks, hm, -⟩, -⟩
      have hf := FrameView.exists_evaluate.mp ⟨marks, hm⟩
      exact ⟨o, hs, fun e he name hname => ⟨hk e he name hname, hf e he name hname⟩⟩
    · rintro ⟨o, hs, hk⟩
      obtain ⟨marks, hm⟩ := FrameView.exists_evaluate.mpr fun e he name hname =>
        (hk e he name hname).2
      exact ⟨_, _, ⟨o, ⟨hs, fun e he name hname => (hk e he name hname).1⟩, marks, hm, rfl⟩, rfl⟩

theorem accepts_of_setPredicate (h : v.setPredicate p = .ok v') : v.Accepts p v' := by
  cases v with
  | memory v =>
    obtain ⟨w, hw, rfl⟩ := map_eq_ok.mp h
    obtain ⟨o, -, rfl⟩ := MemoryView.setPredicate_eq_ok.mp hw
    exact ⟨rfl, rfl, rfl, fun _ => Iff.rfl⟩
  | frame v =>
    obtain ⟨w, hw, rfl⟩ := map_eq_ok.mp h
    obtain ⟨o, -, marks, -, rfl⟩ := FrameView.setPredicate_eq_ok.mp hw
    exact ⟨rfl, rfl, rfl, fun _ => Iff.rfl⟩

theorem rejects_iff : v.Rejects p ↔ ¬ ∃ v', v.setPredicate p = .ok v' :=
  not_exists.symm

theorem not_rejects_empty (v : View) : ¬ v.Rejects "" := by
  rw [rejects_iff, not_not, exists_setPredicate]
  exact ⟨none, standsFor_none.mpr rfl, by simp⟩

theorem exists_setPredicate_of_reads {v : View} {p : String} {e : Expr}
    (h : Reads .disjunction p e) (hknown : ∀ name ∈ e.mentions, v.Knows name) :
    ∃ v', v.setPredicate p = .ok v' := by
  refine exists_setPredicate.mpr ⟨some e, .of_reads h, fun e' he' => ?_⟩
  rw [← Option.some.inj he']
  exact hknown

/-- Which predicates are refused does not depend on the one in force. -/
theorem Accepts.rejects_iff (h : v.Accepts p v') (q : String) : v'.Rejects q ↔ v.Rejects q := by
  simp only [View.rejects_iff, exists_setPredicate, h.knows]

end View
end TableFilter
