import Mathlib.Data.Finset.Card
import Mathlib.Data.List.Perm.Basic
import TableFilter.Proofs.View.Marks
import TableFilter.Scan

/-!
# The distinct values of a column

A scan lists every text that a cell of the column shows, once and in the order of the first
appearances, and notes whether a cell is null. It gives up as soon as it has more texts than the cap
allows. Since no text is ever taken off the list, it does so exactly if the column shows more texts
than that, whatever comes first. So the order of the rows decides about the order of the list only,
and the predicate in force decides about nothing.
-/

namespace TableFilter

def Value.shownTexts (cells : List Value) : List String := cells.filterMap Value.shown?

theorem Value.mem_shownTexts {cells : List Value} {s : String} :
    s ∈ shownTexts cells ↔ ∃ v ∈ cells, v.shown? = some s :=
  List.mem_filterMap

namespace DistinctValues

open Value

variable {cap : Option Nat} {d : DistinctValues} {cells : List Value} {v : Value}

/-- The texts of some cells are listed, each once and in the order of their first appearance, and
null is noted if it is among the cells. -/
structure Lists (d : DistinctValues) (cells : List Value) : Prop where
  mem_iff : ∀ s, s ∈ d.values ↔ s ∈ shownTexts cells
  inOrder : d.values.Pairwise fun s t => (shownTexts cells).idxOf s < (shownTexts cells).idxOf t
  hasNull_iff : d.hasNull ↔ .null ∈ cells

namespace Lists

theorem empty : Lists {} [] := ⟨fun _ => Iff.rfl, .nil, by simp⟩

/-- A cell that shows nothing is noted. -/
theorem add_null (h : d.Lists cells) : (d.add .null).Lists (cells ++ [.null]) := by
  have htexts : shownTexts (cells ++ [.null]) = shownTexts cells := by
    rw [shownTexts, List.filterMap_append]
    exact List.append_nil _
  refine ⟨?_, ?_, ?_⟩
  · rw [htexts]
    exact h.mem_iff
  · rw [htexts]
    exact h.inOrder
  · simp [add, shown?]

/-- A text that is listed stays where it is, and a new one is listed behind all others. -/
theorem add_shown {s : String} (h : d.Lists cells) (hv : v.shown? = some s) :
    (d.add v).Lists (cells ++ [v]) := by
  have htexts : shownTexts (cells ++ [v]) = shownTexts cells ++ [s] := by
    rw [shownTexts, List.filterMap_append]
    simp [shownTexts, hv]
  have hnull : .null ∈ cells ++ [v] ↔ d.hasNull := by
    rw [h.hasNull_iff, List.mem_append, List.mem_singleton]
    refine or_iff_left ?_
    rintro rfl
    cases hv
  have hplace {t : String} (ht : t ∈ d.values) :
      (shownTexts cells ++ [s]).idxOf t = (shownTexts cells).idxOf t :=
    List.idxOf_append_of_mem ((h.mem_iff t).mp ht)
  have hinOrder : d.values.Pairwise fun t u =>
      (shownTexts cells ++ [s]).idxOf t < (shownTexts cells ++ [s]).idxOf u := by
    refine h.inOrder.imp_of_mem fun ht hu hlt => ?_
    rwa [hplace ht, hplace hu]
  simp only [add, hv]
  by_cases hs : s ∈ d.values
  · rw [if_pos (List.contains_iff_mem.mpr hs)]
    refine ⟨fun t => ?_, ?_, hnull.symm⟩
    · rw [htexts, List.mem_append, ← h.mem_iff, List.mem_singleton]
      refine (or_iff_left_of_imp ?_).symm
      rintro rfl
      exact hs
    · rw [htexts]
      exact hinOrder
  · rw [if_neg (mt List.contains_iff_mem.mp hs)]
    refine ⟨fun t => ?_, ?_, hnull.symm⟩
    · rw [htexts, List.mem_append, List.mem_append, h.mem_iff]
    · have hlast : (shownTexts cells ++ [s]).idxOf s = (shownTexts cells).length := by
        rw [List.idxOf_append_of_notMem (mt (h.mem_iff s).mpr hs), List.idxOf_cons_self,
          Nat.add_zero]
      rw [htexts, List.pairwise_append]
      refine ⟨hinOrder, List.pairwise_singleton _ _, fun t ht u hu => ?_⟩
      rw [List.mem_singleton.mp hu, hlast, hplace ht]
      exact List.idxOf_lt_length_of_mem ((h.mem_iff t).mp ht)

theorem add (h : d.Lists cells) (v : Value) : (d.add v).Lists (cells ++ [v]) := by
  cases hv : v.shown? with
  | none =>
    rw [shown?_eq_none] at hv
    subst hv
    exact h.add_null
  | some s => exact h.add_shown hv

theorem foldl_add (h : d.Lists cells) (vs : List Value) :
    (vs.foldl DistinctValues.add d).Lists (cells ++ vs) := by
  induction vs generalizing d cells with
  | nil => rwa [List.append_nil]
  | cons v vs ih =>
    rw [List.foldl_cons, List.append_cons]
    exact ih (h.add v)

theorem nodup (h : d.Lists cells) : d.values.Nodup := by
  refine h.inOrder.imp fun hlt heq => ?_
  rw [heq] at hlt
  exact lt_irrefl _ hlt

/-- As many texts are listed as the cells show. -/
theorem length_eq (h : d.Lists cells) : d.values.length = (shownTexts cells).toFinset.card := by
  rw [← List.toFinset_card_of_nodup h.nodup]
  congr 1
  ext s
  rw [List.mem_toFinset, List.mem_toFinset, h.mem_iff]

/-- The same cells in another order give the same list in another order. -/
theorem perm {e : DistinctValues} {cells' : List Value} (h : d.Lists cells) (h' : e.Lists cells')
    (hcells : cells'.Perm cells) : e.values.Perm d.values ∧ e.hasNull = d.hasNull := by
  constructor
  · rw [List.perm_ext_iff_of_nodup h'.nodup h.nodup]
    intro s
    rw [h'.mem_iff, h.mem_iff, mem_shownTexts, mem_shownTexts]
    simp only [hcells.mem_iff]
  · rw [Bool.eq_iff_iff, h'.hasNull_iff, h.hasNull_iff, hcells.mem_iff]

end Lists

theorem length_le_add (d : DistinctValues) (v : Value) :
    d.values.length ≤ (d.add v).values.length := by
  unfold add
  split
  · exact le_rfl
  · split
    · exact le_rfl
    · rw [List.length_append]
      omega

theorem exceeds_iff : d.exceeds cap ↔ ∃ n, cap = some n ∧ n < d.values.length := by
  cases cap <;> simp [exceeds]

/-- A list that is too long stays so. -/
theorem exceeds_foldl_add (h : d.exceeds cap) (vs : List Value) :
    (vs.foldl add d).exceeds cap := by
  induction vs generalizing d with
  | nil => exact h
  | cons v vs ih =>
    obtain ⟨n, hcap, hn⟩ := exceeds_iff.mp h
    exact ih (exceeds_iff.mpr ⟨n, hcap, hn.trans_le (length_le_add d v)⟩)

/-- Giving up early is giving up because the whole list would be too long. -/
theorem addAll?_eq (cap : Option Nat) (d : DistinctValues) (vs : List Value) : addAll? cap d vs =
    if (vs.foldl add d).exceeds cap then none else some (vs.foldl add d) := by
  induction vs generalizing d with
  | nil => rfl
  | cons v vs ih =>
    rw [addAll?, List.foldl_cons, ih]
    by_cases h : d.exceeds cap
    · rw [if_pos h, ← List.foldl_cons, if_pos (exceeds_foldl_add h _)]
    · rw [if_neg h]

end DistinctValues

namespace View

open Value

variable {v w : View} {cap : Option Nat} {name : String}

/-- The table has cells under a name. A data frame has them under the names of its own columns,
however these are described. -/
def HasColumn (name : String) : View → Prop
  | memory v => ∃ c ∈ v.columns, c.name = name
  | frame v => (v.frame.column? name).isSome

def cells (v : View) (name : String) : List Value := (List.range v.height).map fun i => v.row i name

theorem columnValues_of_hasColumn (h : v.HasColumn name) :
    v.columnValues name = .ok (v.cells name) := by
  cases v with
  | memory v =>
    cases hposition : Column.indexOf? v.columns name with
    | none => exact absurd h (isNone_indexOf?_iff.mp (by rw [hposition]; rfl))
    | some position =>
      simp only [columnValues, MemoryView.columnValues, hposition, Except.ok.injEq]
      apply List.ext_getElem
      · simp [cells, height]
      · intro i hi _
        have hrow : i < v.rows.length := by simpa using hi
        simp [cells, row, MemoryView.cell, hposition, hrow]
  | frame v =>
    obtain ⟨c, hc⟩ := Option.isSome_iff_exists.mp h
    have hmem : c ∈ v.frame.columns := List.mem_of_find?_eq_some hc
    have hname : c.name = name := by simpa using List.find?_some hc
    simp only [columnValues, FrameView.columnValues, hc, Frame.map_value_of_mem hmem, hname]
    rfl

theorem columnValues_of_not_hasColumn (h : ¬ v.HasColumn name) :
    v.columnValues name = .error (.unknownColumn name) := by
  cases v with
  | memory v =>
    have hposition := Option.isNone_iff_eq_none.mp (isNone_indexOf?_iff.mpr h)
    simp only [columnValues, MemoryView.columnValues, hposition]
  | frame v =>
    have hcolumn := Option.not_isSome_iff_eq_none.mp h
    simp only [columnValues, FrameView.columnValues, hcolumn]

theorem exists_distinctValues (cap : Option Nat) (h : v.HasColumn name) :
    ∃ d : DistinctValues, d.Lists (v.cells name) ∧
      v.distinctValues cap name = .ok (if d.exceeds cap then none else some d) := by
  refine ⟨(v.cells name).foldl DistinctValues.add {}, DistinctValues.Lists.empty.foldl_add _, ?_⟩
  rw [distinctValues, columnValues_of_hasColumn h, ← DistinctValues.addAll?_eq]
  rfl

theorem distinctValues_of_not_hasColumn (cap : Option Nat) (h : ¬ v.HasColumn name) :
    v.distinctValues cap name = .error (.unknownColumn name) := by
  rw [distinctValues, columnValues_of_not_hasColumn h]
  rfl

/-- A scan gives up on a column exactly if its cells show more texts than the cap allows. -/
theorem distinctValues_eq_none_iff (h : v.HasColumn name) :
    v.distinctValues cap name = .ok none ↔
      ∃ n, cap = some n ∧ n < (shownTexts (v.cells name)).toFinset.card := by
  obtain ⟨d, hd, hscan⟩ := exists_distinctValues cap h
  rw [hscan, ← hd.length_eq, ← DistinctValues.exceeds_iff]
  split <;> simp_all

theorem hasColumn_of_distinctValues {d : Option DistinctValues}
    (h : v.distinctValues cap name = .ok d) : v.HasColumn name := by
  by_contra hcolumn
  rw [distinctValues_of_not_hasColumn cap hcolumn] at h
  cases h

theorem lists_of_distinctValues {d : DistinctValues}
    (h : v.distinctValues cap name = .ok (some d)) : d.Lists (v.cells name) := by
  obtain ⟨e, he, hscan⟩ := exists_distinctValues cap (hasColumn_of_distinctValues h)
  rw [hscan] at h
  split at h
  · cases h
  · cases h
    exact he

/-- The second table has the rows of the first one in another order, under whatever predicate. -/
inductive Reorders : View → View → Prop
  | memory {v w : MemoryView} : w.columns = v.columns → w.rows.Perm v.rows →
      Reorders (.memory v) (.memory w)
  | frame {v w : FrameView} (places : List Nat) : places.Perm (List.range v.frame.height) →
      w.frame.columns = v.frame.columns.map (fun c =>
        { c with cells := places.map fun i => (c.cells[i]?).getD .null }) →
      Reorders (.frame v) (.frame w)

namespace Reorders

theorem hasColumn_iff (h : Reorders v w) (name : String) : w.HasColumn name ↔ v.HasColumn name := by
  cases h with
  | memory hcolumns _ => rw [HasColumn, HasColumn, hcolumns]
  | frame places _ hcolumns =>
    rw [HasColumn, HasColumn, Frame.column?, Frame.column?, hcolumns, List.find?_map,
      Option.isSome_map]
    rfl

theorem perm_cells (h : Reorders v w) (hv : v.HasColumn name) :
    (w.cells name).Perm (v.cells name) := by
  have hw := (h.hasColumn_iff name).mpr hv
  have hcells := columnValues_of_hasColumn hv
  have hcells' := columnValues_of_hasColumn hw
  cases h with
  | @memory v w hcolumns hrows =>
    simp only [columnValues, MemoryView.columnValues, hcolumns] at hcells hcells'
    cases hposition : Column.indexOf? v.columns name with
    | none =>
      rw [hposition] at hcells
      cases hcells
    | some position =>
      simp only [hposition, Except.ok.injEq] at hcells hcells'
      rw [← hcells, ← hcells']
      exact hrows.map _
  | @frame v w places hplaces hcolumns =>
    obtain ⟨c, hc⟩ := Option.isSome_iff_exists.mp hv
    have hc' : w.frame.column? name =
        some { c with cells := places.map fun i => (c.cells[i]?).getD .null } := by
      rw [Frame.column?] at hc
      rw [Frame.column?, hcolumns, List.find?_map]
      exact Option.map_eq_some_iff.mpr ⟨c, hc, rfl⟩
    have hlength := v.frame.length_cells c (List.mem_of_find?_eq_some hc)
    have hall : c.cells = (List.range v.frame.height).map fun i => (c.cells[i]?).getD .null := by
      apply List.ext_getElem
      · simp [hlength]
      · intro i hi _
        simp [hi]
    have hperm := hplaces.map fun i => (c.cells[i]?).getD .null
    rw [← hall] at hperm
    simp only [columnValues, FrameView.columnValues, hc, hc', Except.ok.injEq] at hcells hcells'
    rw [← hcells, ← hcells']
    exact hperm.map _

end Reorders

/-- A scan of a column lists exactly the texts that its cells show, in the order of their first
appearance, or gives up exactly if there are more of them than the cap allows. Neither depends on
the predicate, and the order of the rows decides about the order of the texts only. -/
theorem distinct_values_are_exact (v : View) (cap : Option Nat) (name : String) :
    (v.HasColumn name →
      (v.distinctValues cap name = .ok none ↔
        ∃ n, cap = some n ∧ n < (shownTexts (v.cells name)).toFinset.card) ∧
      (v.distinctValues cap name ≠ .ok none → ∃ d : DistinctValues,
        v.distinctValues cap name = .ok (some d) ∧ d.Lists (v.cells name)) ∧
      ∀ w, Reorders v w →
        (w.distinctValues cap name = .ok none ↔ v.distinctValues cap name = .ok none) ∧
        ∀ d e, v.distinctValues cap name = .ok (some d) → w.distinctValues cap name = .ok (some e) →
          e.values.Perm d.values ∧ e.hasNull = d.hasNull) ∧
    (∀ p w, v.setPredicate p = .ok w → w.distinctValues cap name = v.distinctValues cap name) ∧
    ∀ e, v.distinctValues cap name = .error e ↔ ¬ v.HasColumn name ∧ e = .unknownColumn name := by
  refine ⟨fun hcolumn => ⟨distinctValues_eq_none_iff hcolumn, fun hne => ?_, fun w hw => ⟨?_, ?_⟩⟩,
    fun p w hw => ?_, fun e => ?_⟩
  · obtain ⟨d, hd, hscan⟩ := exists_distinctValues cap hcolumn
    rw [hscan] at hne ⊢
    split at hne
    · exact absurd rfl hne
    · rename_i hshort
      exact ⟨d, congrArg Except.ok (if_neg hshort), hd⟩
  · have hperm := (hw.perm_cells hcolumn).filterMap Value.shown?
    rw [distinctValues_eq_none_iff hcolumn,
      distinctValues_eq_none_iff ((hw.hasColumn_iff name).mpr hcolumn), shownTexts, shownTexts,
      List.toFinset_eq_of_perm _ _ hperm]
  · intro d e hd he
    exact (lists_of_distinctValues hd).perm (lists_of_distinctValues he) (hw.perm_cells hcolumn)
  · rw [distinctValues, distinctValues, (sameTable_of_setPredicate hw).columnValues]
  · by_cases hcolumn : v.HasColumn name
    · obtain ⟨d, -, hscan⟩ := exists_distinctValues cap hcolumn
      simp [hscan, hcolumn]
    · rw [distinctValues_of_not_hasColumn cap hcolumn]
      simp [hcolumn, eq_comm]

def lettersView (letters : List Value) : View :=
  memory { table := ⟨"notes"⟩, columns := [.ofName "letter" .text], rows := letters.map ([·]) }

/-- Two letters are one too many for a cap of one, in this order and in the other, and not too many
for a cap of two. -/
theorem distinct_values_are_exact_letters :
    (lettersView [.text "b", .null, .text "a", .text "b"]).distinctValues (some 1) "letter" =
      .ok none ∧
    (lettersView [.text "b", .text "a", .null, .text "b"]).distinctValues (some 1) "letter" =
      .ok none ∧
    ∃ d : DistinctValues, d.Lists [.text "b", .null, .text "a", .text "b"] ∧
      (lettersView [.text "b", .null, .text "a", .text "b"]).distinctValues (some 2) "letter" =
        .ok (some d) := by
  have hcolumn : (lettersView [.text "b", .null, .text "a", .text "b"]).HasColumn "letter" :=
    ⟨_, List.mem_singleton_self _, rfl⟩
  obtain ⟨hnone, -, hreorders⟩ := (distinct_values_are_exact _ (some 1) "letter").1 hcolumn
  have hmany := hnone.mpr ⟨1, rfl, by decide⟩
  refine ⟨hmany, ?_, ?_⟩
  · refine (hreorders _ (.memory rfl ?_)).1.mpr hmany
    decide
  · obtain ⟨hnone, hsome, -⟩ := (distinct_values_are_exact _ (some 2) "letter").1 hcolumn
    have hfew : ¬ ∃ n, some 2 = some n ∧ n < (shownTexts
        ((lettersView [.text "b", .null, .text "a", .text "b"]).cells "letter")).toFinset.card := by
      rintro ⟨n, hn, hlt⟩
      cases hn
      exact absurd hlt (by decide)
    obtain ⟨d, hscan, hlists⟩ := hsome (mt hnone.mp hfew)
    exact ⟨d, hlists, hscan⟩

end View
end TableFilter
