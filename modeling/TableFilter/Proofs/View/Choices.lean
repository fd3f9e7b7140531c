import TableFilter.FilterBar.Operation
import TableFilter.Proofs.Filter.Fragment
import TableFilter.Proofs.Value.Symmetry
import TableFilter.Proofs.View.Distinct

/-!
# Choices divide the rows

A filter that offers the distinct values of a column has one entry for each row: null for a missing
cell, and the shown text otherwise. The entry of a row shows the row. If the case of letters counts,
no other entry does, but the one that shows all rows. So the entries divide the rows of the table,
provided that no cell shows the text that stands in for null.
-/

namespace TableFilter

theorem ChoiceFilter.offers_iff_mem {values : List String} {hasNull : Bool} {c : Choice} :
    offers values hasNull c ↔ c ∈ choices values hasNull := by
  cases c with
  | all => simp [offers, choices]
  | null => cases hasNull <;> simp [offers, choices]
  | value s => cases hasNull <;> simp [offers, choices]

namespace DistinctValues

variable {d : DistinctValues}

def filter (d : DistinctValues) : Filter := .ofStrategy (.ofValues d.values d.hasNull)

def choices (d : DistinctValues) : List Choice :=
  ChoiceFilter.choices (ChoiceFilter.sorted d.values) d.hasNull

def predicate (d : DistinctValues) (name : String) (c : Choice) : String :=
  (d.filter.editAll [.choose c]).1.fragment (Literal.columnRef name)

/-- After something on offer was chosen, the filter writes what stands for it. -/
theorem predicate_eq {c : Choice} (hc : c ∈ d.choices) (name : String) :
    d.predicate name c = ChoiceFilter.fragment (.choice c) (Literal.columnRef name) := by
  have hoffers : d.filter.offers c := ChoiceFilter.offers_iff_mem.mpr hc
  have hedit : d.filter.edit? (.choose c) = some (d.filter.put (.choice c)) := by
    change some (d.filter.put (if d.filter.offers c then .choice c else d.filter.input)) = _
    rw [if_pos hoffers]
  have hinput : (d.filter.put (.choice c)).1.input = .choice c := Widget.input_put _ _ rfl
  have hchosen : (d.filter.editAll [.choose c]).1 = (d.filter.put (.choice c)).1 := by
    simp only [Filter.editAll, hedit, Option.getD_some]
  rw [predicate, hchosen, Filter.fragment, hinput]
  rfl

theorem mem_choices {c : Choice} : c ∈ d.choices ↔
    c = .all ∨ (c = .null ∧ d.hasNull) ∨ ∃ s ∈ d.values, c = .value s := by
  have hsorted (s : String) : s ∈ ChoiceFilter.sorted d.values ↔ s ∈ d.values :=
    List.mem_mergeSort
  rw [choices, ChoiceFilter.choices, List.cons_append, List.mem_cons, List.mem_append,
    List.mem_map]
  refine or_congr_right (or_congr ?_ ?_)
  · cases d.hasNull <;> simp
  · simp only [hsorted, eq_comm]

end DistinctValues

def Value.choice (v : Value) : Choice := v.shown?.elim .null .value

namespace Value

variable {v : Value}

theorem choice_eq_null : v.choice = .null ↔ v = .null := by
  rw [← v.shown?_eq_none, choice]
  cases v.shown? <;> simp

theorem choice_eq_value {s : String} : v.choice = .value s ↔ v.shown? = some s := by
  rw [choice]
  cases v.shown? <;> simp

theorem choice_ne_all (v : Value) : v.choice ≠ .all := by
  rw [choice]
  cases v.shown? <;> simp

theorem eq_of_orderText {s t : String} (h : orderText true s t = .eq) : s = t :=
  Std.LawfulEqOrd.compare_eq_iff_eq.mp h

end Value

namespace View

variable {v : MemoryView} {name : String} {cap : Option Nat} {d : DistinctValues}

theorem distinctValues_eq_ok (h : (memory v).distinctValues cap name = .ok (some d)) :
    (memory v).Knows name ∧
      (∀ s, s ∈ d.values ↔ ∃ i < v.rows.length, ((memory v).row i name).shown? = some s) ∧
      (d.hasNull ↔ ∃ i < v.rows.length, (memory v).row i name = .null) := by
  have hlists := lists_of_distinctValues h
  refine ⟨hasColumn_of_distinctValues h, fun s => ?_, ?_⟩
  · rw [hlists.mem_iff, Value.mem_shownTexts]
    simp [cells, height]
  · rw [hlists.hasNull_iff]
    simp [cells, height]

/-- Beside all rows, exactly what stands for a cell of the column is offered. -/
theorem mem_choices_iff (h : (memory v).distinctValues cap name = .ok (some d)) {c : Choice} :
    c ∈ d.choices ↔
      c = .all ∨ ∃ i < v.rows.length, ((memory v).row i name).choice = c := by
  obtain ⟨-, hvalues, hnull⟩ := distinctValues_eq_ok h
  rw [DistinctValues.mem_choices, hnull]
  refine or_congr_right ?_
  cases c with
  | all => simp [Value.choice_ne_all]
  | null => simp [Value.choice_eq_null]
  | value s => simp [Value.choice_eq_value, hvalues]

end View

section Rows

variable {caseSensitive : Bool} {row : Row} {e : Expr} {name s : String}

theorem Expr.matchesRow_equal_text :
    (Expr.compare .eq (.convert e .text) (.literal (.text s))).matchesRow caseSensitive row ↔
      ∃ t, (e.eval caseSensitive row).shown? = some t ∧
        Value.orderText caseSensitive t s = .eq := by
  rw [matchesRow, truth, eval, Value.truth_ofTruth, eval, eval]
  cases e.eval caseSensitive row with
  | null => simp [Value.convert, Value.order, Value.towards, Value.orderAlike, Value.kind?,
      Value.shown?]
  | _ => simp [Value.convert, Value.order, Value.towards, Value.orderAlike, Value.kind?,
      Value.shown?, Comparison.holds]

/-- A cell that shows the text for null is taken for a missing one. -/
theorem Expr.matchesRow_nullTest : (Expr.compare .eq
    (.convert (.ifNull (.column name) (.literal (.text s))) .text)
      (.literal (.text s))).matchesRow caseSensitive row ↔
    row name = .null ∨
      ∃ t, (row name).shown? = some t ∧ Value.orderText caseSensitive t s = .eq := by
  rw [matchesRow_equal_text]
  cases hcell : row name with
  | null => simp [eval, hcell, Value.shown?, Value.orderText_self]
  | _ => simp [eval, hcell, Value.shown?]

end Rows

def Choice.Fits (caseSensitive : Bool) (cell : Value) : Choice → Prop
  | all => True
  | null => cell = .null
  | value s => ∃ t, cell.shown? = some t ∧ Value.orderText caseSensitive t s = .eq

theorem Choice.fits_choice (caseSensitive : Bool) (cell : Value) :
    cell.choice.Fits caseSensitive cell := by
  cases hc : cell.choice with
  | all => exact absurd hc cell.choice_ne_all
  | null => exact Value.choice_eq_null.mp hc
  | value s => exact ⟨s, Value.choice_eq_value.mp hc, Value.orderText_self _ _⟩

theorem Choice.eq_choice_of_fits {cell : Value} {c : Choice} (hc : c ≠ .all)
    (h : c.Fits true cell) : c = cell.choice := by
  cases c with
  | all => exact absurd rfl hc
  | null => exact (Value.choice_eq_null.mpr h).symm
  | value s =>
    obtain ⟨t, ht, heq⟩ := h
    rw [Value.eq_of_orderText heq] at ht
    exact (Value.choice_eq_value.mpr ht).symm

namespace View

variable {v w : View} {name : String}

/-- No cell of the column shows the text that stands in for null. -/
def LacksSentinel (v : View) (name : String) : Prop :=
  ∀ i < v.height, ∀ s, (v.row i name).shown? = some s →
    Value.orderText v.caseSensitive s Literal.nullSentinel ≠ .eq

/-- The table accepts what stands for an entry, and then shows the rows whose cell fits. -/
theorem exists_shows_choice (hn : name ≠ "") (hknown : v.Knows name) (hlacks : v.LacksSentinel name)
    (c : Choice) : ∃ w,
      v.setPredicate (ChoiceFilter.fragment (.choice c) (Literal.columnRef name)) = .ok w ∧
        ∀ i, w.Shows i ↔ i < v.height ∧ c.Fits v.caseSensitive (v.row i name) := by
  have hreads {p : String} {e : Expr} (hr : Reads .disjunction p e)
      (hmentions : e.mentions = [name]) : ∃ w, v.setPredicate p = .ok w ∧
        ∀ i, w.Shows i ↔ i < v.height ∧ e.matchesRow v.caseSensitive (v.row i) :=
    exists_shows_of_reads hr (by simpa [hmentions] using hknown)
  have hcolumn := (Reads.columnRef hn).disjunction_of_operand
  cases c with
  | all =>
    have hblank : StandsFor (ChoiceFilter.fragment (.choice .all) (Literal.columnRef name)) none :=
      standsFor_none.mpr rfl
    obtain ⟨w, hw⟩ := exists_setPredicate.mpr ⟨none, hblank, by simp⟩
    refine ⟨w, hw, fun i => (shows_iff_of_setPredicate hw hblank i).trans ?_⟩
    exact and_congr_right fun _ => iff_of_true rfl trivial
  | null =>
    obtain ⟨w, hw, hshows⟩ :=
      hreads (PresenceFilter.reads_nullTest hn true).disjunction_of_comparison rfl
    refine ⟨w, hw, fun i => (hshows i).trans (and_congr_right fun hi => ?_)⟩
    rw [if_pos rfl, Expr.matchesRow_nullTest]
    refine or_iff_left ?_
    rintro ⟨t, ht, heq⟩
    exact hlacks i hi t ht heq
  | value s =>
    obtain ⟨w, hw, hshows⟩ :=
      hreads (hcolumn.asText.equal (Reads.quote s)).disjunction_of_comparison rfl
    refine ⟨w, hw, fun i => (hshows i).trans (and_congr_right fun _ => ?_)⟩
    exact Expr.matchesRow_equal_text

end View

namespace View

/-- The list of the distinct values of a column divides the rows. -/
theorem choices_divide_rows {v : MemoryView} {name : String} {cap : Option Nat} {d : DistinctValues}
    (hn : name ≠ "") (hscan : (memory v).distinctValues cap name = .ok (some d))
    (hlacks : (memory v).LacksSentinel name) :
    ∃ shown : Choice → View,
      (∀ c ∈ d.choices, (memory v).setPredicate (d.predicate name c) = .ok (shown c)) ∧
      (∀ i < v.rows.length, ((memory v).row i name).choice ∈ d.choices ∧
        ((memory v).row i name).choice ≠ .all ∧
        (shown ((memory v).row i name).choice).Shows i ∧
        (v.caseSensitive → ∀ c ∈ d.choices, c ≠ .all → (shown c).Shows i →
          c = ((memory v).row i name).choice)) ∧
      (.null ∈ d.choices → ∀ i, (shown .null).Shows i ↔
        i < v.rows.length ∧ (memory v).row i name = .null) ∧
      (∀ c ∈ d.choices, c ≠ .all → ∃ i, (shown c).Shows i) ∧
      ∀ i, (shown .all).Shows i ↔ i < v.rows.length := by
  obtain ⟨hknown, -, -⟩ := distinctValues_eq_ok hscan
  choose shown hset hshows using exists_shows_choice hn hknown hlacks
  have hown : ∀ i < v.rows.length, (shown ((memory v).row i name).choice).Shows i :=
    fun i hi => (hshows _ i).mpr ⟨hi, Choice.fits_choice _ _⟩
  refine ⟨shown, ?_, ?_, ?_, ?_, ?_⟩
  · intro c hc
    rw [d.predicate_eq hc]
    exact hset c
  · intro i hi
    refine ⟨(mem_choices_iff hscan).mpr (.inr ⟨i, hi, rfl⟩), Value.choice_ne_all _, hown i hi, ?_⟩
    intro hcase c _ hall hshown
    have hfits := ((hshows c i).mp hshown).2
    rw [show (memory v).caseSensitive = true from hcase] at hfits
    exact Choice.eq_choice_of_fits hall hfits
  · exact fun _ => hshows .null
  · intro c hc hall
    obtain ⟨i, hi, rfl⟩ := ((mem_choices_iff hscan).mp hc).resolve_left hall
    exact ⟨i, hown i hi⟩
  · intro i
    rw [hshows]
    exact and_iff_left trivial

def tagsView (rows : List (List Value)) : MemoryView :=
  { table := ⟨"notes"⟩, columns := [.ofName "tag" .enumerable], rows, caseSensitive := true }

/-- Null shows the row without a tag and no other one. -/
theorem choices_divide_rows_tags : ∃ w,
    (memory (tagsView [[.text "home"], [.null], [.text "work"]])).setPredicate
      (DistinctValues.predicate ⟨["home", "work"], true⟩ "tag" .null) = .ok w ∧
    ∀ i, w.Shows i ↔ i = 1 := by
  let v := tagsView [[.text "home"], [.null], [.text "work"]]
  have hlacks : (memory v).LacksSentinel "tag" := by
    intro i hi s hs
    match i, hi with
    | 0, _ =>
      rw [← show "home" = s from Option.some.inj hs]
      decide
    | 1, _ => cases hs
    | 2, _ =>
      rw [← show "work" = s from Option.some.inj hs]
      decide
  have hscan : (memory v).distinctValues none "tag" = .ok (some ⟨["home", "work"], true⟩) := rfl
  obtain ⟨shown, hset, -, hnull, -⟩ := choices_divide_rows (by decide) hscan hlacks
  have hoffered : Choice.null ∈ DistinctValues.choices ⟨["home", "work"], true⟩ :=
    DistinctValues.mem_choices.mpr (.inr (.inl ⟨rfl, rfl⟩))
  refine ⟨shown .null, hset .null hoffered, fun i => (hnull hoffered i).trans ?_⟩
  constructor
  · rintro ⟨hi, hcell⟩
    match i, hi with
    | 0, _ => cases hcell
    | 1, _ => rfl
    | 2, _ => cases hcell
  · rintro rfl
    exact ⟨by decide, rfl⟩

/-- In a table without rows the choice of all rows is on offer, although there is none to show. -/
theorem all_shows_nothing_without_rows : ∃ (d : DistinctValues) (w : View),
    (memory (tagsView [])).distinctValues none "tag" = .ok (some d) ∧
      (memory (tagsView [])).LacksSentinel "tag" ∧ .all ∈ d.choices ∧
      (memory (tagsView [])).setPredicate (d.predicate "tag" .all) = .ok w ∧ ¬ ∃ i, w.Shows i := by
  have hoffered : Choice.all ∈ DistinctValues.choices {} :=
    DistinctValues.mem_choices.mpr (.inl rfl)
  have hset : (memory (tagsView [])).setPredicate (DistinctValues.predicate {} "tag" .all) =
      .ok (memory { tagsView [] with applied := 1 }) := rfl
  refine ⟨{}, _, rfl, ?_, hoffered, hset, ?_⟩
  · intro i hi
    cases hi
  · rintro ⟨i, hi⟩
    cases hi

end View
end TableFilter
