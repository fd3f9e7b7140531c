import TableFilter.Proofs.Filter.Fragment
import TableFilter.Proofs.FilterBar.Arrangement
import TableFilter.Proofs.Predicate.Compose

/-!
# What the predicate of a bar means

The predicate that a bar composes is a text that is read again by the table. It means what its parts
mean: the truth of the whole in a row is made of the truths of the filters, of the base filter and
of the custom filter, each read by itself, joined by the connectives of the bar.
-/

namespace TableFilter

open Text

namespace Predicate

def truth (caseSensitive : Bool) (row : Row) (s : String) : Option Bool :=
  (Expr.ofText s).toOption.bind (·.truth caseSensitive row)

/-- The truth of a part, none if the part is blank. -/
def partTruth? (caseSensitive : Bool) (row : Row) (s : String) : Option (Option Bool) :=
  if isBlankText s then none else some (truth caseSensitive row s)

def IsPart (s : String) : Prop := isBlankText s ∨ ∃ e, Expr.ofText s = .ok e

section Parts

variable {s : String} {e : Expr} (caseSensitive : Bool) (row : Row)

theorem truth_of_ofText (h : Expr.ofText s = .ok e) :
    truth caseSensitive row s = e.truth caseSensitive row := by
  rw [truth, h]
  rfl

theorem IsPart.exists_standsFor (h : IsPart s) : ∃ o, StandsFor s o := by
  rcases h with h | ⟨e, h⟩
  · exact ⟨none, standsFor_none.mpr h⟩
  · exact ⟨some e, standsFor_some.mpr h⟩

theorem isBlankText_iff_of_standsFor {o : Option Expr} (h : StandsFor s o) :
    isBlankText s ↔ o = none := by
  cases o with
  | none =>
    have hb := standsFor_none.mp h
    simp [hb]
  | some e =>
    have hne := Reads.ne_empty h
    rw [isBlankText_iff]
    simp [hne]

theorem partTruth?_of_standsFor {o : Option Expr} (h : StandsFor s o) :
    partTruth? caseSensitive row s = o.map (Expr.truth caseSensitive row) := by
  have hb := isBlankText_iff_of_standsFor h
  cases o with
  | none => rw [partTruth?, if_pos (hb.mpr rfl), Option.map_none]
  | some e =>
    rw [partTruth?, if_neg (by simp [hb]), truth_of_ofText _ _ (standsFor_some.mp h),
      Option.map_some]

theorem map_truth_of_forall₂ {ss : List String} {es : List Expr}
    (h : List.Forall₂ (fun s e => StandsFor s (some e)) ss es) :
    ss.map (truth caseSensitive row) = es.map (Expr.truth caseSensitive row) := by
  induction h with
  | nil => rfl
  | cons h _ ih =>
    rw [List.map_cons, List.map_cons, ih, truth_of_ofText _ _ (standsFor_some.mp h)]

end Parts

end Predicate

def Binding.expr (b : Binding) : Expr := (Expr.ofText b.fragment).toOption.getD (.literal .null)

namespace FilterBar

open Predicate

def baseInForce (bar : FilterBar) : String := if bar.baseEnabled then bar.baseFilter else ""

variable {bar : FilterBar}

theorem compose_eq : bar.compose = narrow
    (merge bar.baseOperator (join bar.operator bar.fragments) bar.baseInForce)
    bar.customFilter := rfl

section Compose

variable {es : List Expr} {base custom : Option Expr}
  (hf : List.Forall₂ (fun s e => StandsFor s (some e)) bar.fragments es)
  (hb : StandsFor bar.baseInForce base) (hc : StandsFor bar.customFilter custom)

/-- The expression that the predicate of a bar stands for. -/
def composed? (bar : FilterBar) (es : List Expr) (base custom : Option Expr) : Option Expr :=
  Connective.and.merge (bar.baseOperator.merge (bar.operator.joinAll es) base) custom

include hf in
theorem standsFor_fragments :
    StandsFor (join bar.operator bar.fragments) (bar.operator.joinAll es) := by
  have hj := standsFor_join bar.operator (List.forall₂_map_right_iff.mpr hf)
  have hes : (es.map some).reduceOption = es := by
    rw [List.reduceOption, List.filterMap_map]
    exact List.filterMap_some
  rwa [hes] at hj

include hf hb hc in
theorem standsFor_compose : StandsFor bar.compose (bar.composed? es base custom) :=
  standsFor_narrow (standsFor_merge _ (standsFor_fragments hf) hb) hc

theorem composed?_eq_none (bar : FilterBar) :
    bar.composed? es base custom = none ↔ es = [] ∧ base = none ∧ custom = none := by
  cases es <;> cases base <;> cases custom <;>
    simp [composed?, Connective.merge, Connective.joinAll]

include hf hb hc in
theorem compose_eq_empty : bar.compose = "" ↔ es = [] ∧ base = none ∧ custom = none := by
  constructor
  · intro h
    rw [← composed?_eq_none bar]
    have hs := standsFor_compose hf hb hc
    cases hn : bar.composed? es base custom with
    | none => rfl
    | some e =>
      rw [hn, h] at hs
      exact absurd rfl (Reads.ne_empty hs)
  · rintro ⟨rfl, rfl, rfl⟩
    have hm := standsFor_merge bar.baseOperator (standsFor_fragments hf) hb
    rw [compose_eq, narrow]
    exact join_eq_empty .and (.cons hm (.cons hc .nil)) rfl

theorem truth_composed? (bar : FilterBar) (es : List Expr) (base custom : Option Expr)
    (caseSensitive : Bool) (row : Row) :
    (bar.composed? es base custom).map (Expr.truth caseSensitive row) =
      Option.merge Connective.and.kleene
        (Option.merge bar.baseOperator.kleene
          (bar.operator.kleeneAll (es.map (Expr.truth caseSensitive row)))
          (base.map (Expr.truth caseSensitive row)))
        (custom.map (Expr.truth caseSensitive row)) := by
  rw [composed?, Connective.truth_merge, Connective.truth_merge, Connective.truth_joinAll]

end Compose

theorem column?_of_mem_arranged {p : Placed} (hp : p ∈ bar.arranged) :
    ∃ c, bar.view.column? p.binding.column = some c ∧ c ∈ bar.view.columns ∧
      c.name = p.binding.column := by
  obtain ⟨-, -, c, hc, -⟩ := mem_placedInBar.mp (List.mem_mergeSort.mp hp)
  exact ⟨c, hc, List.mem_of_find?_eq_some hc, by simpa using List.find?_some hc⟩

/-- A filter that takes part stands for an expression over its column alone. -/
theorem expr_of_mem_arranged (hnames : ∀ c ∈ bar.view.columns, c.name ≠ "") {p : Placed}
    (hp : p ∈ bar.arranged) : Expr.ofText p.binding.fragment = .ok p.binding.expr ∧
      p.binding.expr.columns = [p.binding.column] := by
  obtain ⟨-, hactive, -⟩ := mem_placedInBar.mp (List.mem_mergeSort.mp hp)
  obtain ⟨c, -, hc, hname⟩ := column?_of_mem_arranged hp
  have hn : p.binding.column ≠ "" := hname ▸ hnames c hc
  have hf : p.binding.fragment = p.binding.filter.fragment p.binding.ref := if_pos hactive
  obtain ⟨e, he, hcolumns⟩ := Strategy.readsOver_fragment hn hactive
  have hread : Expr.ofText p.binding.fragment = .ok e := by
    rw [hf]
    exact Expr.ofText_of_reads he
  have hexpr : p.binding.expr = e := by
    rw [Binding.expr, hread]
    rfl
  rw [hexpr]
  exact ⟨hread, hcolumns⟩

def exprs (bar : FilterBar) : List Expr := bar.arranged.map (·.binding.expr)

theorem standsFor_exprs (hnames : ∀ c ∈ bar.view.columns, c.name ≠ "") :
    List.Forall₂ (fun s e => StandsFor s (some e)) bar.fragments bar.exprs := by
  rw [fragments_eq_map, exprs, List.forall₂_map_left_iff, List.forall₂_map_right_iff,
    List.forall₂_same]
  exact fun p hp => standsFor_some.mpr (expr_of_mem_arranged hnames hp).1

/-- The predicate of a bar is blank if nothing takes part in it. Otherwise it can be read, and its
truth is made of the truths of its parts. -/
theorem compose_means_parts (bar : FilterBar) (hnames : ∀ c ∈ bar.view.columns, c.name ≠ "")
    (hnodup : (bar.view.columns.map (·.name)).Nodup) (hbase : IsPart bar.baseInForce)
    (hcustom : IsPart bar.customFilter) :
    ∃ placed, bar.Arranges placed ∧
      (∀ p ∈ placed, ∃ e, Expr.ofText p.binding.fragment = .ok e) ∧
      (bar.compose = "" ↔
        placed = [] ∧ isBlankText bar.baseInForce ∧ isBlankText bar.customFilter) ∧
      (bar.compose ≠ "" → ∃ e, Expr.ofText bar.compose = .ok e ∧
        ∀ caseSensitive row, some (e.truth caseSensitive row) =
          Option.merge Connective.and.kleene
            (Option.merge bar.baseOperator.kleene
              (bar.operator.kleeneAll
                (placed.map fun p => truth caseSensitive row p.binding.fragment))
              (partTruth? caseSensitive row bar.baseInForce))
            (partTruth? caseSensitive row bar.customFilter)) := by
  have ha := arranges_arranged hnodup
  have hes := standsFor_exprs hnames
  obtain ⟨base, hb⟩ := hbase.exists_standsFor
  obtain ⟨custom, hc⟩ := hcustom.exists_standsFor
  refine ⟨bar.arranged, ha, fun p hp => ⟨_, (expr_of_mem_arranged hnames hp).1⟩, ?_, fun hne => ?_⟩
  · rw [compose_eq_empty hes hb hc, exprs, List.map_eq_nil_iff, isBlankText_iff_of_standsFor hb,
      isBlankText_iff_of_standsFor hc]
  · have hs := standsFor_compose hes hb hc
    cases hcomposed : bar.composed? bar.exprs base custom with
    | none =>
      have hempty := (compose_eq_empty hes hb hc).mpr ((composed?_eq_none bar).mp hcomposed)
      exact absurd hempty hne
    | some e =>
      rw [hcomposed] at hs
      refine ⟨e, standsFor_some.mp hs, fun caseSensitive row => ?_⟩
      have ht := bar.truth_composed? bar.exprs base custom caseSensitive row
      rw [hcomposed, Option.map_some] at ht
      have hmap : (bar.arranged.map fun p => truth caseSensitive row p.binding.fragment) =
          bar.fragments.map (truth caseSensitive row) := by
        rw [fragments_eq_map, List.map_map]
        rfl
      rw [ht, partTruth?_of_standsFor _ _ hb, partTruth?_of_standsFor _ _ hc, hmap,
        map_truth_of_forall₂ _ _ hes]

def peopleBar : FilterBar where
  view := .memory
    { table := ⟨"people"⟩, columns := [.ofName "na]me" .text, .ofName "adult" .boolean] }
  bindings :=
    [⟨"na]me", "na]me", ⟨.text, { input := .text "O'N" }⟩⟩,
     ⟨"adult", "adult", ⟨.boolean, { input := .check .true }⟩⟩]
  factory := .ofSettings {}
  baseFilters := [(⟨"people"⟩, "[adult] = true")]
  baseEnabled := true
  baseOperator := .or
  operator := .and
  customFilter := "[adult] = true OR [adult] = false"
  refreshMode := .onInput
  memory := {}
  reporter := {}

theorem compose_peopleBar_can_be_read : ∃ e, Expr.ofText peopleBar.compose = .ok e := by
  have hn : "adult" ≠ "" := by decide
  have htrue := ((Reads.columnRef hn).equal (.boolText true)).disjunction_of_comparison
  have hfalse := ((Reads.columnRef hn).equal (.boolText false)).negation_of_comparison
  have hcustom := htrue.or hfalse.conjunction_of_negation
  obtain ⟨placed, -, -, hempty, hread⟩ := compose_means_parts peopleBar (by decide) (by decide)
    (.inr ⟨_, Expr.ofText_of_reads htrue⟩) (.inr ⟨_, Expr.ofText_of_reads hcustom⟩)
  have hblank : ¬ isBlankText peopleBar.customFilter := by decide
  obtain ⟨e, he, -⟩ := hread fun h => hblank (hempty.mp h).2.2
  exact ⟨e, he⟩

end FilterBar
end TableFilter
