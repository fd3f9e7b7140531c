import TableFilter.Proofs.FilterBar.Rebinding
import TableFilter.Proofs.View.Rows

/-!
# Custom filters narrow

A custom filter that can be read by itself takes rows away and brings none back: the rows that are
visible under it are those that satisfy the rest of the predicate and the custom filter as well. The
custom filter is put between parentheses as it is, so that one which closes a parenthesis that it
has not opened ends the conjunction early and brings other rows back.
-/

namespace TableFilter

open Text

namespace Predicate

/-- Without a custom filter the predicate is only trimmed. -/
theorem narrow_empty (s : String) : narrow s "" = trim s := by
  have hempty : trim "" = "" := rfl
  by_cases hs : trim s = ""
  · simp [narrow, join, present, hempty, hs]
  · simp [narrow, join, present, hempty, hs]

theorem standsFor_narrow_empty {s : String} {o : Option Expr} :
    StandsFor (narrow s "") o ↔ StandsFor s o := by
  rw [narrow_empty]
  cases o with
  | none => rw [StandsFor, StandsFor, trim_trim]
  | some e => rw [StandsFor, StandsFor, trim_trim]

/-- The row satisfies a part by itself, as every row does if the part is blank. -/
def Keeps (caseSensitive : Bool) (row : Row) (s : String) : Prop :=
  ∀ t ∈ partTruth? caseSensitive row s, t = some true

variable {s u : String} {e f : Option Expr} (caseSensitive : Bool) (row : Row)

theorem keeps_iff_of_standsFor (h : StandsFor s e) :
    Keeps caseSensitive row s ↔ shows caseSensitive e row := by
  rw [Keeps, partTruth?_of_standsFor _ _ h]
  cases e with
  | none => simp [shows]
  | some e => simp [shows, Expr.matchesRow]

theorem shows_and_merge : shows caseSensitive (Connective.and.merge e f) row ↔
    shows caseSensitive e row ∧ shows caseSensitive f row := by
  cases e with
  | none => cases f <;> simp [shows, Connective.merge]
  | some e =>
    cases f with
    | none => simp [shows, Connective.merge]
    | some f =>
      simp only [shows, Connective.merge, Option.merge, Option.all_some, Expr.matchesRow_and]

end Predicate

namespace FilterBar

open Predicate

variable {bar : FilterBar}

/-- The visible rows are those that satisfy the custom filter among those that satisfy the rest. -/
theorem custom_filter_narrows {u : String} {view : View}
    (hrest : IsPart { bar with customFilter := "" }.compose) (hu : IsPart u)
    (h : bar.view.setPredicate { bar with customFilter := u }.compose = .ok view) (i : Nat) :
    view.Shows i ↔ i < bar.view.height ∧
      Keeps bar.view.caseSensitive (bar.view.row i) { bar with customFilter := "" }.compose ∧
      Keeps bar.view.caseSensitive (bar.view.row i) u := by
  obtain ⟨rest, hr⟩ := hrest.exists_standsFor
  obtain ⟨custom, hc⟩ := hu.exists_standsFor
  have hmerged := standsFor_narrow_empty.mp (compose_eq ▸ hr)
  have hwhole : StandsFor { bar with customFilter := u }.compose
      (Connective.and.merge rest custom) := by
    rw [compose_eq]
    exact standsFor_narrow hmerged hc
  rw [View.shows_iff_of_setPredicate h hwhole, shows_and_merge, keeps_iff_of_standsFor _ _ hr,
    keeps_iff_of_standsFor _ _ hc]

def adultBar : FilterBar where
  view := .memory
    { table := ⟨"people"⟩, columns := [.ofName "adult" .boolean]
      rows := [[.bool true], [.bool false]] }
  bindings := [⟨"adult", "adult", ⟨.boolean, { input := .check .true }⟩⟩]
  factory := .ofSettings {}
  baseEnabled := true
  baseOperator := .and
  operator := .and
  refreshMode := .onInput
  memory := {}
  reporter := {}

theorem compose_adultBar (u : String) : { adultBar with customFilter := u }.compose =
    Predicate.narrow "[adult] = true" u := by
  have hactive : { adultBar with customFilter := u }.active = adultBar.active := rfl
  have hone : adultBar.active = [(0, "[adult] = true")] := by decide
  have hmerged : merge .and (join .and ["[adult] = true"]) adultBar.baseInForce =
      "[adult] = true" := by decide
  rw [compose_of_active_singleton (hactive.trans hone)]
  exact congrArg (narrow · u) hmerged

theorem knows_adult : adultBar.view.Knows "adult" :=
  ⟨.ofName "adult" .boolean, List.mem_singleton_self _, rfl⟩

theorem reads_adult (b : Bool) : Reads .comparison ("[adult] = " ++ Value.boolText b)
    (.compare .eq (.column "adult") (.literal (.bool b))) := by
  have hn : "adult" ≠ "" := by decide
  exact (Reads.columnRef hn).equal (.boolText b)

theorem standsFor_adults : StandsFor { adultBar with customFilter := "" }.compose
    (some (.compare .eq (.column "adult") (.literal (.bool true)))) := by
  rw [compose_adultBar, standsFor_narrow_empty]
  exact .of_reads (reads_adult true).disjunction_of_comparison

/-- A child stays hidden although the custom filter asks for children. -/
theorem custom_filter_narrows_adults : ∃ view,
    adultBar.view.setPredicate { adultBar with customFilter := "[adult] = false" }.compose =
      .ok view ∧ ¬ view.Shows 1 := by
  have hadult := (reads_adult true).disjunction_of_comparison.inParentheses
  have hchild := (reads_adult false).disjunction_of_comparison
  have hwhole := hadult.comparison_of_operand.negation_of_comparison.conjunction_of_negation.and
    hchild.inParentheses.comparison_of_operand.negation_of_comparison
  obtain ⟨view, hview⟩ := View.exists_setPredicate_of_reads (v := adultBar.view)
    hwhole.disjunction_of_conjunction (by simpa [Expr.mentions] using knows_adult)
  have hcompose : { adultBar with customFilter := "[adult] = false" }.compose =
      "([adult] = true) AND ([adult] = false)" := by
    rw [compose_adultBar]
    decide
  refine ⟨view, hcompose ▸ hview, fun hshows => ?_⟩
  have hkeeps := (custom_filter_narrows (.inr ⟨_, standsFor_some.mp standsFor_adults⟩)
    (.inr ⟨_, Expr.ofText_of_reads hchild⟩) (hcompose ▸ hview) 1).mp hshows
  rw [keeps_iff_of_standsFor _ _ standsFor_adults] at hkeeps
  exact absurd hkeeps.2.1 (by decide)

/-- A custom filter that closes a parenthesis that it has not opened shows the child. -/
theorem unbalanced_custom_filter_widens : ∃ view,
    adultBar.view.setPredicate { adultBar with customFilter := "true) OR (true" }.compose =
      .ok view ∧
    ∃ i, view.Shows i ∧
      ¬ Keeps adultBar.view.caseSensitive (adultBar.view.row i)
        { adultBar with customFilter := "" }.compose := by
  have htrue : Reads .operand "(true)" (.literal (.bool true)) :=
    (Reads.boolText true).disjunction_of_operand.inParentheses
  have hadult : Reads .operand "([adult] = true)"
      (.compare .eq (.column "adult") (.literal (.bool true))) :=
    (reads_adult true).disjunction_of_comparison.inParentheses
  have hconj := hadult.comparison_of_operand.negation_of_comparison.conjunction_of_negation.and
    htrue.comparison_of_operand.negation_of_comparison
  have hwhole := hconj.disjunction_of_conjunction.or
    htrue.comparison_of_operand.negation_of_comparison.conjunction_of_negation
  have hcompose : { adultBar with customFilter := "true) OR (true" }.compose =
      "([adult] = true) AND (true) OR (true)" := by
    rw [compose_adultBar]
    decide
  obtain ⟨view, hview⟩ := View.exists_setPredicate_of_reads (v := adultBar.view) hwhole (by
    simpa [Expr.mentions] using knows_adult)
  refine ⟨view, hcompose ▸ hview, 1, ?_, ?_⟩
  · rw [View.shows_iff_of_setPredicate hview (.of_reads hwhole)]
    decide
  · rw [keeps_iff_of_standsFor _ _ standsFor_adults]
    decide

end FilterBar
end TableFilter
