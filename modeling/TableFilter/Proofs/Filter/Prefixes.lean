import TableFilter.Filter.Edit
import TableFilter.Proofs.Filter.Fragment
import TableFilter.Proofs.Predicate.Comparing
import TableFilter.Proofs.Predicate.Glob
import TableFilter.Proofs.View.Rows

/-!
# Texts that begin with an input

A pattern asks a text to consist of runs that its characters stand for. A text filter writes a
pattern with one wildcard, behind its input, and so a table in which case counts shows the rows
whose cell has a text that begins with the input, unless the input brings wildcards of its own.
-/

namespace TableFilter

open Text Literal

namespace Like

theorem isWildcard_iff {c : Char} : isWildcard c ↔ c = '*' ∨ c = '%' := by simp [isWildcard]

end Like

theorem Expr.matchesRow_like_text {caseSensitive : Bool} {row : Row} {name pattern : String} :
    (Expr.like (.column name) (.literal (.text pattern))).matchesRow caseSensitive row ↔
      ∃ s, (row name).shown? = some s ∧ Like.accepts caseSensitive pattern s := by
  simp [matchesRow_like, eval, Value.shown?]

namespace Like

/-- A pattern is always turned into the text of a regular expression. If case counts, this is found
in exactly the texts that consist of runs for the characters of the pattern, where the two
wildcards stand for any run and every other character for itself, and these are the texts that the
pattern accepts. So a text filter without wildcards shows the rows whose cell has a text that
begins with the input. -/
theorem globs_and_prefixes :
    (∀ pattern : String, ∃ r, Regex.ofText? (regexText true pattern) = some r ∧ ∀ text : String,
      (r.Finds text.toList ↔
        ∃ runs, List.Forall₂ (fun p run => p = '*' ∨ p = '%' ∨ run = [p]) pattern.toList runs ∧
          text.toList = runs.flatten) ∧
      (accepts true pattern text ↔ r.Finds text.toList)) ∧
    ∀ (f : Filter) (name : String) (v : View), f.strategy = .text → f.isActive → name ≠ "" →
      (∀ c ∈ (TextFilter.entered f.input).toList, c ≠ '*' ∧ c ≠ '%') → v.caseSensitive →
      v.Knows name → ∃ w, v.setPredicate (f.fragment (columnRef name)) = .ok w ∧
        ∀ i, w.Shows i ↔ i < v.height ∧ ∃ s, (v.row i name).shown? = some s ∧
          (TextFilter.entered f.input).toList <+: s.toList := by
  constructor
  · intro pattern
    refine ⟨regexOf true pattern.toList, regex?_eq true pattern, fun text => ?_⟩
    have hfills : Fills true = fun p run => p = '*' ∨ p = '%' ∨ run = [p] := by
      funext p run
      rw [fills_true, isWildcard_iff, or_assoc]
    rw [accepts_iff_splits, finds_regexOf, Splits, hfills]
    exact ⟨.rfl, .rfl⟩
  · intro f name v hf hactive hn hinput hcase hknown
    have hfragment (ref : String) : f.fragment ref = TextFilter.fragment f.input ref := by
      rw [Filter.fragment, hf]
      rfl
    have hentered : TextFilter.isActive f.input := by
      rw [Filter.isActive, hf] at hactive
      exact hactive
    have hordinary : ∀ p ∈ (TextFilter.entered f.input).toList, isWildcard p = false := by
      intro p hp
      rw [Bool.eq_false_iff, ne_eq, isWildcard_iff, not_or]
      exact hinput p hp
    have hr := (TextFilter.reads_fragment hn hentered).disjunction_of_comparison
    obtain ⟨w, hw, hshows⟩ := View.exists_shows_of_reads hr (by simpa [Expr.mentions] using hknown)
    refine ⟨w, (hfragment _).symm ▸ hw, fun i => ?_⟩
    have hpattern : (TextFilter.entered f.input ++ "*").toList =
        (TextFilter.entered f.input).toList ++ ['*'] := String.toList_append
    rw [hshows, hcase, Expr.matchesRow_like_text]
    simp only [accepts_iff_splits, hpattern, Splits.iff_isPrefix hordinary]

def pricesView : View :=
  .memory {
    table := ⟨"prices"⟩, columns := [.ofName "a]b" .text], caseSensitive := true
    rows := [[.text "1.'x"], [.number ⟨false, 150, 2, by decide, by decide⟩], [.null], [.text "10"]] }

/-- A point stands for itself, and a number begins with its digits. -/
theorem globs_and_prefixes_point : ∃ w, pricesView.setPredicate "[a\\]b] LIKE '1.*'" = .ok w ∧
    ∀ i, w.Shows i ↔ i = 0 ∨ i = 1 := by
  let f : Filter := ⟨.text, { input := .text "1." }⟩
  have hfragment : f.fragment (columnRef "a]b") = "[a\\]b] LIKE '1.*'" := by decide
  have hentered : TextFilter.entered f.input = "1." := by decide
  have hknown : pricesView.Knows "a]b" := ⟨_, List.mem_singleton_self _, rfl⟩
  obtain ⟨w, hw, hshows⟩ := globs_and_prefixes.2 f "a]b" pricesView rfl (by decide) (by decide)
    (by simp [hentered]) rfl hknown
  refine ⟨w, hfragment ▸ hw, fun i => (hshows i).trans ?_⟩
  simp only [← List.isPrefixOf_iff_prefix, ← Option.any_eq_true]
  match i with
  | 0 | 1 | 2 | 3 => decide
  | i + 4 =>
    have hheight : pricesView.height = 4 := rfl
    omega

end Like

end TableFilter
