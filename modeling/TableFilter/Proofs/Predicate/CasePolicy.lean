import Mathlib.Data.String.Basic
import TableFilter.Proofs.Predicate.Comparing
import TableFilter.Proofs.Predicate.Glob
import TableFilter.Proofs.Text.Folding

/-!
# Patterns without wildcards, and equality

A pattern without wildcards asks for a text that is the same as the pattern. Where case does not
count, the pattern compares foldings and equality compares lowered texts, and the two agree on texts
of which every character is lowered to its folding. A text with any other character is judged
differently by the two beside some pattern.
-/

namespace TableFilter

open Text

variable {caseSensitive : Bool} {t p : String}

namespace Value

theorem order_text_eq_iff : (text t).order true (text p) = some .eq ↔ t = p := by
  change some (compare t p) = some .eq ↔ t = p
  rw [Option.some.injEq, compare_eq_iff_eq]

theorem order_text_lower_eq_iff : (text t).order false (text p) = some .eq ↔
    lowerAfter [] t.toList = lowerAfter [] p.toList := by
  change some (compare (lower t) (lower p)) = some .eq ↔ _
  rw [Option.some.injEq, compare_eq_iff_eq, lower, lower, String.ofList_inj]

end Value

theorem Like.Splits.iff_fold {pattern text : List Char} (h : ∀ p ∈ pattern, isWildcard p = false) :
    Splits false pattern text ↔ text.map foldChar = pattern.map foldChar := by
  rw [iff_forall₂ h, eq_comm, ← List.forall₂_eq_eq_eq, List.forall₂_map_left_iff,
    List.forall₂_map_right_iff]
  simp [sameChar]

namespace Expr

variable {row : Row} {l r : Expr}

theorem matchesRow_like_iff (hl : l.eval caseSensitive row = .text t)
    (hr : r.eval caseSensitive row = .text p) :
    (like l r).matchesRow caseSensitive row ↔ Like.accepts caseSensitive p t := by
  simp [matchesRow_like, hl, hr, Value.shown?]

theorem matchesRow_equal_iff : (compare .eq l r).matchesRow caseSensitive row ↔
    (l.eval caseSensitive row).order caseSensitive (r.eval caseSensitive row) = some .eq := by
  simp [matchesRow_compare, Comparison.holds]

end Expr

namespace Like

/-- Beside a pattern without wildcards, a pattern match says the same as equality where case counts,
and where it does not, too, if every character of both texts is lowered to its folding. Every text
with another character is judged differently by the two beside some pattern. -/
theorem like_agrees_with_equality (row : Row) (l : Expr) (t : String) :
    (∀ (caseSensitive : Bool) (r : Expr) (p : String), l.eval caseSensitive row = .text t →
      r.eval caseSensitive row = .text p → (∀ c ∈ p.toList, c ≠ '*' ∧ c ≠ '%') →
      (caseSensitive = false → IsPlain [] t.toList ∧ IsPlain [] p.toList) →
      ((Expr.like l r).matchesRow caseSensitive row ↔
        (Expr.compare .eq l r).matchesRow caseSensitive row)) ∧
    (l.eval false row = .text t → (∀ c ∈ t.toList, c ≠ '*' ∧ c ≠ '%') → ¬ IsPlain [] t.toList →
      ∃ p : String, (∀ c ∈ p.toList, c ≠ '*' ∧ c ≠ '%') ∧
        ¬ ((Expr.like l (.literal (.text p))).matchesRow false row ↔
          (Expr.compare .eq l (.literal (.text p))).matchesRow false row)) := by
  have hordinary {cs : List Char} (h : ∀ c ∈ cs, c ≠ '*' ∧ c ≠ '%') :
      ∀ c ∈ cs, isWildcard c = false := by
    intro c hc
    simpa [isWildcard] using h c hc
  constructor
  · intro caseSensitive r p hl hr hp hplain
    rw [Expr.matchesRow_like_iff hl hr, Expr.matchesRow_equal_iff, hl, hr, accepts_iff_splits]
    cases caseSensitive with
    | true => rw [Splits.iff_eq (hordinary hp), Value.order_text_eq_iff, String.toList_inj]
    | false =>
      obtain ⟨ht, hp'⟩ := hplain rfl
      rw [Splits.iff_fold (hordinary hp), Value.order_text_lower_eq_iff, ht.lowerAfter_eq,
        hp'.lowerAfter_eq]
  · intro hl ht hplain
    obtain ⟨ds, hds, hapart⟩ := exists_comeApart hplain
    have hp : ∀ c ∈ ds, c ≠ '*' ∧ c ≠ '%' := by
      intro c hc
      obtain hc | hc := hds c hc
      · exact ht c hc
      · constructor <;> rintro rfl <;> exact absurd hc (by decide)
    refine ⟨String.ofList ds, by rwa [String.toList_ofList], ?_⟩
    have hr : (Expr.literal (.text (String.ofList ds))).eval false row = .text (.ofList ds) := rfl
    rw [Expr.matchesRow_like_iff hl hr, Expr.matchesRow_equal_iff, hl, hr, accepts_iff_splits,
      String.toList_ofList, Splits.iff_fold (hordinary hp), Value.order_text_lower_eq_iff,
      String.toList_ofList, eq_comm, @eq_comm _ (lowerAfter [] t.toList)]
    exact hapart.not_iff

/-- Accented capitals match as they are equal, and a text with a micro sign is judged differently
beside some pattern. -/
theorem like_agrees_with_equality_school :
    (Expr.compare .eq (.literal (.text "\u00C9COLE")) (.literal (.text "\u00E9cole"))).matchesRow
      false (fun _ => .null) ∧
    ∃ p : String, (∀ c ∈ p.toList, c ≠ '*' ∧ c ≠ '%') ∧
      ¬ ((Expr.like (.literal (.text "5 \u00B5m")) (.literal (.text p))).matchesRow false
          (fun _ => .null) ↔
        (Expr.compare .eq (.literal (.text "5 \u00B5m")) (.literal (.text p))).matchesRow false
          (fun _ => .null)) := by
  constructor
  · have h := (like_agrees_with_equality (fun _ => .null) (.literal (.text "\u00C9COLE"))
      "\u00C9COLE").1 false (.literal (.text "\u00E9cole")) "\u00E9cole" rfl rfl (by simp)
      fun _ => ⟨by decide +kernel, by decide +kernel⟩
    exact h.mp (by decide +kernel)
  · exact (like_agrees_with_equality (fun _ => .null) (.literal (.text "5 \u00B5m")) "5 \u00B5m").2
      rfl (by simp) (by decide +kernel)

/-- The micro sign is folded to the Greek letter that it is a variant of, and lowered to itself. -/
theorem micro_sign_matches_unequal :
    (Expr.like (.literal (.text "5 \u00B5m")) (.literal (.text "5 \u03BCm"))).matchesRow false
      (fun _ => .null) ∧
    ¬ (Expr.compare .eq (.literal (.text "5 \u00B5m")) (.literal (.text "5 \u03BCm"))).matchesRow
      false (fun _ => .null) := by
  decide +kernel

end Like
end TableFilter
