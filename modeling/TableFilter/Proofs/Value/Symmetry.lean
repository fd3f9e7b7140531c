import TableFilter.Proofs.Predicate.Comparing
import TableFilter.Proofs.Predicate.Unknown

/-!
# Comparisons from both sides

Two values that have an order have the opposite one when they change places, and two values without
an order have none either way. A text takes on the kind of the other value on whichever side it
stands, so a comparison says the same as the comparison that is written from right to left. Values
of one kind always have an order. Where two values have an order, exactly one of less, equal and
greater holds of them, and the other comparisons are made of these.
-/

namespace TableFilter

theorem Decimal.order_swap (a b : Decimal) : (a.order b).swap = b.order a :=
  Int.compare_swap _ _

namespace Value

variable (caseSensitive : Bool)

theorem orderText_swap (s t : String) :
    (orderText caseSensitive s t).swap = orderText caseSensitive t s := by
  unfold orderText
  split
  · exact Std.OrientedOrd.eq_swap.symm
  · exact Std.OrientedOrd.eq_swap.symm

theorem orderText_self (s : String) : orderText caseSensitive s s = .eq := by
  unfold orderText
  split <;> exact Std.ReflOrd.compare_self

theorem orderAlike_swap (a b : Value) :
    (orderAlike caseSensitive a b).map Ordering.swap = orderAlike caseSensitive b a := by
  cases a with
  | null => cases b <;> rfl
  | bool x =>
    cases b with
    | bool y => exact congrArg some Std.OrientedOrd.eq_swap.symm
    | _ => rfl
  | number x =>
    cases b with
    | number y => exact congrArg some (x.order_swap y)
    | _ => rfl
  | text x =>
    cases b with
    | text y => exact congrArg some (orderText_swap caseSensitive x y)
    | _ => rfl
  | date x =>
    cases b with
    | date y => exact congrArg some (x.order_swap y)
    | _ => rfl

theorem isSome_orderAlike {a b : Value} :
    (orderAlike caseSensitive a b).isSome ↔ a.kind?.isSome ∧ a.kind? = b.kind? := by
  cases a <;> cases b <;> simp [orderAlike, kind?]

theorem towards_of_kind? {a b : Value} (h : a.kind? = b.kind?) : a.towards b = some a := by
  unfold towards
  rw [← h]
  cases a <;> rfl

/-- Values of one kind are always comparable. What has no order is null, or of unlike kinds, or a
text that has no form of the other kind. -/
theorem isSome_order {a b : Value} (h : a.kind? = b.kind?) :
    (a.order caseSensitive b).isSome ↔ a ≠ null := by
  have hnull : a.kind?.isSome ↔ a ≠ null := by cases a <;> simp [kind?]
  rw [order, towards_of_kind? h, towards_of_kind? h.symm, Option.bind_eq_bind, Option.bind_some,
    Option.bind_some, isSome_orderAlike, hnull]
  exact and_iff_left h

theorem order_swap (a b : Value) :
    (a.order caseSensitive b).map Ordering.swap = b.order caseSensitive a := by
  unfold order
  cases ha : a.towards b with
  | none => cases b.towards a <;> rfl
  | some x =>
    cases hb : b.towards a with
    | none => rfl
    | some y => exact orderAlike_swap caseSensitive x y

end Value

namespace Expr

variable {caseSensitive : Bool} {row : Row} {l r : Expr} {op p q : Comparison}

theorem truth_compare : (compare op l r).truth caseSensitive row =
    ((l.eval caseSensitive row).order caseSensitive (r.eval caseSensitive row)).map op.holds := by
  rw [truth, eval, Value.truth_ofTruth]

theorem truth_compare_swap : (compare op.swap r l).truth caseSensitive row =
    (compare op l r).truth caseSensitive row := by
  have hholds : op.swap.holds ∘ Ordering.swap = op.holds := by
    funext o
    rw [Function.comp_apply, Comparison.holds_swap, Ordering.swap_swap]
  rw [truth_compare, truth_compare, ← Value.order_swap, Option.map_map, hholds]

/-- Comparisons that no order satisfies together are not both true. -/
theorem not_matchesRow_both (h : ∀ o, ¬ (p.holds o ∧ q.holds o)) :
    ¬ ((compare p l r).matchesRow caseSensitive row ∧
      (compare q l r).matchesRow caseSensitive row) := by
  rintro ⟨hp, hq⟩
  obtain ⟨o, ho, hp⟩ := matchesRow_compare.mp hp
  obtain ⟨o', ho', hq⟩ := matchesRow_compare.mp hq
  rw [ho, Option.some.injEq] at ho'
  subst ho'
  exact h o ⟨hp, hq⟩

/-- A comparison that is satisfied by what satisfies one of two others says what their disjunction
says. -/
theorem truth_compare_or (h : ∀ o, op.holds o = (p.holds o || q.holds o)) :
    (compare op l r).truth caseSensitive row =
      (join .or (compare p l r) (compare q l r)).truth caseSensitive row := by
  rw [truth_join, truth_compare, truth_compare, truth_compare]
  cases (l.eval caseSensitive row).order caseSensitive (r.eval caseSensitive row) with
  | none => rfl
  | some o =>
    simp only [Option.map_some, h]
    cases p.holds o <;> cases q.holds o <;> rfl

/-- The order of two values does not depend on which of them comes first, and neither does the truth
of a comparison. -/
theorem comparisons_are_symmetric (caseSensitive : Bool) :
    (∀ a b : Value, a.order caseSensitive b = (b.order caseSensitive a).map Ordering.swap) ∧
    (∀ v : Value, Value.null.order caseSensitive v = none ∧
      v.order caseSensitive .null = none) ∧
    ∀ (row : Row) (l r : Expr),
      (∀ op, (compare op l r).truth caseSensitive row =
        (compare op.swap r l).truth caseSensitive row) ∧
      (∀ op, (compare op l r).truth caseSensitive row = none ↔
        (l.eval caseSensitive row).order caseSensitive (r.eval caseSensitive row) = none) ∧
      [Comparison.lt, .eq, .gt].Pairwise (fun p q =>
        ¬ ((compare p l r).matchesRow caseSensitive row ∧
          (compare q l r).matchesRow caseSensitive row)) ∧
      (compare .ne l r).truth caseSensitive row =
        (join .or (compare .lt l r) (compare .gt l r)).truth caseSensitive row ∧
      (compare .le l r).truth caseSensitive row =
        (join .or (compare .lt l r) (compare .eq l r)).truth caseSensitive row ∧
      (compare .ge l r).truth caseSensitive row =
        (join .or (compare .gt l r) (compare .eq l r)).truth caseSensitive row := by
  refine ⟨fun a b => (Value.order_swap caseSensitive b a).symm, fun v => ?_, fun row l r => ?_⟩
  · exact ⟨Value.order_null_left caseSensitive v, Value.order_null_right caseSensitive v⟩
  refine ⟨fun op => truth_compare_swap.symm, fun op => ?_, ?_, ?_, ?_, ?_⟩
  · rw [truth_compare, Option.map_eq_none_iff]
  · simp only [List.pairwise_cons, List.mem_cons, List.not_mem_nil, or_false, forall_eq_or_imp,
      forall_eq, IsEmpty.forall_iff, implies_true, List.Pairwise.nil, and_true]
    refine ⟨⟨?_, ?_⟩, ?_⟩
    all_goals
      apply not_matchesRow_both
      intro o
      cases o <;> decide
  all_goals
    apply truth_compare_or
    intro o
    cases o <;> rfl

end Expr
end TableFilter
