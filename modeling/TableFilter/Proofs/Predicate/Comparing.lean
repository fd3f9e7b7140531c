import TableFilter.Proofs.Calendar.Order
import TableFilter.Proofs.Decimal.Value
import TableFilter.Proofs.Predicate.Compose

/-!
# Comparing cells with literals

A comparison is true of two cells if they have an order and stand in the relation that the
comparison is named for. A cell is compared with a number as the number that it holds or that its
text is read as, and with a date or a truth value likewise. A cell that holds anything else has no
order with the literal, and no comparison is true of it.
-/

namespace TableFilter

namespace Comparison

def Relates {α : Type} [LinearOrder α] (a b : α) : Comparison → Prop
  | eq => a = b
  | ne => a ≠ b
  | lt => a < b
  | le => a ≤ b
  | gt => b < a
  | ge => b ≤ a

theorem holds_compare {α : Type} [LinearOrder α] (op : Comparison) (a b : α) :
    op.holds (compare a b) ↔ op.Relates a b := by
  cases op with
  | eq => exact beq_iff_eq.trans compare_eq_iff_eq
  | ne => exact bne_iff_ne.trans compare_eq_iff_eq.not
  | lt => exact beq_iff_eq.trans compare_lt_iff_lt
  | le => exact bne_iff_ne.trans compare_le_iff_le
  | gt => exact beq_iff_eq.trans compare_gt_iff_gt
  | ge => exact bne_iff_ne.trans compare_ge_iff_ge

end Comparison

namespace Value

def asNumber? : Value → Option Decimal
  | number d => some d
  | text s => Decimal.read? s
  | _ => none

/-- The date that a cell holds or that its text is read as, year first. -/
def asDate? : Value → Option Date
  | date d => some d
  | text s => Date.read? [] s
  | _ => none

def asTruth? : Value → Option Bool
  | bool b => some b
  | text s => readBool? s
  | _ => none

theorem asNumber?_eq_some {v : Value} {x : Decimal} :
    v.asNumber? = some x ↔ v = .number x ∨ ∃ s, v = .text s ∧ Decimal.read? s = some x := by
  cases v <;> simp [asNumber?]

theorem asDate?_eq_some {v : Value} {d : Date} :
    v.asDate? = some d ↔ v = .date d ∨ ∃ s, v = .text s ∧ Date.read? [] s = some d := by
  cases v <;> simp [asDate?]

variable (caseSensitive : Bool) (v : Value)

theorem order_number (d : Decimal) :
    v.order caseSensitive (number d) = v.asNumber?.map (·.order d) := by
  cases v with
  | text s =>
    cases h : Decimal.read? s <;> simp [order, towards, kind?, convert, asNumber?, orderAlike, h]
  | _ => rfl

theorem order_date (d : Date) : v.order caseSensitive (date d) = v.asDate?.map (·.order d) := by
  cases v with
  | text s =>
    cases h : Date.read? [] s <;> simp [order, towards, kind?, convert, asDate?, orderAlike, h]
  | _ => rfl

theorem order_bool (b : Bool) :
    v.order caseSensitive (bool b) = v.asTruth?.map (compare · b) := by
  cases v with
  | text s =>
    cases h : readBool? s <;> simp [order, towards, kind?, convert, asTruth?, orderAlike, h]
  | _ => rfl

end Value

namespace Expr

variable {caseSensitive : Bool} {row : Row} {name : String} {op : Comparison} {l r : Expr}

theorem matchesRow_compare : (compare op l r).matchesRow caseSensitive row ↔
    ∃ o, (l.eval caseSensitive row).order caseSensitive (r.eval caseSensitive row) = some o ∧
      op.holds o := by
  rw [matchesRow, truth, eval, Value.truth_ofTruth, beq_iff_eq, Option.map_eq_some_iff]

/-- A pattern is held against the text that a value shows. -/
theorem matchesRow_like : (like l r).matchesRow caseSensitive row ↔
    ∃ s, (l.eval caseSensitive row).shown? = some s ∧
      ∃ p, (r.eval caseSensitive row).shown? = some p ∧ Like.accepts caseSensitive p s := by
  rw [matchesRow, truth, eval, Value.truth_ofTruth, beq_iff_eq]
  simp only [Option.bind_eq_bind, Option.bind_eq_some_iff, Like.accepts?_eq_true_iff]

theorem matchesRow_compare_literal {v : Value} :
    (Expr.compare op (.column name) (.literal v)).matchesRow caseSensitive row ↔
      ∃ o, (row name).order caseSensitive v = some o ∧ op.holds o :=
  matchesRow_compare

theorem matchesRow_compare_number {d : Decimal} :
    (Expr.compare op (.column name) (.literal (.number d))).matchesRow caseSensitive row ↔
      ∃ x, (row name).asNumber? = some x ∧ op.Relates x.value d.value := by
  rw [matchesRow_compare_literal, Value.order_number]
  cases (row name).asNumber? with
  | none => simp
  | some x => simp [← Comparison.holds_compare, Decimal.order_eq_compare]

theorem matchesRow_compare_date {d : Date} :
    (Expr.compare op (.column name) (.literal (.date d))).matchesRow caseSensitive row ↔
      ∃ e, (row name).asDate? = some e ∧ op.Relates e d := by
  rw [matchesRow_compare_literal, Value.order_date]
  cases (row name).asDate? with
  | none => simp
  | some e => simp [← Comparison.holds_compare, Date.order_eq_compare]

theorem matchesRow_equal_bool {b : Bool} :
    (Expr.compare .eq (.column name) (.literal (.bool b))).matchesRow caseSensitive row ↔
      (row name).asTruth? = some b := by
  rw [matchesRow_compare_literal, Value.order_bool]
  cases (row name).asTruth? with
  | none => simp
  | some c => simp [Comparison.holds]

end Expr

end TableFilter
