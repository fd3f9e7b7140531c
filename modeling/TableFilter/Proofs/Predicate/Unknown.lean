import TableFilter.Proofs.Predicate.Compose

/-!
# What is unknown

Null cells stand for values that are not known. What is known of a row in spite of them stays so
when the cells are filled in: an operation that has null as an operand yields null, and a
connective that yields a truth although one side is unknown yields it whatever that side is. The
one exception is the operation that puts a fallback in the place of null.
-/

namespace TableFilter

/-- The second value is the first one, unless the first one is null. -/
def Value.FilledBy (v w : Value) : Prop := v ≠ .null → w = v

def Row.FilledBy (row row' : Row) : Prop := ∀ name, (row name).FilledBy (row' name)

namespace Value

variable {v v' w w' : Value}

theorem order_null_left (caseSensitive : Bool) (v : Value) : null.order caseSensitive v = none := by
  cases v <;> rfl

theorem order_null_right (caseSensitive : Bool) (v : Value) :
    v.order caseSensitive null = none := by
  cases v <;> rfl

namespace FilledBy

/-- An operation that yields null for null. -/
theorem strict {f : Value → Value} (hf : f .null = .null) (h : v.FilledBy w) :
    (f v).FilledBy (f w) := by
  intro hne
  have hv : v ≠ .null := fun hv => hne (hv ▸ hf)
  rw [h hv]

/-- An operation with two operands that yields null if one of them is null. -/
theorem strict₂ {f : Value → Value → Value} (hl : ∀ w, f .null w = .null)
    (hr : ∀ v, f v .null = .null) (h : v.FilledBy v') (h' : w.FilledBy w') :
    (f v w).FilledBy (f v' w') := by
  intro hne
  have hv : v ≠ .null := fun hv => hne (hv ▸ hl w)
  have hw : w ≠ .null := fun hw => hne (hw ▸ hr v)
  rw [h hv, h' hw]

theorem truth_eq {b : Bool} (h : v.FilledBy w) (hb : v.truth = some b) : w.truth = some b := by
  have hv : v ≠ .null := by
    rintro rfl
    cases hb
  rw [h hv, hb]

theorem ofTruth {s t : Option Bool} (h : ∀ b, s = some b → t = some b) :
    (ofTruth s).FilledBy (ofTruth t) := by
  intro hne
  cases s with
  | none => exact absurd rfl hne
  | some b => rw [h b rfl]

end FilledBy

end Value

namespace Connective

variable {c : Connective} {s s' t t' : Option Bool} {b : Bool}

/-- The truth that leaves others as they are has to be that of both sides, and the truth that
decides for itself that of one side. -/
theorem kleene_eq_some : c.kleene s t = some b ↔
    if c.neutral = some b then s = some b ∧ t = some b else s = some b ∨ t = some b := by
  rcases c with _ | _ <;> rcases b with _ | _ <;> rcases s with _ | _ | _ <;>
    rcases t with _ | _ | _ <;> decide

theorem kleene_eq_some_of_imp (hs : ∀ b, s = some b → s' = some b)
    (ht : ∀ b, t = some b → t' = some b) (h : c.kleene s t = some b) :
    c.kleene s' t' = some b := by
  rw [kleene_eq_some] at h ⊢
  split_ifs at h ⊢ with hneutral
  · exact h.imp (hs b) (ht b)
  · exact h.imp (hs b) (ht b)

end Connective

namespace Expr

def hasFallback : Expr → Bool
  | literal _ | column _ => false
  | ifNull _ _ => true
  | convert e _ | not e => e.hasFallback
  | compare _ e f | like e f | join _ e f => e.hasFallback || f.hasFallback

variable {caseSensitive : Bool} {row row' : Row} {e : Expr}

theorem eval_filledBy (hrow : row.FilledBy row') (he : e.hasFallback = false) :
    (e.eval caseSensitive row).FilledBy (e.eval caseSensitive row') := by
  induction e with
  | literal v => exact fun _ => rfl
  | column name => exact hrow name
  | convert e kind ih => exact (ih he).strict (f := fun v => (v.convert kind).getD .null) rfl
  | ifNull => cases he
  | compare op e f ihe ihf =>
    obtain ⟨he, hf⟩ := Bool.or_eq_false_iff.mp he
    refine .strict₂ (f := fun v w => .ofTruth ((v.order caseSensitive w).map op.holds))
      (fun w => ?_) (fun v => ?_) (ihe he) (ihf hf)
    · rw [Value.order_null_left]
      rfl
    · rw [Value.order_null_right]
      rfl
  | like e f ihe ihf =>
    obtain ⟨he, hf⟩ := Bool.or_eq_false_iff.mp he
    refine .strict₂ (f := fun v w => .ofTruth do
      let text ← v.shown?
      let pattern ← w.shown?
      Like.accepts? caseSensitive pattern text) (fun _ => rfl) (fun v => ?_) (ihe he) (ihf hf)
    cases v <;> rfl
  | join c e f ihe ihf =>
    obtain ⟨he, hf⟩ := Bool.or_eq_false_iff.mp he
    exact .ofTruth fun b =>
      Connective.kleene_eq_some_of_imp (fun _ => (ihe he).truth_eq) (fun _ => (ihf hf).truth_eq)
  | not e ih => exact (ih he).strict (f := fun v => .ofTruth (v.truth.map (!·))) rfl

/-- A truth that is known of a row is the truth of every row that differs from it in null cells
only, if the expression has no fallbacks. -/
theorem known_truth_stays (he : e.hasFallback = false)
    (hrow : ∀ name, row name ≠ .null → row' name = row name) {b : Bool}
    (h : e.truth caseSensitive row = some b) : e.truth caseSensitive row' = some b :=
  (eval_filledBy hrow he).truth_eq h

def isAnnOrTwelve : Expr :=
  .compare .eq
    (.join .or (.compare .eq (.column "name") (.literal (.text "ann")))
      (.like (.convert (.column "age") .text) (.literal (.text "12*"))))
    (.literal (.bool true))

def agedRow (name : Value) : Row := fun c =>
  if c = "age" then .number ⟨false, 125, 1, by decide, by decide⟩ else name

/-- The age alone decides, as long as the name is missing and whatever it is. -/
theorem known_truth_stays_age : isAnnOrTwelve.truth false (agedRow .null) = some true ∧
    ∀ name, isAnnOrTwelve.truth false (agedRow name) = some true := by
  have hknown : isAnnOrTwelve.truth false (agedRow .null) = some true := by decide
  refine ⟨hknown, fun name => known_truth_stays rfl (fun c hc => ?_) hknown⟩
  by_cases hage : c = "age"
  · rw [hage]
    rfl
  · exact absurd (if_neg hage) hc

/-- A fallback decides what the cell in its place would decide otherwise. -/
example : (ifNull (.column "adult") (.literal (.bool true))).truth false (fun _ => .null) = some true ∧
    (ifNull (.column "adult") (.literal (.bool true))).truth false (fun _ => .bool false) =
      some false := ⟨rfl, rfl⟩

end Expr
end TableFilter
