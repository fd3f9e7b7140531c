import Mathlib.Data.List.Forall2
import Mathlib.Data.List.Perm.Basic
import Mathlib.Data.List.ReduceOption
import TableFilter.Predicate.Eval
import TableFilter.Proofs.Predicate.Reads

/-!
# Joined predicates are read as their parts are

A text stands for an expression if it can be read as one, and for none if it is blank. Joining texts
joins what they stand for: the parts that are there, from left to right, whatever connectives they
have inside. Truth follows the same shape, so that the truth of a joined predicate in a row is the
join of the truths of its parts.
-/

namespace TableFilter

open Text TableFilter.Parser

namespace Text

theorem trimChars_eq_nil {cs : List Char} : trimChars cs = [] ↔ ∀ c ∈ cs, isBlank c := by
  rw [trimChars_eq_rdropWhile, List.rdropWhile_eq_nil_iff]
  constructor
  · intro h
    rw [← List.dropWhile_eq_nil_iff]
    by_contra hne
    have hhead := List.head_dropWhile_not isBlank hne
    rw [h _ (List.head_mem hne)] at hhead
    cases hhead
  · intro h c hc
    exact h c ((List.dropWhile_sublist isBlank).mem hc)

theorem isBlankText_iff {s : String} : isBlankText s ↔ trim s = "" := by
  rw [isBlankText, List.all_eq_true, ← trimChars_eq_nil, ← toList_trim, String.toList_eq_nil_iff]

theorem isBlankText_trim (s : String) : isBlankText (trim s) = isBlankText s := by
  rw [Bool.eq_iff_iff, isBlankText_iff, isBlankText_iff, trim_trim]

end Text

/-- The expression that a text stands for, none if the text is blank. -/
def StandsFor (s : String) : Option Expr → Prop
  | none => trim s = ""
  | some e => Reads .disjunction (trim s) e

theorem StandsFor.of_reads {s : String} {e : Expr} (h : Reads .disjunction s e) :
    StandsFor s (some e) := by
  rw [StandsFor, trim_eq_self h.trimmed]
  exact h

theorem standsFor_none {s : String} : StandsFor s none ↔ isBlankText s := isBlankText_iff.symm

theorem standsFor_some {s : String} {e : Expr} : StandsFor s (some e) ↔ Expr.ofText s = .ok e :=
  Expr.ofText_eq_ok.symm

theorem StandsFor.unique {s : String} {o o' : Option Expr} (h : StandsFor s o)
    (h' : StandsFor s o') : o = o' := by
  cases o with
  | none =>
    cases o' with
    | none => rfl
    | some e' => exact absurd h (Reads.ne_empty h')
  | some e =>
    cases o' with
    | none => exact absurd h' (Reads.ne_empty h)
    | some e' =>
      rw [standsFor_some] at h h'
      rw [h] at h'
      rw [Except.ok.inj h']

def Connective.merge (c : Connective) : Option Expr → Option Expr → Option Expr :=
  Option.merge (.join c)

def Connective.joinAll (c : Connective) : List Expr → Option Expr
  | [] => none
  | e :: es => some (es.foldl (.join c) e)

def Connective.rule : Connective → Rule
  | .and => .conjunction
  | .or => .disjunction

namespace Reads

theorem chain_of_operand {s : String} {e : Expr} (c : Connective) (h : Reads .operand s e) :
    Reads c.rule s e := by
  have hc := h.comparison_of_operand.negation_of_comparison.conjunction_of_negation
  cases c with
  | and => exact hc
  | or => exact hc.disjunction_of_conjunction

theorem disjunction_of_chain {s : String} {e : Expr} {c : Connective} (h : Reads c.rule s e) :
    Reads .disjunction s e := by
  cases c with
  | and => exact h.disjunction_of_conjunction
  | or => exact h

theorem chain {l m : String} {e f : Expr} {c : Connective} (h : Reads c.rule l e)
    (h' : Reads .operand m f) : Reads c.rule (l ++ c.joiner ++ m) (.join c e f) := by
  have hn := h'.comparison_of_operand.negation_of_comparison
  cases c with
  | and => exact h.and hn
  | or => exact h.or hn.conjunction_of_negation

/-- A chain grows at its right end. -/
theorem intercalate {c : Connective} {s : String} {e : Expr} {ss : List String} {es : List Expr}
    (h : Reads c.rule s e) (hs : List.Forall₂ (Reads .operand) ss es) :
    Reads c.rule (c.joiner.intercalate (s :: ss)) (es.foldl (.join c) e) := by
  induction hs generalizing s e with
  | nil =>
    rw [String.intercalate_singleton]
    exact h
  | @cons m f ss es hm _ ih =>
    rw [String.intercalate_cons_cons, ← String.intercalate_cons_append]
    exact ih (h.chain hm)

end Reads

namespace Predicate

/-- The parts that are there are the texts that stand for an expression. -/
theorem present_reads {parts : List String} {es : List (Option Expr)}
    (h : List.Forall₂ StandsFor parts es) :
    List.Forall₂ (Reads .disjunction) (present parts) es.reduceOption := by
  induction h with
  | nil => exact .nil
  | @cons p e parts es hp _ ih =>
    cases e with
    | none =>
      have hd : present (p :: parts) = present parts := by
        simp [present, show trim p = "" from hp]
      rw [hd, List.reduceOption_cons_of_none]
      exact ih
    | some e =>
      have hk : present (p :: parts) = trim p :: present parts := by
        simp [present, (show Reads .disjunction (trim p) e from hp).ne_empty]
      rw [hk, List.reduceOption_cons_of_some]
      exact .cons hp ih

/-- Joined texts stand for the join of the expressions that they stand for. -/
theorem standsFor_join (c : Connective) {parts : List String} {es : List (Option Expr)}
    (h : List.Forall₂ StandsFor parts es) :
    StandsFor (join c parts) (c.joinAll es.reduceOption) := by
  have hp := present_reads h
  unfold join
  cases hp' : present parts with
  | nil =>
    rw [hp'] at hp
    rw [List.forall₂_nil_left_iff.mp hp]
    rfl
  | cons s ss =>
    rw [hp'] at hp
    obtain ⟨e, es', hs, hss, hes⟩ := List.forall₂_cons_left_iff.mp hp
    rw [hes]
    cases hss with
    | nil => exact .of_reads hs
    | @cons m f ss es' hm hss =>
      have ho : List.Forall₂ (Reads .operand) ((m :: ss).map inParentheses) (f :: es') :=
        List.forall₂_map_left_iff.mpr ((List.Forall₂.cons hm hss).imp fun _ _ h => h.inParentheses)
      have hchain := (hs.inParentheses.chain_of_operand c).intercalate ho
      exact .of_reads hchain.disjunction_of_chain

theorem standsFor_merge (c : Connective) {l r : String} {e f : Option Expr} (h : StandsFor l e)
    (h' : StandsFor r f) : StandsFor (merge c l r) (c.merge e f) := by
  have hj := standsFor_join c (.cons h (.cons h' .nil))
  cases e <;> cases f <;> exact hj

theorem standsFor_narrow {l r : String} {e f : Option Expr} (h : StandsFor l e)
    (h' : StandsFor r f) : StandsFor (narrow l r) (Connective.and.merge e f) :=
  standsFor_merge .and h h'

/-- Nothing is written where no part is there. -/
theorem join_eq_empty (c : Connective) {parts : List String} {es : List (Option Expr)}
    (h : List.Forall₂ StandsFor parts es) (hes : es.reduceOption = []) : join c parts = "" := by
  have hp := present_reads h
  rw [hes, List.forall₂_nil_right_iff] at hp
  rw [join, hp]

end Predicate

def Connective.kleeneAll (c : Connective) : List (Option Bool) → Option (Option Bool)
  | [] => none
  | t :: ts => some (ts.foldl c.kleene t)

section Truth

variable (caseSensitive : Bool) (row : Row) (c : Connective)

theorem Expr.truth_join (e f : Expr) : (Expr.join c e f).truth caseSensitive row =
    c.kleene (e.truth caseSensitive row) (f.truth caseSensitive row) :=
  Value.truth_ofTruth _

theorem Connective.kleene_and_eq_true (a b : Option Bool) :
    Connective.and.kleene a b = some true ↔ a = some true ∧ b = some true := by
  rcases a with - | - | - <;> rcases b with - | - | - <;> decide

theorem Expr.matchesRow_and (e f : Expr) : (Expr.join .and e f).matchesRow caseSensitive row ↔
    e.matchesRow caseSensitive row ∧ f.matchesRow caseSensitive row := by
  simp only [matchesRow, truth_join, beq_iff_eq, Connective.kleene_and_eq_true]

theorem Connective.truth_merge (e f : Option Expr) :
    (c.merge e f).map (Expr.truth caseSensitive row) =
      Option.merge c.kleene (e.map (Expr.truth caseSensitive row))
        (f.map (Expr.truth caseSensitive row)) := by
  cases e with
  | none => cases f <;> rfl
  | some e =>
    cases f with
    | none => rfl
    | some f => exact congrArg some (Expr.truth_join caseSensitive row c e f)

theorem Connective.truth_joinAll (es : List Expr) :
    (c.joinAll es).map (Expr.truth caseSensitive row) =
      c.kleeneAll (es.map (Expr.truth caseSensitive row)) := by
  cases es with
  | nil => rfl
  | cons e es =>
    rw [joinAll, Option.map_some, List.map_cons, kleeneAll]
    congr 1
    induction es generalizing e with
    | nil => rfl
    | cons f es ih => rw [List.foldl_cons, ih, Expr.truth_join, List.map_cons, List.foldl_cons]

def Connective.neutral : Connective → Option Bool
  | .and => some true
  | .or => some false

instance : Std.Commutative c.kleene where
  comm s t := by
    rcases c with _ | _ <;> rcases s with _ | _ | _ <;> rcases t with _ | _ | _ <;> rfl

instance : Std.Associative c.kleene where
  assoc s t u := by
    rcases c with _ | _ <;> rcases s with _ | _ | _ <;> rcases t with _ | _ | _ <;>
      rcases u with _ | _ | _ <;> rfl

theorem Connective.neutral_kleene (t : Option Bool) : c.kleene c.neutral t = t := by
  rcases c with _ | _ <;> rcases t with _ | _ | _ <;> rfl

theorem Connective.kleeneAll_of_ne_nil {ts : List (Option Bool)} (h : ts ≠ []) :
    c.kleeneAll ts = some (ts.foldl c.kleene c.neutral) := by
  cases ts with
  | nil => exact absurd rfl h
  | cons t ts => rw [kleeneAll, List.foldl_cons, neutral_kleene]

/-- The order of the truths is of no account, whichever of them are unknown. -/
theorem Connective.kleeneAll_perm {ts us : List (Option Bool)} (h : ts.Perm us) :
    c.kleeneAll ts = c.kleeneAll us := by
  by_cases hts : ts = []
  · rw [hts] at h
    rw [hts, List.nil_perm.mp h]
  · have hus : us ≠ [] := fun hus => hts (List.perm_nil.mp (hus ▸ h))
    rw [c.kleeneAll_of_ne_nil hts, c.kleeneAll_of_ne_nil hus, h.foldl_op_eq]

end Truth

end TableFilter
