import TableFilter.Filter.Strategy
import TableFilter.Proofs.Predicate.Reads

/-!
# What filters write can be read

Every kind of filter writes its criteria in a form of its own. Whatever the user has entered, the
predicate of an active filter reads as an expression that mentions the column of the filter and no
other, and a filter that is not active writes nothing.
-/

namespace TableFilter

open Text Literal

namespace Expr

theorem insertName_self (name : String) : insertName name [name] = [name] := by
  simp [insertName]

/-- An expression that mentions one column only, however often. -/
theorem columns_eq_singleton {e : Expr} {name : String} (hne : e.mentions ≠ [])
    (h : ∀ m ∈ e.mentions, m = name) : e.columns = [name] := by
  have hfold (ms : List String) (hms : ms ≠ []) (h : ∀ m ∈ ms, m = name) :
      ms.foldr insertName [] = [name] := by
    induction ms with
    | nil => exact absurd rfl hms
    | cons m ms ih =>
      obtain ⟨rfl, hrest⟩ := List.forall_mem_cons.mp h
      rw [List.foldr_cons]
      by_cases hnil : ms = []
      · rw [hnil]
        rfl
      · rw [ih hnil hrest, insertName_self]
  exact hfold e.mentions hne h

end Expr

namespace Reads

variable {name l m : String} {e f : Expr}

theorem never (hn : name ≠ "") : Reads .comparison (Literal.never (Literal.columnRef name))
    (.compare .eq (.column name) (.literal (.bool false))) := by
  have h := (Reads.columnRef hn).equal (Reads.boolText false)
  rwa [String.append_assoc] at h

theorem range (hn : name ≠ "") (hl : Reads .operand l e) (hm : Reads .operand m f) :
    Reads .conjunction (Literal.compare (Literal.columnRef name) .ge l ++ " AND " ++
      Literal.compare (Literal.columnRef name) .le m)
      (.join .and (.compare .ge (.column name) e) (.compare .le (.column name) f)) := by
  have hlow := ((Reads.columnRef hn).compare .ge hl).negation_of_comparison
  have hhigh := ((Reads.columnRef hn).compare .le hm).negation_of_comparison
  exact hlow.conjunction_of_negation.and hhigh

end Reads

def ReadsOver (name s : String) : Prop := ∃ e, Reads .disjunction s e ∧ e.columns = [name]

namespace ReadsOver

variable {name s l m : String} {e : Expr} {v v' : Value}

theorem of_comparison (h : Reads .comparison s e) (hc : e.columns = [name]) : ReadsOver name s :=
  ⟨e, h.disjunction_of_comparison, hc⟩

theorem compare (hn : name ≠ "") (op : Comparison) (h : Reads .operand l (.literal v)) :
    ReadsOver name (Literal.compare (columnRef name) op l) :=
  of_comparison ((Reads.columnRef hn).compare op h) rfl

theorem never (hn : name ≠ "") : ReadsOver name (Literal.never (columnRef name)) :=
  of_comparison (.never hn) rfl

/-- A range with literals as its bounds. -/
theorem range (hn : name ≠ "") (hl : Reads .operand l (.literal v))
    (hm : Reads .operand m (.literal v')) :
    ReadsOver name (Literal.compare (columnRef name) .ge l ++ " AND " ++
      Literal.compare (columnRef name) .le m) := by
  refine ⟨_, (Reads.range hn hl hm).disjunction_of_conjunction,
    Expr.columns_eq_singleton (by simp [Expr.mentions]) ?_⟩
  simp [Expr.mentions]

end ReadsOver

variable {name : String} {input : Input}

namespace TextFilter

theorem reads_fragment (hn : name ≠ "") (h : isActive input) :
    Reads .comparison (fragment input (columnRef name))
      (.like (.column name) (.literal (.text (entered input ++ "*")))) := by
  rw [fragment, if_pos h]
  exact (Reads.columnRef hn).like (Reads.quote _)

end TextFilter

namespace NumericFilter

theorem readsOver_criterion (hn : name ≠ "") {s : String}
    (h : criterion? input (columnRef name) = some s) : ReadsOver name s := by
  unfold criterion? at h
  split at h
  case h_1 =>
    cases h
    have hr := (Reads.columnRef hn).disjunction_of_operand.asText
    exact .of_comparison (hr.like (Reads.quote _)) rfl
  case h_2 =>
    simp only [Option.bind_eq_bind, Option.bind_eq_some_iff, Option.pure_def] at h
    obtain ⟨low, -, high, -, hs⟩ := h
    rw [← Option.some.inj hs]
    exact .range hn (Reads.number low) (Reads.number high)
  case h_3 op _ =>
    obtain ⟨d, -, rfl⟩ := Option.map_eq_some_iff.mp h
    exact .compare hn op (Reads.number d)

theorem readsOver_fragment (hn : name ≠ "") (h : isActive input) :
    ReadsOver name (fragment input (columnRef name)) := by
  rw [fragment, if_pos h]
  cases hc : criterion? input (columnRef name) with
  | none => exact .never hn
  | some s => exact readsOver_criterion hn hc

end NumericFilter

namespace DateFilter

theorem readsOver_criterion (hn : name ≠ "") {formats : List String} {s : String}
    (h : criterion? formats input (columnRef name) = some s) : ReadsOver name s := by
  unfold criterion? at h
  split at h
  case h_1 => cases h
  case h_2 =>
    simp only [Option.bind_eq_bind, Option.bind_eq_some_iff, Option.pure_def] at h
    obtain ⟨low, -, high, -, hs⟩ := h
    rw [← Option.some.inj hs]
    exact .range hn (Reads.date low) (Reads.date high)
  case h_3 op _ =>
    obtain ⟨d, -, rfl⟩ := Option.map_eq_some_iff.mp h
    exact .compare hn op (Reads.date d)

theorem readsOver_fragment (hn : name ≠ "") (formats : List String) (h : isActive input) :
    ReadsOver name (fragment formats input (columnRef name)) := by
  rw [fragment, if_pos h]
  cases hc : criterion? formats input (columnRef name) with
  | none => exact .never hn
  | some s => exact readsOver_criterion hn hc

end DateFilter

theorem TriState.exists_bool?_of_isSet {t : TriState} (h : t.isSet) : ∃ b, t.bool? = some b := by
  cases t with
  | unset => cases h
  | true => exact ⟨.true, rfl⟩
  | false => exact ⟨.false, rfl⟩

theorem TriState.bool?_of_not_isSet {t : TriState} (h : t.isSet = .false) : t.bool? = none := by
  cases t with
  | unset => rfl
  | _ => cases h

namespace TruthFilter

theorem readsOver_fragment (hn : name ≠ "") (h : input.mark.isSet) :
    ReadsOver name (fragment input (columnRef name)) := by
  obtain ⟨b, hb⟩ := TriState.exists_bool?_of_isSet h
  rw [fragment, hb]
  exact .of_comparison ((Reads.columnRef hn).equal (Reads.boolText b)) rfl

end TruthFilter

namespace PresenceFilter

theorem reads_nullTest (hn : name ≠ "") (isNull : Bool) :
    Reads .comparison (nullTest (columnRef name) isNull)
      (.compare (if isNull then .eq else .ne)
        (.convert (.ifNull (.column name) (.literal (.text nullSentinel))) .text)
        (.literal (.text nullSentinel))) := by
  have hs := Reads.quote nullSentinel
  have hi := (Reads.columnRef hn).disjunction_of_operand.ifNull hs.disjunction_of_operand
  have ht := hi.disjunction_of_operand.asText
  cases isNull with
  | true => exact ht.equal hs
  | false => exact ht.unequal hs

theorem readsOver_nullTest (hn : name ≠ "") (isNull : Bool) :
    ReadsOver name (nullTest (columnRef name) isNull) :=
  .of_comparison (reads_nullTest hn isNull) rfl

theorem readsOver_fragment (hn : name ≠ "") (h : input.mark.isSet) :
    ReadsOver name (fragment input (columnRef name)) := by
  obtain ⟨b, hb⟩ := TriState.exists_bool?_of_isSet h
  rw [fragment, hb]
  exact readsOver_nullTest hn !b

end PresenceFilter

namespace ChoiceFilter

theorem readsOver_fragment (hn : name ≠ "") (h : chosen input ≠ .all) :
    ReadsOver name (fragment input (columnRef name)) := by
  unfold fragment
  cases hc : chosen input with
  | all => exact absurd hc h
  | null => exact PresenceFilter.readsOver_nullTest hn true
  | value s =>
    have ht := (Reads.columnRef hn).disjunction_of_operand.asText
    exact .of_comparison (ht.equal (Reads.quote s)) rfl

end ChoiceFilter

namespace Strategy

theorem readsOver_fragment {s : Strategy} (hn : name ≠ "") (h : s.isActive input) :
    ReadsOver name (s.fragment input (columnRef name)) := by
  cases s with
  | text => exact .of_comparison (TextFilter.reads_fragment hn h) rfl
  | numeric => exact NumericFilter.readsOver_fragment hn h
  | date _ formats => exact DateFilter.readsOver_fragment hn formats h
  | boolean => exact TruthFilter.readsOver_fragment hn h
  | presence => exact PresenceFilter.readsOver_fragment hn h
  | distinct => exact ChoiceFilter.readsOver_fragment hn (by simpa [isActive] using h)
  | empty => cases h

theorem fragment_of_not_isActive {s : Strategy} (h : s.isActive input = false) (ref : String) :
    s.fragment input ref = "" := by
  cases s with
  | text =>
    change TextFilter.isActive input = false at h
    simp [fragment, TextFilter.fragment, h]
  | numeric =>
    change NumericFilter.isActive input = false at h
    simp [fragment, NumericFilter.fragment, h]
  | date =>
    change DateFilter.isActive input = false at h
    simp [fragment, DateFilter.fragment, h]
  | boolean =>
    have hm : input.mark.bool? = none := TriState.bool?_of_not_isSet h
    simp [fragment, TruthFilter.fragment, hm]
  | presence =>
    have hm : input.mark.bool? = none := TriState.bool?_of_not_isSet h
    simp [fragment, PresenceFilter.fragment, hm]
  | distinct =>
    have hc : ChoiceFilter.chosen input = .all := by simpa [isActive] using h
    simp [fragment, ChoiceFilter.fragment, hc]
  | empty => rfl

end Strategy
end TableFilter
