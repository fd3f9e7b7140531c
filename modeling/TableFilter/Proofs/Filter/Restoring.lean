import TableFilter.Proofs.Decimal.Value
import TableFilter.Proofs.Filter.Forms
import TableFilter.Proofs.Filter.Fragment
import TableFilter.Proofs.Predicate.Compose

/-!
# Criteria are restored

A new filter is given the predicate that a filter of the same kind has written, and takes criteria
from it that write the same predicate. Texts, check marks and choices on offer always come back. An
operand comes back if it can be read, is written as it was read, and is read again from what is put
into the input; a range comes back if ranges are offered and it has a bound.
-/

namespace TableFilter

open Text Literal Form

variable {name : String} {input : Input}

namespace TextFilter

theorem restore?_fragment (hn : name ≠ "") (h : isActive input) :
    restore? (fragment input (columnRef name)) = some (.text (entered input)) := by
  have htext : (fragment input (columnRef name)).toList = (columnRef name).toList ++
      (" LIKE '".toList ++ (doubleQuotes (entered input ++ "*").toList ++ ['\''])) := by
    rw [fragment, if_pos h]
    simp [toList_quote]
  have hquoted := quotedUpTo?_quote (entered input) "*" (by simp)
  simp only [restore?, htext, dropColumnRef?_append hn, dropText?_append, hquoted,
    Option.bind_eq_bind, Option.bind_some, Option.pure_def]

end TextFilter

namespace TruthFilter

theorem restore?_fragment (hn : name ≠ "") (h : input.mark.isSet) :
    restore? (fragment input (columnRef name)) = some (.check input.mark) := by
  have htext (b : Bool) : (columnRef name ++ " = " ++ Value.boolText b).toList =
      (columnRef name).toList ++ (" = ".toList ++ (Value.boolText b).toList) := by
    simp
  unfold fragment
  cases hm : input.mark with
  | unset =>
    rw [hm] at h
    cases h
  | true =>
    simp only [TriState.bool?, restore?, htext, dropColumnRef?_append hn, dropText?_append,
      Option.bind_eq_bind, Option.bind_some]
    rfl
  | false =>
    simp only [TriState.bool?, restore?, htext, dropColumnRef?_append hn, dropText?_append,
      Option.bind_eq_bind, Option.bind_some]
    rfl

end TruthFilter

namespace PresenceFilter

theorem nullTest?_nullTest (hn : name ≠ "") (isNull : Bool) :
    nullTest? (nullTest (columnRef name) isNull) = some isNull := by
  have htext : (nullTest (columnRef name) isNull).toList = "Convert(IsNull(".toList ++
      ((columnRef name).toList ++ ((", " ++ sentinel ++ "), 'System.String') ").toList ++
        ((if isNull then "= " else "<> ") ++ sentinel).toList)) := by
    cases isNull <;> simp [nullTest, asText]
  cases isNull with
  | true =>
    simp only [nullTest?, htext, dropText?_append, dropColumnRef?_append hn, Option.bind_eq_bind,
      Option.bind_some, if_true]
  | false =>
    have hne : ("<> " ++ sentinel).toList ≠ ("= " ++ sentinel).toList := by decide
    simp only [nullTest?, htext, dropText?_append, dropColumnRef?_append hn, Option.bind_eq_bind,
      Option.bind_some, Bool.false_eq_true, if_false, if_neg hne, if_true]

theorem restore?_fragment (hn : name ≠ "") (h : input.mark.isSet) :
    restore? (fragment input (columnRef name)) = some (.check input.mark) := by
  unfold fragment
  cases hm : input.mark with
  | unset =>
    rw [hm] at h
    cases h
  | true =>
    simp only [TriState.bool?, restore?, nullTest?_nullTest hn, Option.map_some]
    rfl
  | false =>
    simp only [TriState.bool?, restore?, nullTest?_nullTest hn, Option.map_some]
    rfl

end PresenceFilter

namespace ChoiceFilter

/-- A comparison with a chosen value is no test for null. -/
theorem nullTest?_asText (cs : List Char) (s : String) :
    PresenceFilter.nullTest? (asText (String.ofList ('[' :: cs)) ++ s) = none := by
  simp only [PresenceFilter.nullTest?, asText, String.toList_append, String.toList_ofList]
  rfl

theorem restoreChoice?_fragment (hn : name ≠ "") (h : chosen input ≠ .all) :
    restoreChoice? (fragment input (columnRef name)) = some (chosen input) := by
  unfold fragment
  cases hc : chosen input with
  | all => exact absurd hc h
  | null =>
    simp only [restoreChoice?, PresenceFilter.nullTest?_nullTest hn, if_true]
  | value s =>
    have htext : (asText (columnRef name) ++ " = " ++ quote s).toList =
        (asText (columnRef name)).toList ++
          (" = '".toList ++ (doubleQuotes (s ++ "").toList ++ ['\''])) := by
      simp [toList_quote]
    have hquoted := quotedUpTo?_quote s "" (by simp)
    have hnull : PresenceFilter.nullTest? (asText (columnRef name) ++ " = " ++ quote s) = none := by
      rw [String.append_assoc]
      exact nullTest?_asText _ _
    simp only [restoreChoice?, restoreValue?, hnull, htext, dropAsText?_append hn, dropText?_append,
      hquoted, reduceCtorEq, if_false, Option.bind_eq_bind, Option.bind_some, Option.pure_def]

theorem restore?_fragment (hn : name ≠ "") (h : chosen input ≠ .all) {values : List String}
    {hasNull : Bool} (ho : offers values hasNull (chosen input)) :
    restore? values hasNull (fragment input (columnRef name)) = some (.choice (chosen input)) := by
  rw [restore?, restoreChoice?_fragment hn h, Option.filter_some, if_pos ho, Option.map_some]

end ChoiceFilter

namespace Decimal

theorem not_isBlankText_text (d : Decimal) : isBlankText d.text = false := by
  obtain ⟨c, cs, hcs, hc⟩ := d.exists_unsignedChars_eq_cons
  have hmem : c ∈ d.text.toList := by
    rw [text, String.toList_ofList, toChars_eq, hcs]
    simp
  rw [isBlankText, List.all_eq_false]
  exact ⟨c, hmem, by simp [isBlank_of_isDigit hc]⟩

end Decimal

/-- Every operator but the range is always offered. -/
theorem NumericOperator.mem_offered_iff {between : Bool} {op : NumericOperator} :
    op ∈ offered between ↔ (op = .between → between = true) := by
  cases op with
  | compare op => cases op <;> simp [offered, Comparison.offered]
  | wildcard => simp [offered]
  | between => simp [offered]

namespace NumericFilter

theorem ofLabel_label (op : NumericOperator) : NumericOperator.ofLabel op.label = op := by
  cases op with
  | compare op => cases op <;> rfl
  | wildcard => rfl
  | between => rfl

section Parts

variable (between : Bool) (op : NumericOperator) (h : op = .between → between = true)
  (low high : String)

include h

theorem ofParts_eq : ofParts between op low high = .operands op.label low high := by
  have hoffered : ¬ (op = .between ∧ between = false) := by
    rintro ⟨hop, hb⟩
    rw [h hop] at hb
    cases hb
  rw [ofParts, if_neg hoffered]

theorem operator_ofParts : operator (ofParts between op low high) = op := by
  rw [ofParts_eq between op h, operator, ofLabel_label]

end Parts

theorem first_ofParts (between : Bool) (op : NumericOperator) (low high : String) :
    first (ofParts between op low high) = low := rfl

theorem second_ofParts (between : Bool) (op : NumericOperator) (low high : String) :
    second (ofParts between op low high) = high := rfl

/-- The input of a bound that is put in is read as the bound. -/
theorem bound?_boundText {d blank : Decimal} (hd : d.restored = d)
    (hblank : d.sameValue blank → d = blank) : bound? (boundText d blank) blank = some d := by
  by_cases hs : d.sameValue blank
  · rw [boundText, if_pos hs, hblank hs]
    rfl
  · rw [boundText, if_neg hs, bound?, if_neg (by simp [d.not_isBlankText_text]), d.read?_text, hd]

theorem isBlankText_boundText (d blank : Decimal) :
    isBlankText (boundText d blank) = d.sameValue blank := by
  by_cases hs : d.sameValue blank
  · rw [boundText, if_pos hs, hs]
    rfl
  · rw [boundText, if_neg hs, d.not_isBlankText_text, Bool.eq_false_iff.mpr hs]

/-- The operands that are needed can be read and are written as they were read, and a range is
offered and has a bound. -/
def Recovers (between : Bool) (input : Input) : Prop :=
  match operator input with
  | .wildcard => True
  | .compare _ => ∃ d, Decimal.read? (first input) = some d ∧ d.restored = d
  | .between => between ∧ ∃ low high, bound? (first input) .least = some low ∧
      bound? (second input) .greatest = some high ∧ low.restored = low ∧ high.restored = high ∧
      ¬ (low = .least ∧ high = .greatest)

section Criterion

variable (ref : String)

theorem criterion?_wildcard (hop : operator input = .wildcard) : criterion? input ref =
    some (asText ref ++ " LIKE " ++ quote (trim (first input) ++ "*")) := by
  rw [criterion?, hop]

theorem criterion?_compare {op : Comparison} {d : Decimal} (hop : operator input = .compare op)
    (hd : Decimal.read? (first input) = some d) :
    criterion? input ref = some (Literal.compare ref op (number d)) := by
  rw [criterion?, hop, hd]
  rfl

theorem criterion?_between {low high : Decimal} (hop : operator input = .between)
    (hlow : bound? (first input) .least = some low)
    (hhigh : bound? (second input) .greatest = some high) :
    criterion? input ref = some (rangeOf ref (number low) (number high)) := by
  rw [criterion?, hop, hlow, hhigh]
  rfl

theorem fragment_of_criterion {s : String} (h : isActive input)
    (hs : criterion? input ref = some s) : fragment input ref = s := by
  rw [fragment, if_pos h, hs, Option.getD_some]

end Criterion

theorem restoreWildcard?_reference {r : String} (hr : IsReference r) (between : Bool) {s : String}
    {rest : List Char} (h : s.toList = r.toList ++ rest) : restoreWildcard? between s = none := by
  simp [restoreWildcard?, h, dropAsText?_reference hr]

theorem restore?_compare (hn : name ≠ "") (between : Bool) (op : Comparison) (d : Decimal) :
    restore? between (Literal.compare (columnRef name) op (number d)) =
      some (ofParts between (.compare op) d.restored.text "") := by
  have htakes := takes_number d
  have hrange : restoreRange? between (Literal.compare (columnRef name) op (number d)) = none := by
    cases between with
    | false => rfl
    | true => simp [restoreRange?, range?_compare hn op (.inl ⟨_, htakes⟩)]
  rw [restore?, hrange,
    restoreWildcard?_reference (isReference_columnRef hn) between (toList_compare ..)]
  simp [restoreComparison?, comparison?_compare hn op htakes]

theorem restore?_wildcard (hn : name ≠ "") (between : Bool) (s : String) :
    restore? between (asText (columnRef name) ++ " LIKE " ++ quote (s ++ "*")) =
      some (ofParts between .wildcard s "") := by
  have htext : (asText (columnRef name) ++ " LIKE " ++ quote (s ++ "*")).toList =
      (asText (columnRef name)).toList ++
        (" LIKE '".toList ++ (doubleQuotes (s ++ "*").toList ++ ['\''])) := by
    simp [toList_quote]
  have hrange : restoreRange? between
      (asText (columnRef name) ++ " LIKE " ++ quote (s ++ "*")) = none := by
    cases between with
    | false => rfl
    | true =>
      rw [String.append_assoc]
      simp [restoreRange?, range?_asText]
  have hquoted := quotedUpTo?_quote s "*" (by simp)
  rw [restore?, hrange, restoreWildcard?, htext, dropAsText?_append hn]
  simp only [dropText?_append, hquoted, Option.bind_eq_bind, Option.bind_some, Option.pure_def]
  rfl

theorem restore?_range (hn : name ≠ "") (low high : Decimal) :
    restore? true (rangeOf (columnRef name) (number low) (number high)) =
      some (ofParts true .between (boundText low.restored .least)
        (boundText high.restored .greatest)) := by
  simp [restore?, restoreRange?, range?_rangeOf hn (takes_number low) (takes_number high)]

section Written

variable (ref : String)

theorem fragment_ofParts_wildcard (between : Bool) {s : String} (hs : isBlankText s = false) :
    fragment (ofParts between .wildcard (trim s) "") ref =
      asText ref ++ " LIKE " ++ quote (trim s ++ "*") := by
  have hop := operator_ofParts between .wildcard nofun (trim s) ""
  have hactive : isActive (ofParts between .wildcard (trim s) "") := by
    rw [isActive, hop, first_ofParts, isBlankText_trim, hs]
    rfl
  rw [fragment_of_criterion ref hactive (criterion?_wildcard ref hop), first_ofParts, trim_trim]

theorem fragment_ofParts_compare (between : Bool) (op : Comparison) {d : Decimal}
    (hd : d.restored = d) : fragment (ofParts between (.compare op) d.text "") ref =
      Literal.compare ref op (number d) := by
  have hop := operator_ofParts between (.compare op) nofun d.text ""
  have hactive : isActive (ofParts between (.compare op) d.text "") := by
    rw [isActive, hop, first_ofParts, d.not_isBlankText_text]
    rfl
  have hread : Decimal.read? (first (ofParts between (.compare op) d.text "")) = some d := by
    rw [first_ofParts, d.read?_text, hd]
  exact fragment_of_criterion ref hactive (criterion?_compare ref hop hread)

theorem fragment_ofParts_range {low high : Decimal} (hl : low.restored = low)
    (hh : high.restored = high) (hbounds : ¬ (low = .least ∧ high = .greatest)) :
    fragment (ofParts true .between (boundText low .least) (boundText high .greatest)) ref =
      rangeOf ref (number low) (number high) := by
  have hleast : low.sameValue .least → low = .least := Decimal.eq_of_sameValue_bound rfl rfl
  have hgreatest : high.sameValue .greatest → high = .greatest :=
    Decimal.eq_of_sameValue_bound rfl rfl
  have hop := operator_ofParts true .between (fun _ => rfl) (boundText low .least)
    (boundText high .greatest)
  have hactive : isActive
      (ofParts true .between (boundText low .least) (boundText high .greatest)) := by
    rw [isActive, hop, first_ofParts, second_ofParts, isBlankText_boundText, isBlankText_boundText]
    by_contra hblank
    simp only [Bool.not_eq_true, Bool.or_eq_false_iff, Bool.not_eq_false'] at hblank
    exact hbounds ⟨hleast hblank.1, hgreatest hblank.2⟩
  exact fragment_of_criterion ref hactive (criterion?_between ref hop (bound?_boundText hl hleast)
    (bound?_boundText hh hgreatest))

end Written

/-- The second input has the operator of the first, and its operands are written as they are in a
predicate: trimmed for a wildcard, and otherwise as the numbers that were read. A bound for which a
blank one stands is blank, and so is an operand that the operator does not need. -/
def Restates (input input' : Input) : Prop :=
  operator input' = operator input ∧
  match operator input with
  | .wildcard => first input' = trim (first input) ∧ second input' = ""
  | .compare _ => ∃ d, Decimal.read? (first input) = some d ∧ first input' = d.text ∧
      second input' = ""
  | .between => ∃ low high, bound? (first input) .least = some low ∧
      bound? (second input) .greatest = some high ∧ first input' = boundText low .least ∧
      second input' = boundText high .greatest

theorem exists_restore? (hn : name ≠ "") {between : Bool} (h : isActive input)
    (hr : Recovers between input) :
    ∃ input', restore? between (fragment input (columnRef name)) = some input' ∧
      Restates input input' ∧ ∀ ref, fragment input' ref = fragment input ref := by
  unfold Recovers at hr
  unfold Restates
  cases hop : operator input with
  | wildcard =>
    have hfirst : isBlankText (first input) = false := by simpa [isActive, hop] using h
    have hop' := operator_ofParts between .wildcard nofun (trim (first input)) ""
    rw [fragment_of_criterion _ h (criterion?_wildcard _ hop)]
    refine ⟨_, restore?_wildcard hn between _, ⟨hop', rfl, rfl⟩, fun ref => ?_⟩
    rw [fragment_of_criterion _ h (criterion?_wildcard _ hop)]
    exact fragment_ofParts_wildcard ref between hfirst
  | compare op =>
    rw [hop] at hr
    obtain ⟨d, hd, hplain⟩ := hr
    have hrestore := restore?_compare hn between op d
    rw [hplain] at hrestore
    have hop' := operator_ofParts between (.compare op) nofun d.text ""
    rw [fragment_of_criterion _ h (criterion?_compare _ hop hd)]
    refine ⟨_, hrestore, ⟨hop', d, hd, rfl, rfl⟩, fun ref => ?_⟩
    rw [fragment_of_criterion _ h (criterion?_compare _ hop hd)]
    exact fragment_ofParts_compare ref between op hplain
  | between =>
    rw [hop] at hr
    obtain ⟨rfl, low, high, hlow, hhigh, hl, hh, hbounds⟩ := hr
    have hrestore := restore?_range hn low high
    rw [hl, hh] at hrestore
    have hop' := operator_ofParts true .between (fun _ => rfl) (boundText low .least)
      (boundText high .greatest)
    rw [fragment_of_criterion _ h (criterion?_between _ hop hlow hhigh)]
    refine ⟨_, hrestore, ⟨hop', low, high, hlow, hhigh, rfl, rfl⟩, fun ref => ?_⟩
    rw [fragment_of_criterion _ h (criterion?_between _ hop hlow hhigh)]
    exact fragment_ofParts_range ref hl hh hbounds

end NumericFilter

namespace Date

theorem not_isBlankText_text (d : Date) : isBlankText d.text = false := by
  rw [isBlankText, List.all_eq_false]
  refine ⟨'-', ?_, by decide⟩
  rw [text, String.toList_ofList, toChars]
  simp

structure IsReread (formats : List String) (d : Date) : Prop where
  year : 0 ≤ d.year ∧ d.year ≤ 9999
  read : read? formats d.text = some d

end Date

/-- The blank entry and every operator but the range are always offered. -/
theorem DateOperator.mem_offered_iff {between : Bool} {op : Option DateOperator} :
    op ∈ offered between ↔ (op = some .between → between = true) := by
  rcases op with - | op | -
  · simp [offered]
  · cases op <;> simp [offered, Comparison.offered]
  · simp [offered]

namespace DateFilter

variable {formats : List String}

theorem ofLabel?_labelOf? (op : DateOperator) :
    DateOperator.ofLabel? (DateOperator.labelOf? (some op)) = some op := by
  cases op with
  | compare op => cases op <;> rfl
  | between => rfl

theorem ofParts_eq (between : Bool) (op : DateOperator) (h : op = .between → between = true)
    (low high : String) : ofParts between (some op) low high = .operands op.label low high := by
  have hoffered : ¬ (some op = some .between ∧ between = false) := by
    rintro ⟨hop, hb⟩
    rw [h (Option.some.inj hop)] at hb
    cases hb
  rw [ofParts, if_neg hoffered]
  rfl

theorem operator?_ofParts (between : Bool) (op : DateOperator) (h : op = .between → between = true)
    (low high : String) : operator? (ofParts between (some op) low high) = some op := by
  rw [ofParts_eq between op h]
  exact ofLabel?_labelOf? op

theorem first_ofParts (between : Bool) (op : Option DateOperator) (low high : String) :
    first (ofParts between op low high) = low := rfl

theorem second_ofParts (between : Bool) (op : Option DateOperator) (low high : String) :
    second (ofParts between op low high) = high := rfl

theorem bound?_boundText {d blank : Date} (h : d = blank ∨ d.IsReread formats) :
    bound? formats (boundText d blank) blank = some d := by
  by_cases hd : d = blank
  · rw [boundText, if_pos hd, hd]
    rfl
  · rw [boundText, if_neg hd, bound?, if_neg (by simp [d.not_isBlankText_text])]
    exact (h.resolve_left hd).read

theorem isBlankText_boundText (d blank : Date) : isBlankText (boundText d blank) ↔ d = blank := by
  by_cases hd : d = blank
  · simp [boundText, hd, isBlankText]
  · simp [boundText, hd, d.not_isBlankText_text]

theorem takes_bound {d blank : Date} (hy : 0 ≤ blank.year ∧ blank.year ≤ 9999)
    (h : d = blank ∨ d.IsReread formats) : Takes takeDate? (date d) (some d) := by
  rcases h with rfl | h
  · exact takes_date hy
  · exact takes_date h.year

def Recovers (between : Bool) (formats : List String) (input : Input) : Prop :=
  match operator? input with
  | none => True
  | some (.compare _) => ∃ d, Date.read? formats (first input) = some d ∧ d.IsReread formats
  | some .between => between ∧ ∃ low high, bound? formats (first input) earliest = some low ∧
      bound? formats (second input) latest = some high ∧
      (low = earliest ∨ low.IsReread formats) ∧ (high = latest ∨ high.IsReread formats) ∧
      ¬ (low = earliest ∧ high = latest)

section Criterion

variable (ref : String)

theorem criterion?_compare {op : Comparison} {d : Date} (hop : operator? input = some (.compare op))
    (hd : Date.read? formats (first input) = some d) :
    criterion? formats input ref = some (Literal.compare ref op (date d)) := by
  rw [criterion?, hop, hd]
  rfl

theorem criterion?_between {low high : Date} (hop : operator? input = some .between)
    (hlow : bound? formats (first input) earliest = some low)
    (hhigh : bound? formats (second input) latest = some high) :
    criterion? formats input ref = some (rangeOf ref (date low) (date high)) := by
  rw [criterion?, hop, hlow, hhigh]
  rfl

theorem fragment_of_criterion {s : String} (h : isActive input)
    (hs : criterion? formats input ref = some s) : fragment formats input ref = s := by
  rw [fragment, if_pos h, hs, Option.getD_some]

end Criterion

theorem restore?_compare (hn : name ≠ "") (between : Bool) (op : Comparison) {d : Date}
    (hd : 0 ≤ d.year ∧ d.year ≤ 9999) :
    restore? between (Literal.compare (columnRef name) op (date d)) =
      some (ofParts between (some (.compare op)) d.text "") := by
  have htakes := takes_date hd
  have hrange : restoreRange? between (Literal.compare (columnRef name) op (date d)) = none := by
    cases between with
    | false => rfl
    | true => simp [restoreRange?, range?_compare hn op (.inl ⟨_, htakes⟩)]
  rw [restore?, hrange]
  simp [restoreComparison?, comparison?_compare hn op htakes]

theorem restore?_range (hn : name ≠ "") {low high : Date}
    (hl : Takes takeDate? (date low) (some low)) (hh : Takes takeDate? (date high) (some high)) :
    restore? true (rangeOf (columnRef name) (date low) (date high)) =
      some (ofParts true (some .between) (boundText low earliest) (boundText high latest)) := by
  simp [restore?, restoreRange?, range?_rangeOf hn hl hh]

section Written

variable (ref : String)

theorem fragment_ofParts_compare (between : Bool) (op : Comparison) {d : Date}
    (hd : d.IsReread formats) :
    fragment formats (ofParts between (some (.compare op)) d.text "") ref =
      Literal.compare ref op (date d) := by
  have hop := operator?_ofParts between (.compare op) nofun d.text ""
  have hactive : isActive (ofParts between (some (.compare op)) d.text "") := by
    rw [isActive, hop, first_ofParts, d.not_isBlankText_text]
    rfl
  exact fragment_of_criterion ref hactive (criterion?_compare ref hop hd.read)

theorem fragment_ofParts_range {low high : Date} (hl : low = earliest ∨ low.IsReread formats)
    (hh : high = latest ∨ high.IsReread formats) (hbounds : ¬ (low = earliest ∧ high = latest)) :
    fragment formats (ofParts true (some .between) (boundText low earliest) (boundText high latest))
      ref = rangeOf ref (date low) (date high) := by
  have hop := operator?_ofParts true .between (fun _ => rfl) (boundText low earliest)
    (boundText high latest)
  have hactive : isActive
      (ofParts true (some .between) (boundText low earliest) (boundText high latest)) := by
    rw [isActive, hop, first_ofParts, second_ofParts]
    by_contra hblank
    simp only [Bool.not_eq_true, Bool.or_eq_false_iff, Bool.not_eq_false'] at hblank
    exact hbounds ⟨(isBlankText_boundText low earliest).mp hblank.1,
      (isBlankText_boundText high latest).mp hblank.2⟩
  exact fragment_of_criterion ref hactive (criterion?_between ref hop (bound?_boundText hl)
    (bound?_boundText hh))

end Written

theorem exists_restore? (hn : name ≠ "") {between : Bool} (h : isActive input)
    (hr : Recovers between formats input) :
    ∃ input', restore? between (fragment formats input (columnRef name)) = some input' ∧
      ∀ ref, fragment formats input' ref = fragment formats input ref := by
  unfold Recovers at hr
  match hop : operator? input with
  | none =>
    rw [isActive, hop] at h
    cases h
  | some (.compare op) =>
    rw [hop] at hr
    obtain ⟨d, hd, hreread⟩ := hr
    rw [fragment_of_criterion _ h (criterion?_compare _ hop hd)]
    refine ⟨_, restore?_compare hn between op hreread.year, fun ref => ?_⟩
    rw [fragment_of_criterion _ h (criterion?_compare _ hop hd)]
    exact fragment_ofParts_compare ref between op hreread
  | some .between =>
    rw [hop] at hr
    obtain ⟨rfl, low, high, hlow, hhigh, hl, hh, hbounds⟩ := hr
    rw [fragment_of_criterion _ h (criterion?_between _ hop hlow hhigh)]
    refine ⟨_, restore?_range hn (takes_bound (by decide) hl) (takes_bound (by decide) hh),
      fun ref => ?_⟩
    rw [fragment_of_criterion _ h (criterion?_between _ hop hlow hhigh)]
    exact fragment_ofParts_range ref hl hh hbounds

end DateFilter

namespace Strategy

def Recovers (input : Input) : Strategy → Prop
  | numeric between => NumericFilter.Recovers between input
  | date between formats => DateFilter.Recovers between formats input
  | distinct values hasNull => ChoiceFilter.offers values hasNull (ChoiceFilter.chosen input)
  | _ => True

/-- From what an active filter writes, a new filter of the same kind gets criteria that write the
same. -/
theorem exists_restore? {s : Strategy} (hn : name ≠ "") (h : s.isActive input)
    (hr : s.Recovers input) :
    ∃ input', s.restore? (s.fragment input (columnRef name)) = some input' ∧
      s.fragment input' (columnRef name) = s.fragment input (columnRef name) := by
  cases s with
  | text => exact ⟨_, TextFilter.restore?_fragment hn h, rfl⟩
  | numeric between =>
    obtain ⟨input', hrestore, -, hsame⟩ := NumericFilter.exists_restore? hn h hr
    exact ⟨input', hrestore, hsame _⟩
  | date between formats =>
    obtain ⟨input', hrestore, hsame⟩ := DateFilter.exists_restore? hn h hr
    exact ⟨input', hrestore, hsame _⟩
  | boolean => exact ⟨_, TruthFilter.restore?_fragment hn h, rfl⟩
  | presence => exact ⟨_, PresenceFilter.restore?_fragment hn h, rfl⟩
  | distinct values hasNull =>
    have hc : ChoiceFilter.chosen input ≠ .all := by simpa [isActive] using h
    exact ⟨_, ChoiceFilter.restore?_fragment hn hc hr, rfl⟩
  | empty => cases h

theorem fragment_ne_empty {s : Strategy} (hn : name ≠ "") (h : s.isActive input) :
    s.fragment input (columnRef name) ≠ "" := by
  obtain ⟨e, he, -⟩ := readsOver_fragment hn h
  exact he.ne_empty

end Strategy

end TableFilter
