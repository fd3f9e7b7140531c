import TableFilter.Proofs.Calendar.ReadBack
import TableFilter.Proofs.Filter.Restoring

/-!
# Criteria are lost

Criteria that do not recover are lost. What they are written as is not recognised by a new filter,
or it stands for criteria that are written differently. So the conditions under which criteria come
back are the weakest ones.
-/

namespace TableFilter

open Text Literal Form

variable {name : String} {input input' : Input}

theorem Literal.never_eq (ref : String) : never ref = Literal.compare ref .eq "false" := by
  apply String.toList_injective
  simp [never, Literal.compare, Comparison.symbol]

namespace Decimal

variable (d : Decimal)

theorem restored_restored : d.restored.restored = d.restored := by
  simp [restored]

/-- The sign of a zero can be told from what is written. -/
theorem restored_eq_of_text_eq (h : d.restored.text = d.text) : d.restored = d := by
  by_contra hne
  have hlost : d.negative = true ∧ d.coefficient = 0 := by
    by_contra hkept
    exact hne (d.restored_eq (by simpa [Decidable.imp_iff_not_or] using hkept))
  have hpositive : d.restored.negative = false := by simp [restored, hlost.2]
  obtain ⟨c, cs, hcs, hc⟩ := d.restored.exists_unsignedChars_eq_cons
  have hchars : d.restored.toChars = d.toChars := by
    simpa [text] using congrArg String.toList h
  rw [toChars_eq, toChars_eq, hpositive, hlost.1, hcs] at hchars
  cases hchars
  cases hc

theorem blank_notMem_number : ' ' ∉ (number d).toList := by
  intro h
  rw [number, text, String.toList_ofList] at h
  exact absurd (d.isBlank_of_mem_toChars h) (by decide)

end Decimal

namespace Date

variable {d e : Date}

theorem date_inj : Literal.date d = Literal.date e ↔ d = e := by
  refine ⟨fun h => ?_, congrArg _⟩
  have hchars := congrArg String.toList h
  rw [Literal.date, Literal.date, String.toList_ofList, String.toList_ofList] at hchars
  have hsame := List.append_cancel_right (List.cons.inj hchars).2
  have hread := d.ofPattern?_monthFirstChars
  rw [hsame, e.ofPattern?_monthFirstChars] at hread
  exact (Option.some.inj hread).symm

theorem blank_notMem_date (d : Date) : ' ' ∉ (Literal.date d).toList := by
  intro h
  rw [Literal.date, String.toList_ofList, List.cons_append, List.mem_cons, List.mem_append] at h
  rcases h with h | h | h
  · cases h
  · exact absurd (isBlank_of_mem_monthFirstChars h) (by decide)
  · cases List.mem_singleton.mp h

end Date

namespace NumericFilter

theorem restore?_of_refuses (hn : name ≠ "") (between : Bool) (op : Comparison) {text : String}
    (h : Refuses takeDecimal? text) :
    restore? between (Literal.compare (columnRef name) op text) = none := by
  have hrange : restoreRange? between (Literal.compare (columnRef name) op text) = none := by
    cases between with
    | false => rfl
    | true => simp [restoreRange?, range?_compare hn op (.inr h)]
  rw [restore?, hrange,
    restoreWildcard?_reference (isReference_columnRef hn) between (toList_compare ..)]
  simp [restoreComparison?, comparison?_of_refuses hn op h]

theorem restore?_never (hn : name ≠ "") (between : Bool) :
    restore? between (never (columnRef name)) = none := by
  rw [never_eq]
  exact restore?_of_refuses hn between .eq refuses_number_false

theorem restore?_range_of_not_offered (hn : name ≠ "") (low high : Decimal) :
    restore? false (rangeOf (columnRef name) (number low) (number high)) = none := by
  have hrange : restoreRange? false (rangeOf (columnRef name) (number low) (number high)) = none :=
    rfl
  rw [restore?, hrange,
    restoreWildcard?_reference (isReference_columnRef hn) false (toList_rangeOf ..)]
  simp [restoreComparison?, comparison?_rangeOf hn (.inl ⟨_, takes_number low⟩)]

/-- The operands that the operator needs can be read. A bound may be blank. -/
def IsReadable (input : Input) : Prop :=
  match operator input with
  | .wildcard => True
  | .compare _ => ∃ d, Decimal.read? (first input) = some d
  | .between => (∃ low, bound? (first input) .least = some low) ∧
      ∃ high, bound? (second input) .greatest = some high

theorem isSome_criterion? (input : Input) (ref : String) :
    (criterion? input ref).isSome ↔ IsReadable input := by
  unfold criterion? IsReadable
  cases operator input with
  | wildcard => simp
  | compare op => simp [Option.isSome_iff_exists]
  | between =>
    cases bound? (first input) .least with
    | none => simp
    | some low => cases bound? (second input) .greatest <;> simp

theorem fragment_of_not_isReadable {ref : String} (h : isActive input)
    (hread : ¬ IsReadable input) : fragment input ref = never ref := by
  have hnone := Option.not_isSome_iff_eq_none.mp (mt (isSome_criterion? input ref).mp hread)
  rw [fragment, if_pos h, hnone, Option.getD_none]

theorem isReadable_of_restore? (hn : name ≠ "") {between : Bool} (h : isActive input)
    (hr : restore? between (fragment input (columnRef name)) = some input') :
    IsReadable input := by
  by_contra hread
  rw [fragment_of_not_isReadable h hread, restore?_never hn] at hr
  cases hr

theorem not_isActive_unbounded : ¬ isActive (ofParts true .between (boundText .least .least)
    (boundText .greatest .greatest)) := by decide

/-- Operands that can be read are written as they were read, and a range that is offered has a bound
that a blank one does not stand for. -/
def Survives (between : Bool) (input : Input) : Prop :=
  match operator input with
  | .wildcard => True
  | .compare _ => ∀ d, Decimal.read? (first input) = some d → d.restored = d
  | .between => between → ∀ low high, bound? (first input) .least = some low →
      bound? (second input) .greatest = some high →
      low.restored = low ∧ high.restored = high ∧ ¬ (low = .least ∧ high = .greatest)

theorem survives_of_restore? (hn : name ≠ "") {between : Bool} (h : isActive input)
    (hr : restore? between (fragment input (columnRef name)) = some input')
    (hf : fragment input' (columnRef name) = fragment input (columnRef name)) :
    Survives between input := by
  have hstill : isActive input' := by
    by_contra hinactive
    rw [fragment, if_neg hinactive] at hf
    exact Strategy.fragment_ne_empty (s := .numeric between) hn h hf.symm
  unfold Survives
  cases hop : operator input with
  | wildcard => trivial
  | compare op =>
    intro d hd
    rw [fragment_of_criterion _ h (criterion?_compare _ hop hd)] at hr hf
    rw [restore?_compare hn] at hr
    rw [← Option.some.inj hr, fragment_ofParts_compare _ between op d.restored_restored,
      compare_inj] at hf
    exact d.restored_eq_of_text_eq hf
  | between =>
    rintro rfl low high hlow hhigh
    rw [fragment_of_criterion _ h (criterion?_between _ hop hlow hhigh)] at hr hf
    rw [restore?_range hn] at hr
    rw [← Option.some.inj hr] at hf hstill
    -- Both bounds blank would write nothing, but what is written stays the same.
    have hbounds : ¬ (low.restored = .least ∧ high.restored = .greatest) := by
      rintro ⟨hleast, hgreatest⟩
      rw [hleast, hgreatest] at hstill
      exact not_isActive_unbounded hstill
    rw [fragment_ofParts_range _ low.restored_restored high.restored_restored hbounds] at hf
    have hsame := rangeOf_inj hn (Decimal.blank_notMem_number _) (Decimal.blank_notMem_number _)
      (Decimal.blank_notMem_number _) (Decimal.blank_notMem_number _) hf
    have hl := low.restored_eq_of_text_eq hsame.1
    have hh := high.restored_eq_of_text_eq hsame.2
    rw [hl, hh] at hbounds
    exact ⟨hl, hh, hbounds⟩

theorem recovers_of_survives (hn : name ≠ "") {between : Bool} (h : isActive input)
    (hr : restore? between (fragment input (columnRef name)) = some input')
    (hs : Survives between input) : Recovers between input := by
  have hread := isReadable_of_restore? hn h hr
  unfold IsReadable at hread
  unfold Survives at hs
  unfold Recovers
  cases hop : operator input with
  | wildcard => trivial
  | compare op =>
    rw [hop] at hread hs
    obtain ⟨d, hd⟩ := hread
    exact ⟨d, hd, hs d hd⟩
  | between =>
    rw [hop] at hread hs
    obtain ⟨⟨low, hlow⟩, high, hhigh⟩ := hread
    rw [fragment_of_criterion _ h (criterion?_between _ hop hlow hhigh)] at hr
    cases between with
    | false =>
      rw [restore?_range_of_not_offered hn] at hr
      cases hr
    | true => exact ⟨rfl, low, high, hlow, hhigh, hs rfl low high hlow hhigh⟩

theorem recovers_of_restore? (hn : name ≠ "") {between : Bool} (h : isActive input)
    (hr : restore? between (fragment input (columnRef name)) = some input')
    (hf : fragment input' (columnRef name) = fragment input (columnRef name)) :
    Recovers between input :=
  recovers_of_survives hn h hr (survives_of_restore? hn h hr hf)

end NumericFilter

namespace DateFilter

variable {formats : List String}

theorem restore?_of_refuses (hn : name ≠ "") (between : Bool) (op : Comparison) {text : String}
    (h : Refuses takeDate? text) :
    restore? between (Literal.compare (columnRef name) op text) = none := by
  have hrange : restoreRange? between (Literal.compare (columnRef name) op text) = none := by
    cases between with
    | false => rfl
    | true => simp [restoreRange?, range?_compare hn op (.inr h)]
  rw [restore?, hrange]
  simp [restoreComparison?, comparison?_of_refuses hn op h]

theorem restore?_never (hn : name ≠ "") (between : Bool) :
    restore? between (never (columnRef name)) = none := by
  rw [never_eq]
  exact restore?_of_refuses hn between .eq refuses_date_false

theorem takes_or_refuses_date (d : Date) :
    (∃ a, Takes takeDate? (date d) a) ∨ Refuses takeDate? (date d) := by
  by_cases hy : 0 ≤ d.year ∧ d.year ≤ 9999
  · exact .inl ⟨_, takes_date hy⟩
  · exact .inr (refuses_date hy)

/-- A range is not restored where none is offered or a year has not four digits. -/
theorem restore?_range_eq_none (hn : name ≠ "") {between : Bool} {low high : Date}
    (h : between = false ∨ ¬ (0 ≤ low.year ∧ low.year ≤ 9999) ∨
      ¬ (0 ≤ high.year ∧ high.year ≤ 9999)) :
    restore? between (rangeOf (columnRef name) (date low) (date high)) = none := by
  have hrange : restoreRange? between (rangeOf (columnRef name) (date low) (date high)) = none := by
    cases between with
    | false => rfl
    | true =>
      have hrefuses : Refuses takeDate? (date low) ∨
          (∃ a, Takes takeDate? (date low) a) ∧ Refuses takeDate? (date high) := by
        rcases h with h | h | h
        · cases h
        · exact .inl (refuses_date h)
        · exact (takes_or_refuses_date low).elim (fun hl => .inr ⟨hl, refuses_date h⟩) .inl
      simp [restoreRange?, range?_of_refuses hn hrefuses]
  rw [restore?, hrange]
  simp [restoreComparison?, comparison?_rangeOf hn (takes_or_refuses_date low)]

/-- Everything else is no range to a new filter, and a range is no comparison either. -/
theorem recognised_of_restore? (hn : name ≠ "") {between : Bool} {low high : Date}
    (hr : restore? between (rangeOf (columnRef name) (date low) (date high)) = some input') :
    between ∧ (0 ≤ low.year ∧ low.year ≤ 9999) ∧ (0 ≤ high.year ∧ high.year ≤ 9999) := by
  by_contra hnot
  have hlost : between = false ∨ ¬ (0 ≤ low.year ∧ low.year ≤ 9999) ∨
      ¬ (0 ≤ high.year ∧ high.year ≤ 9999) := by
    simpa only [not_and_or, Bool.not_eq_true] using hnot
  rw [restore?_range_eq_none hn hlost] at hr
  cases hr

theorem fragment_of_no_criterion {ref : String} (h : isActive input)
    (hs : criterion? formats input ref = none) : fragment formats input ref = never ref := by
  rw [fragment, if_pos h, hs, Option.getD_none]

def IsReadable (formats : List String) (input : Input) : Prop :=
  match operator? input with
  | none => True
  | some (.compare _) => ∃ d, Date.read? formats (first input) = some d
  | some .between => (∃ low, bound? formats (first input) earliest = some low) ∧
      ∃ high, bound? formats (second input) latest = some high

theorem isSome_criterion? (h : isActive input) (ref : String) :
    (criterion? formats input ref).isSome ↔ IsReadable formats input := by
  unfold criterion? IsReadable
  match hop : operator? input with
  | none =>
    rw [isActive, hop] at h
    cases h
  | some (.compare op) => simp [Option.isSome_iff_exists]
  | some .between =>
    cases bound? formats (first input) earliest with
    | none => simp
    | some low => cases bound? formats (second input) latest <;> simp

theorem fragment_of_not_isReadable {ref : String} (h : isActive input)
    (hread : ¬ IsReadable formats input) : fragment formats input ref = never ref :=
  fragment_of_no_criterion h
    (Option.not_isSome_iff_eq_none.mp (mt (isSome_criterion? h ref).mp hread))

theorem isReadable_of_restore? (hn : name ≠ "") {between : Bool} (h : isActive input)
    (hr : restore? between (fragment formats input (columnRef name)) = some input') :
    IsReadable formats input := by
  by_contra hread
  rw [fragment_of_not_isReadable h hread, restore?_never hn] at hr
  cases hr

/-- An active filter that writes something else than a comparison with a truth value has criteria
for it. -/
theorem criterion?_of_fragment {ref s : String} (h : isActive input)
    (hf : fragment formats input ref = s) (hs : s ≠ never ref) :
    criterion? formats input ref = some s := by
  cases hc : criterion? formats input ref with
  | none => exact absurd (hf.symm.trans (fragment_of_no_criterion h hc)) hs
  | some s' => rw [← hf, fragment_of_criterion _ h hc]

theorem compare_ne_never (hn : name ≠ "") (op : Comparison) {d : Date}
    (hy : 0 ≤ d.year ∧ d.year ≤ 9999) :
    Literal.compare (columnRef name) op (date d) ≠ never (columnRef name) := by
  intro h
  have hrestore := restore?_compare hn false op hy
  rw [h, restore?_never hn] at hrestore
  cases hrestore

theorem rangeOf_ne_never (hn : name ≠ "") {low high : Date}
    (hl : 0 ≤ low.year ∧ low.year ≤ 9999) (hh : 0 ≤ high.year ∧ high.year ≤ 9999) :
    rangeOf (columnRef name) (date low) (date high) ≠ never (columnRef name) := by
  intro h
  have hrestore := restore?_range hn (takes_date hl) (takes_date hh)
  rw [h, restore?_never hn] at hrestore
  cases hrestore

theorem not_isActive_unbounded : ¬ isActive (ofParts true (some .between)
    (boundText earliest earliest) (boundText latest latest)) := by decide

theorem isReread_of_bound? {d blank : Date} (hy : 0 ≤ d.year ∧ d.year ≤ 9999)
    (h : bound? formats (boundText d blank) blank = some d) : d = blank ∨ d.IsReread formats := by
  by_cases hd : d = blank
  · exact .inl hd
  · rw [boundText, if_neg hd, bound?, if_neg (by simp [d.not_isBlankText_text])] at h
    exact .inr ⟨hy, h⟩

section Written

variable (hn : name ≠ "")

include hn

theorem isReread_of_compare {between : Bool} {op : Comparison} {d : Date}
    (hy : 0 ≤ d.year ∧ d.year ≤ 9999)
    (hactive : isActive (ofParts between (some (.compare op)) d.text ""))
    (hf : fragment formats (ofParts between (some (.compare op)) d.text "") (columnRef name) =
      Literal.compare (columnRef name) op (date d)) : d.IsReread formats := by
  have hsame := criterion?_of_fragment hactive hf (compare_ne_never hn op hy)
  rw [criterion?, operator?_ofParts between (.compare op) (by simp), first_ofParts,
    Option.map_eq_some_iff] at hsame
  obtain ⟨e, he, hwritten⟩ := hsame
  rw [Date.date_inj.mp (compare_inj.mp hwritten)] at he
  exact ⟨hy, he⟩

/-- The bounds of a range that is written again are blank or have been reread. -/
theorem isReread_of_range {low high : Date} (hyl : 0 ≤ low.year ∧ low.year ≤ 9999)
    (hyh : 0 ≤ high.year ∧ high.year ≤ 9999)
    (hactive : isActive
      (ofParts true (some .between) (boundText low earliest) (boundText high latest)))
    (hf : fragment formats
      (ofParts true (some .between) (boundText low earliest) (boundText high latest))
      (columnRef name) = rangeOf (columnRef name) (date low) (date high)) :
    (low = earliest ∨ low.IsReread formats) ∧ (high = latest ∨ high.IsReread formats) := by
  have hsame := criterion?_of_fragment hactive hf (rangeOf_ne_never hn hyl hyh)
  rw [criterion?, operator?_ofParts true .between (fun _ => rfl)] at hsame
  simp only [first_ofParts, second_ofParts, Option.bind_eq_bind, Option.bind_eq_some_iff,
    Option.pure_def, Option.some.injEq] at hsame
  obtain ⟨low', hlow, high', hhigh, hwritten⟩ := hsame
  have hbounds := rangeOf_inj hn (Date.blank_notMem_date _) (Date.blank_notMem_date _)
    (Date.blank_notMem_date _) (Date.blank_notMem_date _) hwritten
  rw [Date.date_inj.mp hbounds.1] at hlow
  rw [Date.date_inj.mp hbounds.2] at hhigh
  exact ⟨isReread_of_bound? hyl hlow, isReread_of_bound? hyh hhigh⟩

end Written

def Survives (between : Bool) (formats : List String) (input : Input) : Prop :=
  match operator? input with
  | none => True
  | some (.compare _) => ∀ d, Date.read? formats (first input) = some d →
      0 ≤ d.year ∧ d.year ≤ 9999 → d.IsReread formats
  | some .between => between → ∀ low high, bound? formats (first input) earliest = some low →
      bound? formats (second input) latest = some high →
      0 ≤ low.year ∧ low.year ≤ 9999 → 0 ≤ high.year ∧ high.year ≤ 9999 →
      (low = earliest ∨ low.IsReread formats) ∧ (high = latest ∨ high.IsReread formats) ∧
        ¬ (low = earliest ∧ high = latest)

theorem survives_of_restore? (hn : name ≠ "") {between : Bool} (h : isActive input)
    (hr : restore? between (fragment formats input (columnRef name)) = some input')
    (hf : fragment formats input' (columnRef name) = fragment formats input (columnRef name)) :
    Survives between formats input := by
  have hstill : isActive input' := by
    by_contra hinactive
    rw [fragment, if_neg hinactive] at hf
    exact Strategy.fragment_ne_empty (s := .date between formats) hn h hf.symm
  unfold Survives
  cases hop : operator? input with
  | none => trivial
  | some operator =>
    cases operator with
    | compare op =>
      intro d hd hy
      rw [fragment_of_criterion _ h (criterion?_compare _ hop hd)] at hr hf
      rw [restore?_compare hn between op hy] at hr
      rw [← Option.some.inj hr] at hf hstill
      exact isReread_of_compare hn hy hstill hf
    | between =>
      rintro rfl low high hlow hhigh hyl hyh
      rw [fragment_of_criterion _ h (criterion?_between _ hop hlow hhigh)] at hr hf
      rw [restore?_range hn (takes_date hyl) (takes_date hyh)] at hr
      rw [← Option.some.inj hr] at hf hstill
      obtain ⟨hl, hh⟩ := isReread_of_range hn hyl hyh hstill hf
      refine ⟨hl, hh, ?_⟩
      rintro ⟨rfl, rfl⟩
      exact not_isActive_unbounded hstill

theorem recovers_of_survives (hn : name ≠ "") {between : Bool} (h : isActive input)
    (hr : restore? between (fragment formats input (columnRef name)) = some input')
    (hs : Survives between formats input) : Recovers between formats input := by
  have hread := isReadable_of_restore? hn h hr
  unfold IsReadable at hread
  unfold Survives at hs
  unfold Recovers
  match hop : operator? input with
  | none => trivial
  | some (.compare op) =>
    rw [hop] at hread hs
    obtain ⟨d, hd⟩ := hread
    rw [fragment_of_criterion _ h (criterion?_compare _ hop hd)] at hr
    by_cases hy : 0 ≤ d.year ∧ d.year ≤ 9999
    case pos => exact ⟨d, hd, hs d hd hy⟩
    case neg =>
      rw [restore?_of_refuses hn between op (refuses_date hy)] at hr
      cases hr
  | some .between =>
    rw [hop] at hread hs
    obtain ⟨⟨low, hlow⟩, high, hhigh⟩ := hread
    rw [fragment_of_criterion _ h (criterion?_between _ hop hlow hhigh)] at hr
    obtain ⟨rfl, hyl, hyh⟩ := recognised_of_restore? hn hr
    exact ⟨rfl, low, high, hlow, hhigh, hs rfl low high hlow hhigh hyl hyh⟩

theorem recovers_of_restore? (hn : name ≠ "") {between : Bool} (h : isActive input)
    (hr : restore? between (fragment formats input (columnRef name)) = some input')
    (hf : fragment formats input' (columnRef name) = fragment formats input (columnRef name)) :
    Recovers between formats input :=
  recovers_of_survives hn h hr (survives_of_restore? hn h hr hf)

end DateFilter

namespace ChoiceFilter

theorem offers_of_restore? (hn : name ≠ "") (h : chosen input ≠ .all) {values : List String}
    {hasNull : Bool}
    (hr : restore? values hasNull (fragment input (columnRef name)) = some input') :
    offers values hasNull (chosen input) := by
  rw [restore?, restoreChoice?_fragment hn h, Option.map_eq_some_iff] at hr
  obtain ⟨choice, hchoice, -⟩ := hr
  obtain ⟨hchosen, hoffers⟩ := Option.filter_eq_some_iff.mp hchoice
  rwa [Option.some.inj hchosen]

end ChoiceFilter

namespace Strategy

/-- Criteria recover if a new filter of the same kind gets criteria that write the same, and only
then. -/
theorem recovers_iff {s : Strategy} (hn : name ≠ "") (h : s.isActive input) :
    s.Recovers input ↔ ∃ input', s.restore? (s.fragment input (columnRef name)) = some input' ∧
      s.fragment input' (columnRef name) = s.fragment input (columnRef name) := by
  refine ⟨exists_restore? hn h, ?_⟩
  rintro ⟨input', hr, hf⟩
  cases s with
  | numeric between => exact NumericFilter.recovers_of_restore? hn h hr hf
  | date between formats => exact DateFilter.recovers_of_restore? hn h hr hf
  | distinct values hasNull =>
    have hc : ChoiceFilter.chosen input ≠ .all := by simpa [isActive] using h
    exact ChoiceFilter.offers_of_restore? hn hc hr
  | _ => trivial

end Strategy

end TableFilter
