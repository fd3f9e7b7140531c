import TableFilter.Proofs.Filter.Losing
import TableFilter.Proofs.Filter.Recognising

/-!
# Operands come back

A filter of numbers or of dates takes over the operator of the filter whose predicate it is given,
and the texts of the numbers or dates that the other one has read. A number is read again as it was
written, unless it is a zero with a sign. A date is put into the input with the year first, where
the formats of the filter are tried before that form. So the criteria stay the same if the formats
read each date that is put in as that date, and only then.
-/

namespace TableFilter

open Text Literal Form

variable {name : String} {input : Input}

theorem NumericOperator.between_mem_offered {between : Bool} (h : .between ∈ offered between) :
    between = true := mem_offered_iff.mp h rfl

theorem DateOperator.between_mem_offered {between : Bool} (h : some .between ∈ offered between) :
    between = true := mem_offered_iff.mp h rfl

namespace NumericFilter

def IsUnbounded (input : Input) : Prop :=
  operator input = .between ∧ bound? (first input) .least = some .least ∧
    bound? (second input) .greatest = some .greatest

/-- The number is an operand that the operator needs, and no bound for which a blank one stands. -/
def Uses (input : Input) (d : Decimal) : Prop :=
  match operator input with
  | .wildcard => False
  | .compare _ => Decimal.read? (first input) = some d
  | .between => (bound? (first input) .least = some d ∧ d ≠ .least) ∨
      (bound? (second input) .greatest = some d ∧ d ≠ .greatest)

theorem restored_eq_of_read? {d : Decimal} (h : Decimal.read? d.text = some d) : d.restored = d := by
  rw [d.read?_text] at h
  exact Option.some.inj h

theorem recovers_of_readable {between : Bool}
    (hoffered : operator input ∈ NumericOperator.offered between) (hread : IsReadable input)
    (hbounds : ¬ IsUnbounded input)
    (hinverse : ∀ d, Uses input d → Decimal.read? d.text = some d) : Recovers between input := by
  unfold IsReadable at hread
  unfold IsUnbounded at hbounds
  unfold Uses at hinverse
  unfold Recovers
  cases hop : operator input with
  | wildcard => trivial
  | compare op =>
    rw [hop] at hread hinverse
    obtain ⟨d, hd⟩ := hread
    exact ⟨d, hd, restored_eq_of_read? (hinverse d hd)⟩
  | between =>
    rw [hop] at hoffered hread hbounds hinverse
    obtain ⟨⟨low, hlow⟩, high, hhigh⟩ := hread
    have hl : low.restored = low := by
      by_cases hleast : low = .least
      · rw [hleast]
        rfl
      · exact restored_eq_of_read? (hinverse low (.inl ⟨hlow, hleast⟩))
    have hh : high.restored = high := by
      by_cases hgreatest : high = .greatest
      · rw [hgreatest]
        rfl
      · exact restored_eq_of_read? (hinverse high (.inr ⟨hhigh, hgreatest⟩))
    refine ⟨NumericOperator.between_mem_offered hoffered, low, high, hlow, hhigh, hl, hh, ?_⟩
    rintro ⟨rfl, rfl⟩
    exact hbounds ⟨rfl, hlow, hhigh⟩

end NumericFilter

namespace DateFilter

variable {formats : List String}

def IsUnbounded (formats : List String) (input : Input) : Prop :=
  operator? input = some .between ∧ bound? formats (first input) earliest = some earliest ∧
    bound? formats (second input) latest = some latest

def Uses (formats : List String) (input : Input) (d : Date) : Prop :=
  match operator? input with
  | none => False
  | some (.compare _) => Date.read? formats (first input) = some d
  | some .between => (bound? formats (first input) earliest = some d ∧ d ≠ earliest) ∨
      (bound? formats (second input) latest = some d ∧ d ≠ latest)

section Readable

variable {between : Bool} (hoffered : operator? input ∈ DateOperator.offered between)
  (hread : IsReadable formats input)
  (hyears : ∀ d, Uses formats input d → 0 ≤ d.year ∧ d.year ≤ 9999)

include hoffered hread hyears

/-- What is written is recognised, whether or not it is read again as the same. -/
theorem exists_restore?_of_readable (hn : name ≠ "") (h : isActive input) :
    ∃ input', restore? between (fragment formats input (columnRef name)) = some input' ∧
      operator? input' = operator? input := by
  unfold IsReadable at hread
  unfold Uses at hyears
  cases hop : operator? input with
  | none =>
    rw [isActive, hop] at h
    cases h
  | some operator =>
    rw [hop] at hoffered hread hyears
    cases operator with
    | compare op =>
      obtain ⟨d, hd⟩ := hread
      rw [fragment_of_criterion _ h (criterion?_compare _ hop hd)]
      exact ⟨_, restore?_compare hn between op (hyears d hd),
        operator?_ofParts between (.compare op) (by simp) d.text ""⟩
    | between =>
      obtain rfl := DateOperator.between_mem_offered hoffered
      obtain ⟨⟨low, hlow⟩, high, hhigh⟩ := hread
      have hl : 0 ≤ low.year ∧ low.year ≤ 9999 := by
        by_cases hearliest : low = earliest
        · rw [hearliest]
          decide
        · exact hyears low (.inl ⟨hlow, hearliest⟩)
      have hh : 0 ≤ high.year ∧ high.year ≤ 9999 := by
        by_cases hlatest : high = latest
        · rw [hlatest]
          decide
        · exact hyears high (.inr ⟨hhigh, hlatest⟩)
      rw [fragment_of_criterion _ h (criterion?_between _ hop hlow hhigh)]
      exact ⟨_, restore?_range hn (takes_date hl) (takes_date hh),
        operator?_ofParts true .between (fun _ => rfl) _ _⟩

theorem recovers_iff_of_readable (hbounds : ¬ IsUnbounded formats input) :
    Recovers between formats input ↔
      ∀ d, Uses formats input d → Date.read? formats d.text = some d := by
  unfold IsReadable at hread
  unfold IsUnbounded at hbounds
  unfold Uses at hyears ⊢
  unfold Recovers
  match hop : operator? input with
  | none => simp
  | some (.compare op) =>
    rw [hop] at hread hyears
    obtain ⟨d, hd⟩ := hread
    constructor
    · rintro ⟨d', hd', hreread⟩ e he
      rw [Option.some.inj (he.symm.trans hd')]
      exact hreread.read
    · exact fun hall => ⟨d, hd, hyears d hd, hall d hd⟩
  | some .between =>
    rw [hop] at hoffered hread hbounds hyears
    obtain ⟨⟨low, hlow⟩, high, hhigh⟩ := hread
    constructor
    · rintro ⟨-, low', high', hlow', hhigh', hl, hh, -⟩ d (⟨hd, hne⟩ | ⟨hd, hne⟩)
      · rw [Option.some.inj (hlow'.symm.trans hd)] at hl
        exact (hl.resolve_left hne).read
      · rw [Option.some.inj (hhigh'.symm.trans hd)] at hh
        exact (hh.resolve_left hne).read
    · intro hall
      have hreread {d : Date} (hd : (bound? formats (first input) earliest = some d ∧
          d ≠ earliest) ∨ (bound? formats (second input) latest = some d ∧ d ≠ latest)) :
          d.IsReread formats := ⟨hyears d hd, hall d hd⟩
      have hl : low = earliest ∨ low.IsReread formats :=
        (em _).imp_right fun hne => hreread (.inl ⟨hlow, hne⟩)
      have hh : high = latest ∨ high.IsReread formats :=
        (em _).imp_right fun hne => hreread (.inr ⟨hhigh, hne⟩)
      refine ⟨DateOperator.between_mem_offered hoffered, low, high, hlow, hhigh, hl, hh, ?_⟩
      rintro ⟨rfl, rfl⟩
      exact hbounds ⟨rfl, hlow, hhigh⟩

end Readable

end DateFilter

namespace Filter

variable {f g : Filter} {between : Bool}

/-- A filter that recognises what another one of its kind has written writes what the input does
that it takes over. -/
theorem fragment_setFilter {s : String} (hd : g.widget.disposed = false)
    (hs : g.strategy.restore? s = some input) (ref : String) :
    (g.setFilter s).1.fragment ref = g.strategy.fragment input ref := by
  rw [fragment, strategy_setFilter, input_setFilter hd hs]

/-- What an active filter of numbers writes for a named column gives every other one the same
operator, and its operands as they are written, so that both filters write the same for any column.
Printing a number and reading it is taken to give that number back, which it does unless the number
is a zero with a sign. -/
theorem numeric_criteria_come_back (hn : name ≠ "") (hf : f.strategy = .numeric between)
    (hg : g.strategy = f.strategy) (hd : g.widget.disposed = false) (h : f.isActive)
    (hoffered : NumericFilter.operator f.input ∈ NumericOperator.offered between)
    (hread : NumericFilter.IsReadable f.input) (hbounds : ¬ NumericFilter.IsUnbounded f.input)
    (hinverse : ∀ d, NumericFilter.Uses f.input d → Decimal.read? d.text = some d) :
    NumericFilter.Restates f.input (g.setFilter (f.fragment (columnRef name))).1.input ∧
      ∀ ref, (g.setFilter (f.fragment (columnRef name))).1.fragment ref = f.fragment ref := by
  obtain ⟨strategy, widget⟩ := f
  subst hf
  obtain ⟨input', hrestore, hrestates, hsame⟩ := NumericFilter.exists_restore? hn h
    (NumericFilter.recovers_of_readable hoffered hread hbounds hinverse)
  have hrestore' : g.strategy.restore?
      (Filter.fragment ⟨.numeric between, widget⟩ (columnRef name)) = some input' := hg ▸ hrestore
  refine ⟨input_setFilter hd hrestore' ▸ hrestates, fun ref => ?_⟩
  rw [fragment_setFilter hd hrestore', hg]
  exact hsame ref

def fromFilter : Filter := ⟨.numeric true, { input := .operands "<x<" " +1.50" "" }⟩

theorem numeric_criteria_come_back_range :
    let g : Filter := ⟨.numeric true, { input := .operands "*" "old" "2", listener := some 3 }⟩
    NumericFilter.Restates fromFilter.input
        (g.setFilter (fromFilter.fragment (columnRef "a]b"))).1.input ∧
      ∀ ref, (g.setFilter (fromFilter.fragment (columnRef "a]b"))).1.fragment ref =
        fromFilter.fragment ref := by
  intro g
  have hlow : NumericFilter.bound? " +1.50" .least =
      some ⟨false, 150, 2, by decide, by decide⟩ := rfl
  refine numeric_criteria_come_back (by decide) rfl rfl rfl (by decide) (by decide)
    ⟨⟨_, hlow⟩, _, rfl⟩ ?_ ?_
  · rintro ⟨-, hleast, -⟩
    exact absurd (hlow.symm.trans hleast) (by decide)
  · rintro d (⟨hd, -⟩ | ⟨hd, hne⟩)
    · rw [← Option.some.inj (hlow.symm.trans hd)]
      rfl
    · exact absurd (Option.some.inj hd).symm hne

/-- What an active filter of dates writes for a named column gives every other one with the same
formats the same operator. The dates of the criteria are the same, too, if and only if the formats
read the text of each of them, which is put into the input, as that date. -/
theorem date_criteria_come_back {formats : List String} (hn : name ≠ "")
    (hf : f.strategy = .date between formats) (hg : g.strategy = f.strategy)
    (hd : g.widget.disposed = false) (h : f.isActive)
    (hoffered : DateFilter.operator? f.input ∈ DateOperator.offered between)
    (hread : DateFilter.IsReadable formats f.input)
    (hyears : ∀ d, DateFilter.Uses formats f.input d → 0 ≤ d.year ∧ d.year ≤ 9999)
    (hbounds : ¬ DateFilter.IsUnbounded formats f.input) :
    DateFilter.operator? (g.setFilter (f.fragment (columnRef name))).1.input =
        DateFilter.operator? f.input ∧
      ((∀ ref, (g.setFilter (f.fragment (columnRef name))).1.fragment ref = f.fragment ref) ↔
        ∀ d, DateFilter.Uses formats f.input d → Date.read? formats d.text = some d) := by
  obtain ⟨strategy, widget⟩ := f
  subst hf
  obtain ⟨input', hrestore, hop⟩ :=
    DateFilter.exists_restore?_of_readable hoffered hread hyears hn h
  have hrestore' : g.strategy.restore?
      (Filter.fragment ⟨.date between formats, widget⟩ (columnRef name)) = some input' :=
    hg ▸ hrestore
  refine ⟨(congrArg DateFilter.operator? (input_setFilter hd hrestore')).trans hop, ?_⟩
  rw [← DateFilter.recovers_iff_of_readable hoffered hread hyears hbounds]
  simp only [fragment_setFilter hd hrestore', hg]
  constructor
  · exact fun hall => DateFilter.recovers_of_restore? hn h hrestore (hall _)
  · intro hrecovers
    obtain ⟨other, hother, hsame⟩ := DateFilter.exists_restore? hn h hrecovers
    rw [Option.some.inj (hrestore.symm.trans hother)]
    exact hsame

/-- A filter with a date that is read by the first of two formats, and the same filter read again.
-/
theorem date_criteria_come_back_dotted :
    let f : Filter :=
      ⟨.date false ["%d.%m.%Y", "%m/%d/%Y"], { input := .operands ">=" "09.03.2011" "" }⟩
    let g : Filter := .ofStrategy f.strategy
    DateFilter.operator? (g.setFilter (f.fragment (columnRef "sent"))).1.input =
        DateFilter.operator? f.input ∧
      ∀ ref, (g.setFilter (f.fragment (columnRef "sent"))).1.fragment ref = f.fragment ref := by
  intro f g
  have hread : Date.read? ["%d.%m.%Y", "%m/%d/%Y"] "09.03.2011" =
      some ⟨2011, 3, 9, by decide⟩ := rfl
  have huses (d : Date) (hd : DateFilter.Uses ["%d.%m.%Y", "%m/%d/%Y"] f.input d) :
      d = ⟨2011, 3, 9, by decide⟩ := (Option.some.inj (hread.symm.trans hd)).symm
  have hn : "sent" ≠ "" := by decide
  obtain ⟨hop, hiff⟩ := date_criteria_come_back (f := f) (g := g) hn rfl rfl rfl (by decide)
    (by decide) ⟨_, hread⟩ (fun d hd => huses d hd ▸ by decide) nofun
  refine ⟨hop, hiff.mpr fun d hd => ?_⟩
  rw [huses d hd]
  rfl

def dayFirstFilter : Filter :=
  ⟨.date true ["%Y-%d-%m"], { input := .operands "=" "2001-04-03" "" }⟩

/-- The fourth of March comes back as the third of April, for it is put in with the month before the
day. -/
theorem day_and_month_change_places :
    dayFirstFilter.isActive ∧
      DateFilter.operator? dayFirstFilter.input ∈ DateOperator.offered true ∧
      DateFilter.IsReadable ["%Y-%d-%m"] dayFirstFilter.input ∧
      (∀ d, DateFilter.Uses ["%Y-%d-%m"] dayFirstFilter.input d →
        0 ≤ d.year ∧ d.year ≤ 9999) ∧
      ¬ DateFilter.IsUnbounded ["%Y-%d-%m"] dayFirstFilter.input ∧
      dayFirstFilter.fragment (columnRef "sent") = "[sent] = #03/04/2001#" ∧
      ((Filter.ofStrategy dayFirstFilter.strategy).setFilter
        (dayFirstFilter.fragment (columnRef "sent"))).1.fragment (columnRef "sent") =
          "[sent] = #04/03/2001#" := by
  have hread : Date.read? ["%Y-%d-%m"] "2001-04-03" = some ⟨2001, 3, 4, by decide⟩ := rfl
  refine ⟨by decide, by decide, ⟨_, hread⟩, fun d hd => ?_, nofun, by decide, by decide⟩
  rw [← Option.some.inj (hread.symm.trans hd)]
  decide

end Filter

end TableFilter
