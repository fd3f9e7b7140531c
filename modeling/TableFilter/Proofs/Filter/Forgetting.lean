import TableFilter.Proofs.Filter.Operands

/-!
# Criteria that are forgotten

The criteria of an active filter that a new one does not get from what is written for them are lost
in one of a few ways. Operands that cannot be read are written as a comparison that is no form of
the filter. A range that is as wide as one without bounds is taken for one without bounds. A zero
loses its sign. A date is put in with the year first, which the formats may read as another date or
not at all; with a year of other than four digits it is no form of the filter. A range or a choice
that is not on offer is not taken up.
-/

namespace TableFilter

variable {input : Input} {between : Bool}

namespace NumericFilter

inductive Forgets (between : Bool) (input : Input) : Prop
  | unreadable : ¬ IsReadable input → Forgets between input
  | unbounded : IsUnbounded input → Forgets between input
  | signedZero {d : Decimal} : Uses input d → d.negative → d.coefficient = 0 → Forgets between input
  | unoffered : operator input = .between → between = false → Forgets between input

namespace Recovers

theorem isReadable (h : Recovers between input) : IsReadable input := by
  unfold Recovers at h
  unfold IsReadable
  cases hop : operator input with
  | wildcard => trivial
  | compare op =>
    rw [hop] at h
    obtain ⟨d, hd, -⟩ := h
    exact ⟨d, hd⟩
  | between =>
    rw [hop] at h
    obtain ⟨-, low, high, hlow, hhigh, -⟩ := h
    exact ⟨⟨low, hlow⟩, high, hhigh⟩

theorem restored_eq (h : Recovers between input) {d : Decimal} (hd : Uses input d) :
    d.restored = d := by
  unfold Recovers at h
  unfold Uses at hd
  cases hop : operator input with
  | wildcard =>
    rw [hop] at hd
    exact hd.elim
  | compare op =>
    rw [hop] at h hd
    obtain ⟨e, he, hrestored⟩ := h
    rwa [Option.some.inj (hd.symm.trans he)]
  | between =>
    rw [hop] at h hd
    obtain ⟨-, low, high, hlow, hhigh, hl, hh, -⟩ := h
    rcases hd with ⟨hd, -⟩ | ⟨hd, -⟩
    · rwa [Option.some.inj (hd.symm.trans hlow)]
    · rwa [Option.some.inj (hd.symm.trans hhigh)]

theorem of_between (h : Recovers between input) (hop : operator input = .between) :
    between ∧ ¬ IsUnbounded input := by
  unfold Recovers at h
  rw [hop] at h
  obtain ⟨hoffered, low, high, hlow, hhigh, -, -, hbounds⟩ := h
  refine ⟨hoffered, ?_⟩
  rintro ⟨-, hleast, hgreatest⟩
  exact hbounds ⟨Option.some.inj (hlow.symm.trans hleast),
    Option.some.inj (hhigh.symm.trans hgreatest)⟩

end Recovers

theorem not_recovers_iff : ¬ Recovers between input ↔ Forgets between input := by
  constructor
  · intro h
    by_contra hkept
    have hoffered : operator input ∈ NumericOperator.offered between :=
      NumericOperator.mem_offered_iff.mpr fun hop =>
        by_contra fun hbetween => hkept (.unoffered hop (Bool.eq_false_iff.mpr hbetween))
    refine h (recovers_of_readable hoffered (by_contra fun hread => hkept (.unreadable hread))
      (fun hbounds => hkept (.unbounded hbounds)) fun d hd => ?_)
    rw [d.read?_text, d.restored_eq]
    by_contra hsigned
    obtain ⟨hnegative, hzero⟩ := not_or.mp hsigned
    exact hkept (.signedZero hd (Bool.eq_true_of_not_eq_false hnegative) (not_not.mp hzero))
  · intro hforgets h
    cases hforgets with
    | unreadable hread => exact hread h.isReadable
    | unbounded hbounds => exact (h.of_between hbounds.1).2 hbounds
    | @signedZero d hd hnegative hzero =>
      have hsign := congrArg Decimal.negative (h.restored_eq hd)
      simp [Decimal.restored, hnegative, hzero] at hsign
    | unoffered hop hbetween => exact Bool.eq_false_iff.mp hbetween (h.of_between hop).1

end NumericFilter

namespace DateFilter

variable {formats : List String}

inductive Forgets (between : Bool) (formats : List String) (input : Input) : Prop
  | unreadable : ¬ IsReadable formats input → Forgets between formats input
  | unbounded : IsUnbounded formats input → Forgets between formats input
  | reread {d : Date} : Uses formats input d → Date.read? formats d.text ≠ some d →
      Forgets between formats input
  | otherYear {d : Date} : Uses formats input d → ¬ (0 ≤ d.year ∧ d.year ≤ 9999) →
      Forgets between formats input
  | unoffered : operator? input = some .between → between = false → Forgets between formats input

namespace Recovers

theorem isReadable (h : Recovers between formats input) : IsReadable formats input := by
  unfold Recovers at h
  unfold IsReadable
  match hop : operator? input with
  | none => trivial
  | some (.compare op) =>
    rw [hop] at h
    obtain ⟨d, hd, -⟩ := h
    exact ⟨d, hd⟩
  | some .between =>
    rw [hop] at h
    obtain ⟨-, low, high, hlow, hhigh, -⟩ := h
    exact ⟨⟨low, hlow⟩, high, hhigh⟩

theorem isReread (h : Recovers between formats input) {d : Date} (hd : Uses formats input d) :
    d.IsReread formats := by
  unfold Recovers at h
  unfold Uses at hd
  match hop : operator? input with
  | none =>
    rw [hop] at hd
    exact hd.elim
  | some (.compare op) =>
    rw [hop] at h hd
    obtain ⟨e, he, hreread⟩ := h
    rwa [Option.some.inj (hd.symm.trans he)]
  | some .between =>
    rw [hop] at h hd
    obtain ⟨-, low, high, hlow, hhigh, hl, hh, -⟩ := h
    rcases hd with ⟨hd, hne⟩ | ⟨hd, hne⟩
    · obtain rfl : low = d := Option.some.inj (hlow.symm.trans hd)
      exact hl.resolve_left hne
    · obtain rfl : high = d := Option.some.inj (hhigh.symm.trans hd)
      exact hh.resolve_left hne

theorem of_between (h : Recovers between formats input) (hop : operator? input = some .between) :
    between ∧ ¬ IsUnbounded formats input := by
  unfold Recovers at h
  rw [hop] at h
  obtain ⟨hoffered, low, high, hlow, hhigh, -, -, hbounds⟩ := h
  refine ⟨hoffered, ?_⟩
  rintro ⟨-, hearliest, hlatest⟩
  exact hbounds ⟨Option.some.inj (hlow.symm.trans hearliest),
    Option.some.inj (hhigh.symm.trans hlatest)⟩

end Recovers

theorem not_recovers_iff : ¬ Recovers between formats input ↔ Forgets between formats input := by
  constructor
  · intro h
    by_contra hkept
    have hoffered : operator? input ∈ DateOperator.offered between :=
      DateOperator.mem_offered_iff.mpr fun hop =>
        by_contra fun hbetween => hkept (.unoffered hop (Bool.eq_false_iff.mpr hbetween))
    refine h ((recovers_iff_of_readable hoffered
      (by_contra fun hread => hkept (.unreadable hread))
      (fun d hd => by_contra fun hyear => hkept (.otherYear hd hyear))
      fun hbounds => hkept (.unbounded hbounds)).mpr fun d hd => ?_)
    by_contra hreread
    exact hkept (.reread hd hreread)
  · intro hforgets h
    cases hforgets with
    | unreadable hread => exact hread h.isReadable
    | unbounded hbounds => exact (h.of_between hbounds.1).2 hbounds
    | reread hd hreread => exact hreread (h.isReread hd).read
    | otherYear hd hyear => exact hyear (h.isReread hd).year
    | unoffered hop hbetween => exact Bool.eq_false_iff.mp hbetween (h.of_between hop).1

end DateFilter

namespace Strategy

def Forgets (input : Input) : Strategy → Prop
  | numeric between => NumericFilter.Forgets between input
  | date between formats => DateFilter.Forgets between formats input
  | distinct values hasNull => ¬ ChoiceFilter.offers values hasNull (ChoiceFilter.chosen input)
  | _ => False

theorem not_recovers_iff {s : Strategy} : ¬ s.Recovers input ↔ s.Forgets input := by
  cases s with
  | numeric between => exact NumericFilter.not_recovers_iff
  | date between formats => exact DateFilter.not_recovers_iff
  | distinct values hasNull => exact Iff.rfl
  | _ => exact not_true

end Strategy

end TableFilter
