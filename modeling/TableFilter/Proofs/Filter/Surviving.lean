import TableFilter.Proofs.Filter.Losing

/-!
# Criteria survive their own predicate

A filter that is given the predicate it has just written keeps its criteria if it does not recognise
the predicate. If it does, it takes criteria from it, which may write something else: a zero loses
its sign, a range from the least to the greatest bound becomes one without bounds, and the formats
may read the text of a date as another date or not at all. Nothing else is lost.
-/

namespace TableFilter

open Text Literal Form

variable {name : String} {input input' : Input}

namespace NumericFilter

theorem survives_of_recovers {between : Bool} (h : Recovers between input) :
    Survives between input := by
  unfold Survives Recovers at *
  cases hop : operator input with
  | wildcard => trivial
  | compare op =>
    rw [hop] at h
    obtain ⟨d, hd, hplain⟩ := h
    intro d' hd'
    rwa [← Option.some.inj (hd.symm.trans hd')]
  | between =>
    rw [hop] at h
    obtain ⟨-, low, high, hlow, hhigh, hbounds⟩ := h
    intro _ low' high' hlow' hhigh'
    rwa [← Option.some.inj (hlow.symm.trans hlow'), ← Option.some.inj (hhigh.symm.trans hhigh')]

theorem survives_of_unrecognised (hn : name ≠ "") {between : Bool} (h : isActive input)
    (hr : restore? between (fragment input (columnRef name)) = none) : Survives between input := by
  unfold Survives
  cases hop : operator input with
  | wildcard => trivial
  | compare op =>
    intro d hd
    rw [fragment_of_criterion _ h (criterion?_compare _ hop hd), restore?_compare hn] at hr
    cases hr
  | between =>
    rintro rfl low high hlow hhigh
    rw [fragment_of_criterion _ h (criterion?_between _ hop hlow hhigh), restore?_range hn] at hr
    cases hr

end NumericFilter

namespace DateFilter

variable {formats : List String}

theorem survives_of_recovers {between : Bool} (h : Recovers between formats input) :
    Survives between formats input := by
  unfold Survives Recovers at *
  match hop : operator? input with
  | none => trivial
  | some (.compare op) =>
    rw [hop] at h
    obtain ⟨d, hd, hreread⟩ := h
    intro d' hd' _
    rwa [← Option.some.inj (hd.symm.trans hd')]
  | some .between =>
    rw [hop] at h
    obtain ⟨-, low, high, hlow, hhigh, hbounds⟩ := h
    intro _ low' high' hlow' hhigh' _ _
    rwa [← Option.some.inj (hlow.symm.trans hlow'), ← Option.some.inj (hhigh.symm.trans hhigh')]

theorem survives_of_unrecognised (hn : name ≠ "") {between : Bool} (h : isActive input)
    (hr : restore? between (fragment formats input (columnRef name)) = none) :
    Survives between formats input := by
  unfold Survives
  match hop : operator? input with
  | none => trivial
  | some (.compare op) =>
    intro d hd hy
    rw [fragment_of_criterion _ h (criterion?_compare _ hop hd), restore?_compare hn _ op hy] at hr
    cases hr
  | some .between =>
    rintro rfl low high hlow hhigh hyl hyh
    rw [fragment_of_criterion _ h (criterion?_between _ hop hlow hhigh),
      restore?_range hn (takes_date hyl) (takes_date hyh)] at hr
    cases hr

end DateFilter

namespace Strategy

def Survives (input : Input) : Strategy → Prop
  | numeric between => NumericFilter.Survives between input
  | date between formats => DateFilter.Survives between formats input
  | _ => True

theorem survives_iff {s : Strategy} (hn : name ≠ "") (h : s.isActive input) :
    s.Survives input ↔ ∀ input', s.restore? (s.fragment input (columnRef name)) = some input' →
      s.fragment input' (columnRef name) = s.fragment input (columnRef name) := by
  cases hr : s.restore? (s.fragment input (columnRef name)) with
  | none =>
    refine iff_of_true ?_ nofun
    cases s with
    | numeric between => exact NumericFilter.survives_of_unrecognised hn h hr
    | date between formats => exact DateFilter.survives_of_unrecognised hn h hr
    | _ => trivial
  | some input' =>
    have hrecovers : s.Survives input ↔ s.Recovers input := by
      cases s with
      | numeric between => exact ⟨NumericFilter.recovers_of_survives hn h hr,
          NumericFilter.survives_of_recovers⟩
      | date between formats => exact ⟨DateFilter.recovers_of_survives hn h hr,
          DateFilter.survives_of_recovers⟩
      | distinct values hasNull =>
        have hc : ChoiceFilter.chosen input ≠ .all := by simpa [isActive] using h
        exact iff_of_true trivial (ChoiceFilter.offers_of_restore? hn hc hr)
      | _ => exact Iff.rfl
    rw [hrecovers, recovers_iff hn h, hr]
    simp

end Strategy

end TableFilter
