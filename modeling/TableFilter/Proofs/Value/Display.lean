import TableFilter.Proofs.Calendar.ReadBack
import TableFilter.Proofs.Decimal.Value
import TableFilter.Proofs.Value.Symmetry

/-!
# Shown text is read back

The text that shows a value is read as that value again, with all its places if it is a number and
with a year of any length and either sign if it is a date, and it is equal to the value when the
two are compared. The one thing that is lost is the minus sign of a zero, which is shown but not
read; no comparison can tell. What was converted to a kind stays as it is when it is converted to
that kind once more.
-/

namespace TableFilter

theorem Decimal.order_restored (d : Decimal) : d.order d.restored = .eq := by
  rw [order_eq_compare, value_restored]
  exact Std.ReflOrd.compare_self

/-- A zero with a minus sign shows it before the text as which it is read back. -/
theorem Decimal.text_eq_of_negative_zero {d : Decimal} (hd : d.negative) (hzero : d.coefficient = 0) :
    d.text = "-" ++ d.restored.text := by
  have hsign : d.restored.negative = false := by simp [restored, hzero]
  have hchars : d.restored.unsignedChars = d.unsignedChars := rfl
  rw [← String.toList_inj, String.toList_append]
  simp only [text, String.toList_ofList, toChars_eq, hsign, hchars, if_pos hd]
  rfl

theorem readBool?_boolText (b : Bool) : readBool? (Value.boolText b) = some b := by
  cases b <;> decide

namespace Value

variable {v w : Value} {kind : ValueKind} {t : String}

def isNegativeZero : Value → Bool
  | number d => d.negative && d.coefficient == 0
  | _ => false

/-- The value as it is read back, where a zero has no sign. -/
def restored : Value → Value
  | number d => number d.restored
  | v => v

theorem restored_eq (h : v.isNegativeZero = false) : v.restored = v := by
  cases v with
  | number d =>
    rw [isNegativeZero, Bool.and_eq_false_iff, beq_eq_false_iff_ne] at h
    rw [restored, d.restored_eq h]
  | _ => rfl

theorem shown?_of_isNegativeZero (h : v.isNegativeZero) :
    v.shown? = v.restored.shown?.map ("-" ++ ·) := by
  cases v with
  | number d =>
    simp only [isNegativeZero, Bool.and_eq_true, beq_iff_eq] at h
    exact congrArg some (Decimal.text_eq_of_negative_zero h.1 h.2)
  | _ => cases h

theorem exists_shown? (h : v.kind? = some kind) : ∃ t, v.shown? = some t := by
  cases v with
  | null => cases h
  | _ => exact ⟨_, rfl⟩

theorem convert_text (hv : v ≠ null) : v.convert .text = v.shown?.map text := by
  cases v with
  | null => exact absurd rfl hv
  | _ => rfl

/-- The shown text has the form of the value's own kind. -/
theorem convert_shown (h : v.kind? = some kind) (ht : v.shown? = some t) :
    (text t).convert kind = some v.restored := by
  cases v with
  | null => cases h
  | bool b =>
    cases h
    cases ht
    rw [convert, readBool?_boolText]
    rfl
  | number d =>
    cases h
    cases ht
    rw [convert, d.read?_text]
    rfl
  | text s =>
    cases h
    cases ht
    rfl
  | date d =>
    cases h
    cases ht
    rw [convert, d.read?_text]
    rfl

theorem orderAlike_restored (caseSensitive : Bool) (hv : v ≠ null) :
    orderAlike caseSensitive v v.restored = some .eq := by
  cases v with
  | null => exact absurd rfl hv
  | bool b => exact congrArg some Std.ReflOrd.compare_self
  | number d => exact congrArg some d.order_restored
  | text s => exact congrArg some (orderText_self caseSensitive s)
  | date d =>
    have hself : d.order d = .eq := (d.order_eq_compare d).trans Std.ReflOrd.compare_self
    exact congrArg some hself

/-- A value is compared with its shown text as with the value that the text is read as. -/
theorem order_shown (caseSensitive : Bool) (h : v.kind? = some kind) (ht : v.shown? = some t) :
    v.order caseSensitive (text t) = some .eq := by
  have hv : v ≠ null := by
    rintro rfl
    cases h
  have hself : v.towards (text t) = some v := by
    cases v <;> rfl
  have htext : (text t).towards v = some v.restored := by
    simp only [towards, h]
    exact convert_shown h ht
  rw [order, hself, htext]
  exact orderAlike_restored caseSensitive hv

theorem same_restored (v : Value) : v.restored.same v := by
  cases v with
  | number d =>
    change (d.restored.order d == .eq) = true
    rw [← Decimal.order_swap, d.order_restored]
    rfl
  | _ => exact beq_self_eq_true _

theorem convert_of_kind (h : v.kind? = some kind) : v.convert kind = some v := by
  cases v with
  | null => cases h
  | _ =>
    cases h
    rfl

/-- A conversion to a kind yields a value of that kind, a text for an enumeration, or null. -/
theorem kind_of_convert (h : v.convert kind = some w) :
    w = null ∨ w.kind? = some (if kind = .enumerable then .text else kind) := by
  cases v with
  | null => exact .inl (Option.some.inj h).symm
  | text s =>
    right
    cases kind with
    | text | enumerable =>
      cases h
      rfl
    | number | boolean | date =>
      obtain ⟨x, -, rfl⟩ := Option.map_eq_some_iff.mp h
      rfl
  | _ =>
    right
    cases kind <;> cases h <;> rfl

theorem convert_of_convert (h : v.convert kind = some w) : w.convert kind = some w := by
  rcases kind_of_convert h with rfl | hw
  · rfl
  · by_cases hkind : kind = .enumerable
    · subst hkind
      cases w with
      | text s => rfl
      | _ => cases hw
    · rw [if_neg hkind] at hw
      exact convert_of_kind hw

/-- Showing a value loses nothing but the minus sign of a zero, and converting twice does no more
than converting once. -/
theorem shown_text_is_read_back (v : Value) (kind : ValueKind) :
    (v.kind? = some kind → ∃ t w, v.shown? = some t ∧ v.convert .text = some (text t) ∧
      (text t).convert kind = some w ∧ w.same v ∧
      (v.isNegativeZero = false → w = v ∧ w.shown? = some t) ∧
      (v.isNegativeZero → w.shown?.map ("-" ++ ·) = some t) ∧
      ∀ caseSensitive, v.order caseSensitive (text t) = some .eq) ∧
    ∀ w, v.convert kind = some w → w.convert kind = some w := by
  refine ⟨fun h => ?_, fun w => convert_of_convert⟩
  obtain ⟨t, ht⟩ := exists_shown? h
  have hv : v ≠ null := by
    rintro rfl
    cases h
  refine ⟨t, v.restored, ht, ?_, convert_shown h ht, v.same_restored, fun hsign => ?_,
    fun hsign => ?_, fun caseSensitive => order_shown caseSensitive h ht⟩
  · rw [convert_text hv, ht]
    rfl
  · rw [restored_eq hsign]
    exact ⟨rfl, ht⟩
  · rw [← shown?_of_isNegativeZero hsign, ht]

/-- A date before the year zero comes back, a zero comes back without its minus sign, and what was
read as a truth value stays one. -/
theorem shown_text_is_read_back_signed :
    (text "-0044-03-15").convert .date = some (date ⟨-44, 3, 15, by decide⟩) ∧
    (∃ w, (text "-0.0").convert .number = some w ∧ w.shown?.map ("-" ++ ·) = some "-0.0") ∧
    (bool true).convert .boolean = some (bool true) := by
  refine ⟨?_, ?_, ?_⟩
  · obtain ⟨t, w, ht, -, hread, -, hsame, -⟩ :=
      (shown_text_is_read_back (date ⟨-44, 3, 15, by decide⟩) .date).1 rfl
    obtain rfl : "-0044-03-15" = t := Option.some.inj ht
    rw [hread, (hsame rfl).1]
  · obtain ⟨t, w, ht, -, hread, -, -, hsign, -⟩ :=
      (shown_text_is_read_back (number ⟨true, 0, 1, by decide, by decide⟩) .number).1 rfl
    obtain rfl : "-0.0" = t := Option.some.inj ht
    exact ⟨w, hread, hsign rfl⟩
  · have hread : (text " TRUE").convert .boolean = some (bool true) := by decide
    exact (shown_text_is_read_back (text " TRUE") .boolean).2 _ hread

/-- A number that is rounded to zero keeps its minus sign, which is shown and then lost. -/
theorem negative_zero_loses_its_sign : ∃ (d : Decimal) (t : String) (w : Value),
    Decimal.read? "-0.4e-28" = some d ∧ (number d).convert .text = some (text t) ∧
      (text t).convert .number = some w ∧ w.shown? ≠ some t := by
  refine ⟨⟨true, 0, 28, by decide, by decide⟩, "-0.0000000000000000000000000000",
    number ⟨false, 0, 28, by decide, by decide⟩, ?_, ?_, ?_, ?_⟩
  all_goals decide +kernel

end Value
end TableFilter
