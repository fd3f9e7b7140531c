import TableFilter.Decimal.Text
import TableFilter.Proofs.Text.Digits
import TableFilter.Proofs.Text.Trim

/-!
# Decimals that are written are read back

A decimal keeps its digits and its scale when it is written and read again. Only the sign of a zero
is lost. What is written consists of digits and at most one point, behind a minus sign where the
number is negative, so that it can stand inside a predicate.
-/

namespace TableFilter.Decimal

open Text

theorem readPlaces_whole {ds rest : List Char} (hd : ∀ c ∈ ds, c.isDigit) (seen : Bool) (n s : Nat)
    (hn : ds.foldl (fun n c => 10 * n + digitValue c) n < pow2 96) :
    readPlaces false seen n s (ds ++ rest) = readPlaces false (seen || !ds.isEmpty)
      (ds.foldl (fun n c => 10 * n + digitValue c) n) s rest := by
  induction ds generalizing seen n with
  | nil => simp
  | cons c ds ih =>
    obtain ⟨hc, hds⟩ := List.forall_mem_cons.mp hd
    rw [List.foldl_cons] at hn ⊢
    have hlt : 10 * n + digitValue c < pow2 96 := Nat.lt_of_le_of_lt (foldl_digits_mono le_rfl) hn
    rw [List.cons_append, readPlaces, if_pos hc, if_pos hlt, if_pos (by decide), ih hds true _ hn]
    simp

/-- Up to twenty-eight places after the point are read. The last of them may be the last that is
kept. -/
theorem readPlaces_fraction {ds : List Char} (hd : ∀ c ∈ ds, c.isDigit) {n s : Nat}
    (hs : s + ds.length ≤ 28)
    (hn : ds.foldl (fun n c => 10 * n + digitValue c) n < pow2 96) :
    readPlaces true true n s ds =
      some (ds.foldl (fun n c => 10 * n + digitValue c) n, s + ds.length) := by
  induction ds generalizing n s with
  | nil => rfl
  | cons c ds ih =>
    obtain ⟨hc, hds⟩ := List.forall_mem_cons.mp hd
    rw [List.foldl_cons] at hn ⊢
    rw [List.length_cons] at hs ⊢
    have hlt : 10 * n + digitValue c < pow2 96 := Nat.lt_of_le_of_lt (foldl_digits_mono le_rfl) hn
    rw [readPlaces, if_pos hc, if_pos hlt, if_neg (by decide)]
    split
    · rw [ih hds (by omega) hn]
      congr 2
      omega
    · have hnil : ds = [] := List.length_eq_zero_iff.mp (by omega)
      subst hnil
      rfl

def digits (d : Decimal) : List Char := paddedDigits (d.scale + 1) d.coefficient

def whole (d : Decimal) : List Char := d.digits.take (d.digits.length - d.scale)

def fraction (d : Decimal) : List Char := d.digits.drop (d.digits.length - d.scale)

def unsignedChars (d : Decimal) : List Char :=
  d.whole ++ (if d.scale = 0 then [] else '.' :: d.fraction)

theorem toChars_eq (d : Decimal) :
    d.toChars = (if d.negative then ['-'] else []) ++ d.unsignedChars :=
  List.append_assoc _ _ _

variable (d : Decimal)

theorem scale_lt_length_digits : d.scale < d.digits.length := by
  rw [digits, length_paddedDigits]
  omega

theorem whole_append_fraction : d.whole ++ d.fraction = d.digits := List.take_append_drop _ _

theorem length_fraction : d.fraction.length = d.scale := by
  have h := d.scale_lt_length_digits
  rw [fraction, List.length_drop]
  omega

theorem isDigit_of_mem_digits {c : Char} (h : c ∈ d.digits) : c.isDigit :=
  isDigit_of_mem_paddedDigits h

theorem isDigit_of_mem_whole {c : Char} (h : c ∈ d.whole) : c.isDigit :=
  d.isDigit_of_mem_digits (List.mem_of_mem_take h)

theorem isDigit_of_mem_fraction {c : Char} (h : c ∈ d.fraction) : c.isDigit :=
  d.isDigit_of_mem_digits (List.mem_of_mem_drop h)

theorem whole_ne_nil : d.whole ≠ [] := by
  have h := d.scale_lt_length_digits
  apply List.ne_nil_of_length_pos
  rw [whole, List.length_take]
  omega

/-- The number begins with a digit. -/
theorem exists_unsignedChars_eq_cons : ∃ c cs, d.unsignedChars = c :: cs ∧ c.isDigit := by
  obtain ⟨c, cs, h⟩ := List.exists_cons_of_ne_nil d.whole_ne_nil
  refine ⟨c, cs ++ (if d.scale = 0 then [] else '.' :: d.fraction), ?_, ?_⟩
  · rw [unsignedChars, h]
    rfl
  · exact d.isDigit_of_mem_whole (h ▸ List.mem_cons_self)

theorem isDigit_or_point_of_mem {c : Char} (h : c ∈ d.unsignedChars) : c.isDigit ∨ c = '.' := by
  rw [unsignedChars, List.mem_append] at h
  rcases h with h | h
  · exact .inl (d.isDigit_of_mem_whole h)
  · split at h
    · cases h
    · rcases List.mem_cons.mp h with h | h
      · exact .inr h
      · exact .inl (d.isDigit_of_mem_fraction h)

theorem foldl_fraction :
    d.fraction.foldl (fun n c => 10 * n + digitValue c) (natOfDigits d.whole) = d.coefficient := by
  rw [← natOfDigits_append, whole_append_fraction, digits, natOfDigits_paddedDigits]

theorem natOfDigits_whole_lt : natOfDigits d.whole < pow2 96 := by
  have h : natOfDigits d.whole ≤ d.coefficient := by
    rw [← d.foldl_fraction]
    exact foldl_digits_mono le_rfl
  exact Nat.lt_of_le_of_lt h d.coefficient_lt

theorem readPlaces_unsignedChars :
    readPlaces false false 0 0 d.unsignedChars = some (d.coefficient, d.scale) := by
  rw [unsignedChars, readPlaces_whole (fun _ h => d.isDigit_of_mem_whole h) _ _ _
    d.natOfDigits_whole_lt]
  have hseen : (false || !d.whole.isEmpty) = true := by simp [d.whole_ne_nil]
  rw [hseen]
  change readPlaces false true (natOfDigits d.whole) 0 _ = _
  have hf := d.foldl_fraction
  have hl := d.length_fraction
  split
  case isTrue h =>
    rw [h, List.length_eq_zero_iff] at hl
    rw [hl, List.foldl_nil] at hf
    rw [hf, h]
    rfl
  case isFalse =>
    have hlt := d.coefficient_lt
    rw [← hf] at hlt
    have hfraction := readPlaces_fraction (fun _ h => d.isDigit_of_mem_fraction h)
      (s := 0) (by have := d.scale_le; omega) hlt
    rw [hf, hl, Nat.zero_add] at hfraction
    exact hfraction

theorem ofChars?_of_isDigit {c : Char} {cs : List Char} (h : c.isDigit) :
    ofChars? (c :: cs) = (readPlaces false false 0 0 (c :: cs)).bind fun (n, s) =>
      ofParts? false n s := by
  unfold ofChars?
  split
  case h_1 heq => cases heq; cases h
  case h_2 heq => cases heq; cases h
  case h_3 => rfl

theorem ofChars?_toChars : ofChars? d.toChars = ofParts? d.negative d.coefficient d.scale := by
  have hr := d.readPlaces_unsignedChars
  rw [toChars_eq]
  cases d.negative with
  | true =>
    change (readPlaces false false 0 0 d.unsignedChars).bind _ = _
    rw [hr]
    rfl
  | false =>
    obtain ⟨c, cs, hcs, hc⟩ := d.exists_unsignedChars_eq_cons
    change ofChars? d.unsignedChars = _
    rw [hcs] at hr ⊢
    rw [ofChars?_of_isDigit hc, hr]
    rfl

theorem isBlank_of_mem_toChars {c : Char} (h : c ∈ d.toChars) : isBlank c = false := by
  rw [toChars_eq, List.mem_append] at h
  rcases h with h | h
  · split at h
    · rw [List.mem_singleton.mp h]
      rfl
    · cases h
  · rcases d.isDigit_or_point_of_mem h with h | rfl
    · exact isBlank_of_isDigit h
    · rfl

/-- The number as it is read back, where a zero is no longer negative. -/
def restored : Decimal :=
  { d with negative := d.negative && d.coefficient != 0 }

theorem ofParts?_eq_restored : ofParts? d.negative d.coefficient d.scale = some d.restored := by
  rw [ofParts?, withSign?, dif_pos ⟨d.coefficient_lt, d.scale_le⟩]
  rfl

theorem read?_text : read? d.text = some d.restored := by
  have hr : ofChars? d.toChars = some d.restored := by
    rw [ofChars?_toChars, ofParts?_eq_restored]
  have ht : trimChars d.text.toList = d.toChars := by
    rw [text, String.toList_ofList]
    exact (IsTrimmed.of_forall fun _ h => d.isBlank_of_mem_toChars h).trimChars_eq
  rw [read?, ht]
  split
  case h_1 h => rw [h] at hr; cases hr
  case h_2 rest h =>
    -- No written number begins with a plus sign.
    obtain ⟨c, cs, hcs, hc⟩ := d.exists_unsignedChars_eq_cons
    rw [toChars_eq, hcs] at h
    split at h
    · cases h
    · cases h
      cases hc
  case h_3 =>
    rw [hr]
    rfl

theorem restored_eq (h : d.negative = false ∨ d.coefficient ≠ 0) : d.restored = d := by
  obtain ⟨negative, coefficient, scale, hc, hs⟩ := d
  rcases h with h | h
  · simp only at h
    subst h
    rfl
  · simp only [restored, mk.injEq, and_self, and_true]
    simp [h]

end TableFilter.Decimal
