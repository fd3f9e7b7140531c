import TableFilter.Calendar.Text
import TableFilter.Proofs.Text.Digits
import TableFilter.Proofs.Text.Trim

/-!
# Dates that are written are read back

The pattern that writes a date month first reads the same date again, and so does the pattern that
writes it year first, with a year of any length and either sign. Nothing in such texts is blank, and
nothing in them is a number sign, which is what surrounds a date inside a predicate.
-/

namespace TableFilter.Calendar.Part

open Text

theorem readDigits_some {ds : List Char} (hd : ∀ c ∈ ds, c.isDigit) (hne : ds ≠ [])
    (rest : List Char) :
    readDigits (some ds.length) (ds ++ rest) = some ((natOfDigits ds : Int), rest) := by
  have ht : ((ds ++ rest).take ds.length).takeWhile Char.isDigit = ds := by
    rw [List.take_left, List.takeWhile_eq_self_iff]
    exact hd
  simp only [readDigits, ht, List.isEmpty_iff, hne, if_false, List.drop_left]

/-- Without a width all digits are read, up to a character that is none. -/
theorem readDigits_none {ds rest : List Char} (hd : ∀ c ∈ ds, c.isDigit) (hne : ds ≠ [])
    (hrest : ∀ c ∈ rest.head?, c.isDigit = false) :
    readDigits none (ds ++ rest) = some ((natOfDigits ds : Int), rest) := by
  have hend : rest.takeWhile Char.isDigit = [] := by
    cases rest with
    | nil => rfl
    | cons c rest => rw [List.takeWhile_cons_of_neg]; simp [hrest c rfl]
  have ht : (ds ++ rest).takeWhile Char.isDigit = ds := by
    rw [List.takeWhile_append_of_pos hd, hend, List.append_nil]
  simp only [readDigits, ht, List.isEmpty_iff, hne, if_false, List.drop_left]

theorem skipBlanks_of_not_blank {c : Char} (h : isBlank c = false) (cs : List Char) :
    skipBlanks (c :: cs) = c :: cs := by
  rw [skipBlanks, List.dropWhile_cons_of_neg (by simp [h])]

/-- A number that begins with a digit is read without looking for a sign. -/
theorem readNumber_digits {ds : List Char} (hd : ∀ c ∈ ds, c.isDigit) (hne : ds ≠ [])
    (signed : Bool) (rest : List Char) :
    readNumber (some ds.length) signed (ds ++ rest) = some ((natOfDigits ds : Int), rest) := by
  have hr := readDigits_some hd hne rest
  obtain ⟨c, cs, rfl⟩ := List.exists_cons_of_ne_nil hne
  have hc : c.isDigit := hd c List.mem_cons_self
  rw [List.cons_append] at hr ⊢
  unfold readNumber
  rw [skipBlanks_of_not_blank (isBlank_of_isDigit hc)]
  split
  case h_1 heq => cases heq; cases hc
  case h_2 heq => cases heq; cases hc
  case h_3 => exact hr

theorem readNumber_padded {width n : Nat} (hw : 0 < width) (hn : n < 10 ^ width) (signed : Bool)
    (rest : List Char) :
    readNumber (some width) signed (paddedDigits width n ++ rest) = some ((n : Int), rest) := by
  have h := readNumber_digits (fun _ hc => isDigit_of_mem_paddedDigits hc)
    (paddedDigits_ne_nil width n) signed rest
  rwa [length_paddedDigits_of_lt hw hn, natOfDigits_paddedDigits] at h

theorem readNumber_yearChars (year : Int) {rest : List Char}
    (hrest : ∀ c ∈ rest.head?, c.isDigit = false) :
    readNumber (some 4) true (Date.yearChars year ++ rest) = some (year, rest) := by
  have hd (n : Nat) : readDigits none (paddedDigits 4 n ++ rest) = some ((n : Int), rest) := by
    rw [readDigits_none (fun _ hc => isDigit_of_mem_paddedDigits hc) (paddedDigits_ne_nil 4 n) hrest,
      natOfDigits_paddedDigits]
  unfold Date.yearChars
  split
  case isTrue h =>
    have hr := readNumber_padded (by decide) (show year.toNat < 10 ^ 4 by omega) true rest
    rwa [Int.toNat_of_nonneg h.1] at hr
  case isFalse h =>
    rw [List.cons_append]
    by_cases hneg : year < 0
    case pos =>
      have hs := skipBlanks_of_not_blank (c := '-') rfl (paddedDigits 4 year.natAbs ++ rest)
      simp only [if_pos hneg, readNumber, hs, hd, Option.map_some]
      congr 2
      omega
    case neg =>
      have hs := skipBlanks_of_not_blank (c := '+') rfl (paddedDigits 4 year.natAbs ++ rest)
      simp only [if_neg hneg, readNumber, hs, hd]
      congr 2
      omega

theorem ofPattern?_monthFirst :
    ofPattern? Date.monthFirst.toList = some [month, .literal '/', day, .literal '/', year] := rfl

theorem ofPattern?_yearFirst :
    ofPattern? Date.yearFirst.toList = some [year, .literal '-', month, .literal '-', day] := rfl

theorem read_number {width : Option Nat} {signed : Bool} {add : Findings → Int → Option Findings}
    {fs : Findings} {cs rest : List Char} {n : Int}
    (h : readNumber width signed cs = some (n, rest)) :
    read fs cs (.number width signed add) = (add fs n).map fun fs => (fs, rest) := by
  rw [Option.map_eq_bind, read, h]
  rfl

theorem add_of_new {fs : Findings} {field : Field} (h : fs.lookup field = none) (value : Int) :
    fs.add field value = some ((field, value) :: fs) := by
  rw [Findings.add, h]

section Fields

variable {fs : Findings}

theorem read_month (hnew : fs.lookup .month = none) {n : Nat} (h : 1 ≤ n) (h' : n ≤ 12)
    (rest : List Char) :
    read fs (paddedDigits 2 n ++ rest) month = some ((.month, (n : Int)) :: fs, rest) := by
  have hr := readNumber_padded (by decide) (show n < 10 ^ 2 by omega) false rest
  rw [month, within, read_number hr, Findings.addWithin, if_pos (by omega), add_of_new hnew]
  rfl

theorem read_day (hnew : fs.lookup .day = none) {n : Nat} (h : 1 ≤ n) (h' : n ≤ 31)
    (rest : List Char) :
    read fs (paddedDigits 2 n ++ rest) day = some ((.day, (n : Int)) :: fs, rest) := by
  have hr := readNumber_padded (by decide) (show n < 10 ^ 2 by omega) false rest
  rw [day, within, read_number hr, Findings.addWithin, if_pos (by omega), add_of_new hnew]
  rfl

theorem read_year (hnew : fs.lookup .year = none) {y : Int} (h : -262143 ≤ y) (h' : y ≤ 262142)
    {rest : List Char} (hrest : ∀ c ∈ rest.head?, c.isDigit = false) :
    read fs (Date.yearChars y ++ rest) year = some ((.year, y) :: fs, rest) := by
  have hp : pow2 31 = 2147483648 := by decide
  rw [year, read_number (readNumber_yearChars y hrest), Findings.addYear, Findings.addWithin,
    if_pos (by omega), add_of_new hnew]
  rfl

end Fields

section Parts

variable {parts : List Part} {fs : Findings}

theorem readAll_of_read {part : Part} {fs' : Findings} {cs rest : List Char}
    (h : read fs cs part = some (fs', rest)) :
    readAll (part :: parts) fs cs = readAll parts fs' rest := by
  rw [readAll, h]
  rfl

theorem readAll_literal (c : Char) (rest : List Char) :
    readAll (.literal c :: parts) fs (c :: rest) = readAll parts fs rest :=
  readAll_of_read (if_pos rfl)

end Parts

end TableFilter.Calendar.Part

namespace TableFilter.Calendar

theorem daysInMonth_le (year : Int) (month : Nat) : daysInMonth year month ≤ 31 := by
  unfold daysInMonth
  split
  · split <;> decide
  all_goals decide

namespace Findings

variable {fs : Findings} {field : Field}

theorem agrees_of_lookup {value : Int} (h : fs.lookup field = none ∨ fs.lookup field = some value) :
    fs.agrees field value := by
  rcases h with h | h <;> simp [agrees, h]

theorem agreesOnPart_of_lookup (h : fs.lookup field = none) (year part : Int) :
    fs.agreesOnPart field year part := by
  rw [agreesOnPart, h]

/-- Findings of nothing but year, month and day name the date of these, in whatever order they were
made. -/
theorem date?_of_ymd (d : Date) (hyear : fs.lookup .year = some d.year)
    (hmonth : fs.lookup .month = some (d.month : Int)) (hday : fs.lookup .day = some (d.day : Int))
    (hnone : ∀ field, field ≠ .year → field ≠ .month → field ≠ .day → fs.lookup field = none) :
    fs.date? = some d := by
  have hother {field : Field} (h : field ≠ .year ∧ field ≠ .month ∧ field ≠ .day := by decide) :
      fs.lookup field = none := hnone field h.1 h.2.1 h.2.2
  have hd : Date.ofYmd? d.year d.month d.day = some d := dif_pos d.isDate
  have hc : fs.candidate (some d.year) none = some d := by
    simp only [candidate, hmonth, hday, Option.map_some, Int.toNat_natCast, hd]
  have ha : fs.agreeWith d = true := by
    simp only [agreeWith, Bool.and_eq_true, and_assoc]
    exact ⟨agrees_of_lookup (.inr hyear), agreesOnPart_of_lookup hother _ _,
      agreesOnPart_of_lookup hother _ _, agrees_of_lookup (.inr hmonth),
      agrees_of_lookup (.inr hday), agrees_of_lookup (.inl hother), agrees_of_lookup (.inl hother),
      agreesOnPart_of_lookup hother _ _, agreesOnPart_of_lookup hother _ _,
      agrees_of_lookup (.inl hother), agrees_of_lookup (.inl hother),
      agrees_of_lookup (.inl hother), agrees_of_lookup (.inl hother),
      agrees_of_lookup (.inl hother)⟩
  have hfull : fullYear (fs.lookup .isoYear) (fs.lookup .isoCentury)
      (fs.lookup .isoYearOfCentury) = some none := by
    rw [hother, hother, hother]
    rfl
  have hyears : fullYear (fs.lookup .year) (fs.lookup .century) (fs.lookup .yearOfCentury) =
      some (some d.year) := by
    rw [hyear, hother, hother]
    rfl
  simp only [date?, hyears, hfull, Option.bind_eq_bind, Option.bind_some, hc]
  rw [Option.filter_some, if_pos ha]

end Findings

end TableFilter.Calendar

namespace TableFilter.Date

open Text Calendar

theorem day_le (d : Date) : d.day ≤ 31 :=
  d.isDate.2.2.2.2.2.trans (daysInMonth_le d.year d.month)

theorem ofPattern?_monthFirstChars (d : Date) :
    ofPattern? monthFirst.toList d.monthFirstChars = some d := by
  obtain ⟨hy, hy', hm, hm', hd, -⟩ := d.isDate
  have hall : Part.readAll [Part.month, .literal '/', Part.day, .literal '/', Part.year] []
      d.monthFirstChars = some [(.year, d.year), (.day, d.day), (.month, d.month)] := by
    rw [monthFirstChars, List.append_assoc, Part.readAll_of_read (Part.read_month rfl hm hm' _),
      List.cons_append, Part.readAll_literal, Part.readAll_of_read (Part.read_day rfl hd d.day_le _),
      Part.readAll_literal, ← List.append_nil (yearChars d.year),
      Part.readAll_of_read (Part.read_year rfl hy hy' (by simp)), Part.readAll]
  rw [ofPattern?, Part.ofPattern?_monthFirst]
  simp only [Option.bind_eq_bind, Option.bind_some, hall]
  refine Findings.date?_of_ymd d rfl rfl rfl ?_
  intro field hyear hmonth hday
  simp only [List.lookup_cons, beq_false_of_ne hyear, beq_false_of_ne hmonth, beq_false_of_ne hday]
  rfl

theorem ofPattern?_toChars (d : Date) : ofPattern? yearFirst.toList d.toChars = some d := by
  obtain ⟨hy, hy', hm, hm', hd, -⟩ := d.isDate
  have hall : Part.readAll [Part.year, .literal '-', Part.month, .literal '-', Part.day] []
      d.toChars = some [(.day, (d.day : Int)), (.month, (d.month : Int)), (.year, d.year)] := by
    rw [toChars, List.append_assoc, Part.readAll_of_read (Part.read_year rfl hy hy' (by simp)),
      List.cons_append, Part.readAll_literal,
      Part.readAll_of_read (Part.read_month rfl hm hm' _), Part.readAll_literal,
      ← List.append_nil (paddedDigits 2 d.day),
      Part.readAll_of_read (Part.read_day rfl hd d.day_le _), Part.readAll]
  rw [ofPattern?, Part.ofPattern?_yearFirst]
  simp only [Option.bind_eq_bind, Option.bind_some, hall]
  refine Findings.date?_of_ymd d rfl rfl rfl ?_
  intro field hyear hmonth hday
  simp only [List.lookup_cons, beq_false_of_ne hyear, beq_false_of_ne hmonth, beq_false_of_ne hday]
  rfl

theorem mem_yearChars {year : Int} {c : Char} (h : c ∈ yearChars year) :
    c.isDigit ∨ c = '-' ∨ c = '+' := by
  unfold yearChars at h
  split at h
  · exact .inl (isDigit_of_mem_paddedDigits h)
  · rcases List.mem_cons.mp h with rfl | h
    · split
      · exact .inr (.inl rfl)
      · exact .inr (.inr rfl)
    · exact .inl (isDigit_of_mem_paddedDigits h)

theorem mem_monthFirstChars {d : Date} {c : Char} (h : c ∈ d.monthFirstChars) :
    c.isDigit ∨ c = '/' ∨ c = '-' ∨ c = '+' := by
  simp only [monthFirstChars, List.mem_append, List.mem_cons] at h
  rcases h with (h | h | h) | h | h
  · exact .inl (isDigit_of_mem_paddedDigits h)
  · exact .inr (.inl h)
  · exact .inl (isDigit_of_mem_paddedDigits h)
  · exact .inr (.inl h)
  · rcases mem_yearChars h with h | h
    · exact .inl h
    · exact .inr (.inr h)

theorem isBlank_of_mem_monthFirstChars {d : Date} {c : Char} (h : c ∈ d.monthFirstChars) :
    isBlank c = false := by
  rcases mem_monthFirstChars h with h | rfl | rfl | rfl
  · exact isBlank_of_isDigit h
  all_goals rfl

theorem isBlank_of_mem_toChars {d : Date} {c : Char} (h : c ∈ d.toChars) : isBlank c = false := by
  simp only [toChars, List.mem_append, List.mem_cons] at h
  rcases h with (h | rfl | h) | rfl | h
  · rcases mem_yearChars h with h | rfl | rfl
    · exact isBlank_of_isDigit h
    all_goals rfl
  · rfl
  · exact isBlank_of_isDigit (isDigit_of_mem_paddedDigits h)
  · rfl
  · exact isBlank_of_isDigit (isDigit_of_mem_paddedDigits h)

/-- The text that shows a date is read as that date. -/
theorem read?_text (d : Date) : read? [] d.text = some d := by
  have ht : trimChars d.text.toList = d.toChars := by
    rw [text, String.toList_ofList]
    exact (IsTrimmed.of_forall fun _ h => isBlank_of_mem_toChars h).trimChars_eq
  rw [read?, List.nil_append, List.findSome?_singleton, ht, ofPattern?_toChars]

theorem ne_numberSign_of_mem_monthFirstChars {d : Date} {c : Char} (h : c ∈ d.monthFirstChars) :
    c ≠ '#' := by
  rintro rfl
  rcases mem_monthFirstChars h with h | h | h | h <;> cases h

end TableFilter.Date
