import TableFilter.Filter.Strategy
import TableFilter.Proofs.Predicate.Literals

/-!
# Forms are recognised

Every part that a predicate is written with is taken off the front of a text again, and what follows
it is left: references to columns, string literals, numbers and dates. A comparison and a range of
such parts are recognised as a whole, and neither is taken for the other.
-/

namespace TableFilter.Form

open Text Literal

theorem dropText?_append (text : String) (rest : List Char) :
    dropText? text (text.toList ++ rest) = some rest := by
  have hprefix : text.toList.isPrefixOf (text.toList ++ rest) :=
    List.isPrefixOf_iff_prefix.mpr (List.prefix_append _ _)
  rw [dropText?, if_pos hprefix, ← String.length_toList, List.drop_left]

theorem dropName?_cons {c : Char} (hb : c ≠ ']') (hs : c ≠ '\\') (seen : Bool) (cs : List Char) :
    dropName? seen (c :: cs) = dropName? true cs := by
  conv_lhs => unfold dropName?
  split
  case h_1 heq => cases heq
  case h_2 heq => exact absurd (List.cons.inj heq).1 hs
  case h_3 heq => exact absurd (List.cons.inj heq).1 hb
  case h_4 heq => exact absurd (List.cons.inj heq).1 hs
  case h_5 heq => rw [(List.cons.inj heq).2]

/-- What stands between the brackets of a reference. A backslash stands before every closing bracket
and before every other backslash, and may stand before any character but a line feed. -/
inductive IsName : List Char → Prop where
  | nil : IsName []
  | plain {c : Char} {cs : List Char} (hb : c ≠ ']') (hs : c ≠ '\\') (h : IsName cs) :
    IsName (c :: cs)
  | escaped {c : Char} {cs : List Char} (hc : c ≠ '\n') (h : IsName cs) : IsName ('\\' :: c :: cs)

def IsReference (r : String) : Prop :=
  ∃ cs, cs ≠ [] ∧ IsName cs ∧ r = String.ofList ('[' :: cs ++ [']'])

theorem isName_escaped (cs : List Char) : IsName (cs.flatMap escapeInColumn) := by
  induction cs with
  | nil => exact .nil
  | cons c cs ih =>
    rw [List.flatMap_cons]
    by_cases hc : c = ']' ∨ c = '\\'
    · have hline : c ≠ '\n' := by rcases hc with rfl | rfl <;> decide
      rw [escapeInColumn, if_pos hc]
      exact .escaped hline ih
    · obtain ⟨hb, hs⟩ := not_or.mp hc
      rw [escapeInColumn, if_neg hc]
      exact .plain hb hs ih

theorem isReference_columnRef {name : String} (hn : name ≠ "") : IsReference (columnRef name) := by
  refine ⟨_, ?_, isName_escaped name.toList, rfl⟩
  obtain ⟨c, cs, hcs⟩ := List.exists_cons_of_ne_nil (show name.toList ≠ [] by simpa using hn)
  rw [hcs, List.flatMap_cons, escapeInColumn]
  split <;> simp

theorem dropName?_append {name : List Char} (h : IsName name) {seen : Bool}
    (hseen : seen ∨ name ≠ []) (rest : List Char) :
    dropName? seen (name ++ ']' :: rest) = some rest := by
  induction h generalizing seen with
  | nil =>
    rw [hseen.resolve_right fun hne => hne rfl]
    rfl
  | plain hb hs _ ih => rw [List.cons_append, dropName?_cons hb hs, ih (.inl rfl)]
  | escaped hc _ ih =>
    rw [List.cons_append, List.cons_append, dropName?, if_neg hc, ih (.inl rfl)]

theorem dropColumnRef?_reference {r : String} (h : IsReference r) (rest : List Char) :
    dropColumnRef? (r.toList ++ rest) = some rest := by
  obtain ⟨name, hne, hname, rfl⟩ := h
  rw [String.toList_ofList, List.cons_append, List.cons_append, List.append_assoc]
  exact dropName?_append hname (.inr hne) rest

theorem dropColumnRef?_append {name : String} (h : name ≠ "") (rest : List Char) :
    dropColumnRef? ((columnRef name).toList ++ rest) = some rest :=
  dropColumnRef?_reference (isReference_columnRef h) rest

theorem dropAsText?_append {name : String} (h : name ≠ "") (rest : List Char) :
    dropAsText? ((asText (columnRef name)).toList ++ rest) = some rest := by
  have htext : (asText (columnRef name)).toList ++ rest = "Convert(".toList ++
      ((columnRef name).toList ++ (", 'System.String')".toList ++ rest)) := by
    rw [asText, String.toList_append, String.toList_append, List.append_assoc, List.append_assoc]
  simp only [dropAsText?, htext, dropText?_append, dropColumnRef?_append h, Option.bind_eq_bind,
    Option.bind_some]

/-- A reference to a column is no operand that is converted to text. -/
theorem dropAsText?_reference {r : String} (h : IsReference r) (rest : List Char) :
    dropAsText? (r.toList ++ rest) = none := by
  obtain ⟨cs, -, -, rfl⟩ := h
  rw [String.toList_ofList]
  rfl

theorem dropColumnRef?_asText (s : String) (rest : List Char) :
    dropColumnRef? ((asText s).toList ++ rest) = none := by
  simp only [asText, String.toList_append]
  rfl

theorem isQuoted_doubleQuotes (cs : List Char) : isQuoted (doubleQuotes cs) := by
  induction cs with
  | nil => rfl
  | cons c cs ih =>
    rw [doubleQuotes, List.flatMap_cons]
    by_cases hc : c = '\''
    · rw [if_pos hc]
      exact ih
    · rw [if_neg hc, List.singleton_append, isQuoted]
      · exact ih
      · exact fun _ h _ => hc h
      · exact hc

theorem undoubleQuotes_doubleQuotes (cs : List Char) : undoubleQuotes (doubleQuotes cs) = cs := by
  induction cs with
  | nil => rfl
  | cons c cs ih =>
    rw [doubleQuotes, List.flatMap_cons]
    by_cases hc : c = '\''
    · rw [if_pos hc, hc]
      exact congrArg _ ih
    · rw [if_neg hc, List.singleton_append, undoubleQuotes]
      · exact congrArg _ ih
      · exact fun _ h _ => hc h

theorem doubleQuotes_of_plain {cs : List Char} (h : ∀ c ∈ cs, c ≠ '\'') : doubleQuotes cs = cs := by
  induction cs with
  | nil => rfl
  | cons c cs ih =>
    obtain ⟨hc, hcs⟩ := List.forall_mem_cons.mp h
    rw [doubleQuotes_cons hc, ih hcs]

/-- What follows the opening quote of a literal is recognised together with the ending of the text.
-/
theorem quotedUpTo?_quote (s ending : String) (hending : ∀ c ∈ ending.toList, c ≠ '\'') :
    quotedUpTo? ending (doubleQuotes (s ++ ending).toList ++ ['\'']) = some s := by
  have hparts : doubleQuotes (s ++ ending).toList ++ ['\''] =
      doubleQuotes s.toList ++ (ending.toList ++ ['\'']) := by
    rw [String.toList_append, doubleQuotes_append, doubleQuotes_of_plain hending, List.append_assoc]
  have hlength : (doubleQuotes s.toList ++ (ending.toList ++ ['\''])).length -
      (ending.toList ++ ['\'']).length = (doubleQuotes s.toList).length := by
    rw [List.length_append, Nat.add_sub_cancel]
  simp only [quotedUpTo?, hparts, hlength, List.take_left, List.drop_left, isQuoted_doubleQuotes,
    undoubleQuotes_doubleQuotes, String.ofList_toList]
  simp

theorem toList_quote (s : String) :
    (quote s).toList = '\'' :: (doubleQuotes s.toList ++ ['\'']) := by
  rw [quote, String.toList_ofList, List.cons_append]

def Ends (rest : List Char) : Prop := ∀ c ∈ rest.head?, c = ' '

theorem ends_nil : Ends [] := by simp [Ends]

theorem ends_blank (rest : List Char) : Ends (' ' :: rest) := by simp [Ends]

theorem ends_and (rest : List Char) : Ends (" AND ".toList ++ rest) := ends_blank _

/-- The literal is taken off the front of every text in which a blank or nothing follows it. -/
def Takes {α : Type} (literal : List Char → Option (α × List Char)) (text : String)
    (a : α) : Prop :=
  ∀ rest, Ends rest → literal (text.toList ++ rest) = some (a, rest)

def Refuses {α : Type} (literal : List Char → Option (α × List Char)) (text : String) : Prop :=
  ∀ rest, literal (text.toList ++ rest) = none

theorem Takes.text_eq {α : Type} {literal : List Char → Option (α × List Char)} {text : String}
    {a : α} (h : Takes literal text a) : literal text.toList = some (a, []) := by
  rw [← List.append_nil text.toList, h [] ends_nil]

theorem Refuses.text_eq {α : Type} {literal : List Char → Option (α × List Char)} {text : String}
    (h : Refuses literal text) : literal text.toList = none := by
  rw [← List.append_nil text.toList, h []]

theorem takeWhile_of_ends {p : Char → Bool} (hp : p ' ' = false) {rest : List Char}
    (h : Ends rest) : rest.takeWhile p = [] ∧ rest.dropWhile p = rest := by
  cases rest with
  | nil => exact ⟨rfl, rfl⟩
  | cons c cs =>
    rw [h c rfl, List.takeWhile_cons, List.dropWhile_cons, hp]
    exact ⟨rfl, rfl⟩

theorem takeWhile_append {p : Char → Bool} {ds l : List Char} (hd : ∀ c ∈ ds, p c)
    (h : l.takeWhile p = [] ∧ l.dropWhile p = l) :
    (ds ++ l).takeWhile p = ds ∧ (ds ++ l).dropWhile p = l := by
  rw [List.takeWhile_append_of_pos hd, List.dropWhile_append_of_pos hd, h.1, h.2, List.append_nil]
  exact ⟨rfl, rfl⟩

def takeUnsigned? (sign rest : List Char) : Option (List Char × List Char) :=
  let whole := rest.takeWhile Char.isDigit
  let (places, rest) := match rest.dropWhile Char.isDigit with
    | '.' :: rest => ('.' :: rest.takeWhile Char.isDigit, rest.dropWhile Char.isDigit)
    | rest => ([], rest)
  if whole.isEmpty then none else some (sign ++ whole ++ places, rest)

theorem takeNumber?_digit {c : Char} (h : c.isDigit) (cs : List Char) :
    takeNumber? (c :: cs) = takeUnsigned? [] (c :: cs) := by
  unfold takeNumber?
  split
  case h_1 heq =>
    split at heq
    case h_1 hcs => cases hcs; cases h
    case h_2 hcs => cases hcs; cases h
    case h_3 => cases heq; rfl

def IsPlaces (cs : List Char) : Prop :=
  cs = [] ∨ ∃ digits, cs = '.' :: digits ∧ ∀ c ∈ digits, c.isDigit

theorem takeUnsigned?_append (sign : List Char) {whole places rest : List Char} (hne : whole ≠ [])
    (hwhole : ∀ c ∈ whole, c.isDigit) (hplaces : IsPlaces places) (h : Ends rest) :
    takeUnsigned? sign (whole ++ places ++ rest) = some (sign ++ whole ++ places, rest) := by
  have hend := takeWhile_of_ends (p := Char.isDigit) rfl h
  have hne' : ¬ whole.isEmpty = true := by simpa using hne
  rw [List.append_assoc]
  rcases hplaces with rfl | ⟨digits, rfl, hdigits⟩
  · obtain ⟨htake, hdrop⟩ := takeWhile_append hwhole hend
    rw [List.nil_append]
    simp only [takeUnsigned?, htake, hdrop, if_neg hne']
    -- What ends the number is no point.
    cases rest with
    | nil => rfl
    | cons c cs =>
      rw [h c rfl]
      rfl
  · obtain ⟨htake, hdrop⟩ := takeWhile_append (p := Char.isDigit) (l := '.' :: (digits ++ rest))
      hwhole ⟨rfl, rfl⟩
    obtain ⟨hplaces, hrest⟩ := takeWhile_append hdigits hend
    rw [List.cons_append]
    simp only [takeUnsigned?, htake, hdrop, hplaces, hrest, if_neg hne']

theorem takeUnsigned?_unsignedChars (d : Decimal) (sign : List Char) {rest : List Char}
    (h : Ends rest) :
    takeUnsigned? sign (d.unsignedChars ++ rest) = some (sign ++ d.unsignedChars, rest) := by
  have hplaces : IsPlaces (if d.scale = 0 then [] else '.' :: d.fraction) := by
    split
    · exact .inl rfl
    · exact .inr ⟨_, rfl, fun _ hc => d.isDigit_of_mem_fraction hc⟩
  have htake := takeUnsigned?_append sign d.whole_ne_nil
    (fun _ hc => d.isDigit_of_mem_whole hc) hplaces h
  rwa [List.append_assoc sign] at htake

theorem takeNumber?_toChars (d : Decimal) {rest : List Char} (h : Ends rest) :
    takeNumber? (d.toChars ++ rest) = some (d.toChars, rest) := by
  rw [Decimal.toChars_eq]
  cases d.negative with
  | true => exact takeUnsigned?_unsignedChars d ['-'] h
  | false =>
    obtain ⟨c, cs, hcs, hc⟩ := d.exists_unsignedChars_eq_cons
    have hu := takeUnsigned?_unsignedChars d [] h
    rw [hcs] at hu ⊢
    exact (takeNumber?_digit hc _).trans hu

theorem takes_number (d : Decimal) :
    Takes NumericFilter.takeDecimal? (number d) (some d.restored) := by
  intro rest h
  have hd : String.ofList d.toChars = d.text := rfl
  rw [number, Decimal.text, String.toList_ofList, NumericFilter.takeDecimal?,
    takeNumber?_toChars d h]
  simp only [Option.map_some, hd, d.read?_text]

theorem takeDigits?_paddedDigits {count n : Nat} (hc : 0 < count) (hn : n < 10 ^ count)
    (rest : List Char) : takeDigits? count (paddedDigits count n ++ rest) = some (n, rest) := by
  have hlength := length_paddedDigits_of_lt hc hn
  have htake : (paddedDigits count n ++ rest).take count = paddedDigits count n :=
    List.take_left' hlength
  have hdrop : (paddedDigits count n ++ rest).drop count = rest := List.drop_left' hlength
  have hall : (paddedDigits count n).all Char.isDigit :=
    List.all_eq_true.mpr fun _ h => isDigit_of_mem_paddedDigits h
  simp only [takeDigits?, htake, hdrop, hlength, hall, natOfDigits_paddedDigits]
  simp

/-- The month and the day of a date literal have two digits each; the year is another matter. -/
theorem takeDate?_date (d : Date) (rest : List Char) :
    takeDate? ((date d).toList ++ rest) = (do
      let (year, rest) ← takeDigits? 4 (Date.yearChars d.year ++ ("#".toList ++ rest))
      let rest ← dropText? "#" rest
      return (Date.ofYmd? year d.month d.day, rest)) := by
  obtain ⟨-, -, -, hmonth, -, hday⟩ := d.isDate
  have hday' := hday.trans (Calendar.daysInMonth_le d.year d.month)
  have htext : (date d).toList ++ rest = "#".toList ++ (paddedDigits 2 d.month ++ ("/".toList ++
      (paddedDigits 2 d.day ++ ("/".toList ++
        (Date.yearChars d.year ++ ("#".toList ++ rest)))))) := by
    simp [date, Date.monthFirstChars]
  have hm := takeDigits?_paddedDigits (by decide) (show d.month < 10 ^ 2 by omega)
  have hd := takeDigits?_paddedDigits (by decide) (show d.day < 10 ^ 2 by omega)
  simp only [takeDate?, htext, dropText?_append, hm, hd, Option.bind_eq_bind, Option.bind_some,
    Option.pure_def]

/-- The year of a date literal has four digits and no sign. -/
theorem takes_date {d : Date} (hy : 0 ≤ d.year ∧ d.year ≤ 9999) :
    Takes takeDate? (date d) (some d) := by
  intro rest _
  have hyear : ((d.year.toNat : Nat) : Int) = d.year := Int.toNat_of_nonneg hy.1
  have hdate : Date.ofYmd? d.year d.month d.day = some d := dif_pos d.isDate
  have hy' := takeDigits?_paddedDigits (by decide)
    (show d.year.toNat < 10 ^ 4 by omega)
  simp only [takeDate?_date, Date.yearChars, if_pos hy, hy', dropText?_append, Option.bind_eq_bind,
    Option.bind_some, hyear, hdate, Option.pure_def]

theorem refuses_date {d : Date} (hy : ¬ (0 ≤ d.year ∧ d.year ≤ 9999)) :
    Refuses takeDate? (date d) := by
  intro rest
  have hdigits (c : Char) (hc : c.isDigit = false) (cs : List Char) :
      takeDigits? 4 (c :: cs) = none := by
    simp [takeDigits?, hc]
  have hsign : (if d.year < 0 then '-' else '+').isDigit = false := by
    split <;> rfl
  rw [takeDate?_date, Date.yearChars, if_neg hy, List.cons_append, hdigits _ hsign,
    Option.bind_eq_bind, Option.bind_none]

theorem refuses_number_false : Refuses NumericFilter.takeDecimal? "false" := fun _ => rfl

theorem refuses_date_false : Refuses takeDate? "false" := fun _ => rfl

theorem takeComparison?_symbol (op : Comparison) (rest : List Char) :
    takeComparison? (op.symbol.toList ++ ' ' :: rest) = some (op, ' ' :: rest) := by
  cases op <;> rfl

section Forms

variable {α : Type} {literal : List Char → Option (α × List Char)} {name low high text : String}
  {a b : α}

theorem toList_compare (left : String) (op : Comparison) (right : String) :
    (Literal.compare left op right).toList =
      left.toList ++ ' ' :: (op.symbol.toList ++ ' ' :: right.toList) := by
  simp [Literal.compare]

theorem comparison?_of_toList {r : String} (hr : IsReference r) (op : Comparison)
    {rest : List Char} (h : text.toList = r.toList ++ ' ' :: (op.symbol.toList ++ ' ' :: rest)) :
    comparison? literal text =
      (literal rest).bind fun (a, rest) => whole? ((op, a), rest) := by
  have hblank (cs : List Char) : dropText? " " (' ' :: cs) = some cs := dropText?_append " " cs
  simp only [comparison?, h, dropColumnRef?_reference hr, hblank, takeComparison?_symbol,
    Option.bind_eq_bind, Option.bind_some]

theorem comparison?_compare (hn : name ≠ "") (op : Comparison) (h : Takes literal text a) :
    comparison? literal (Literal.compare (columnRef name) op text) = some (op, a) := by
  rw [comparison?_of_toList (isReference_columnRef hn) op (toList_compare ..), h.text_eq]
  rfl

theorem comparison?_of_refuses (hn : name ≠ "") (op : Comparison) (h : Refuses literal text) :
    comparison? literal (Literal.compare (columnRef name) op text) = none := by
  rw [comparison?_of_toList (isReference_columnRef hn) op (toList_compare ..), h.text_eq]
  rfl

theorem compare_inj {left right : String} {op : Comparison} :
    Literal.compare left op text = Literal.compare left op right ↔ text = right :=
  String.append_right_inj _

def rangeOf (ref low high : String) : String :=
  Literal.compare ref .ge low ++ " AND " ++ Literal.compare ref .le high

theorem toList_rangeOf (ref low high : String) : (rangeOf ref low high).toList = ref.toList ++
    (" >= ".toList ++ (low.toList ++ (" AND ".toList ++ (ref.toList ++
      (" <= ".toList ++ high.toList))))) := by
  simp [rangeOf, Literal.compare, Comparison.symbol]

theorem range?_rangeOf (hn : name ≠ "") (hl : Takes literal low a) (hh : Takes literal high b) :
    range? literal (rangeOf (columnRef name) low high) = some (a, b) := by
  simp only [range?, toList_rangeOf, dropColumnRef?_append hn, dropText?_append, hl _ (ends_and _),
    hh.text_eq, Option.bind_eq_bind, Option.bind_some, whole?]

theorem dropText?_symbol {op : Comparison} (h : op ≠ .ge) (rest : List Char) :
    dropText? " >= " (' ' :: (op.symbol.toList ++ ' ' :: rest)) = none := by
  cases op with
  | ge => exact absurd rfl h
  | _ => rfl

/-- A comparison ends where a range goes on. -/
theorem range?_compare (hn : name ≠ "") (op : Comparison)
    (h : (∃ a, Takes literal text a) ∨ Refuses literal text) :
    range? literal (Literal.compare (columnRef name) op text) = none := by
  by_cases hop : op = .ge
  case neg =>
    simp only [range?, toList_compare, dropColumnRef?_append hn, dropText?_symbol hop,
      Option.bind_eq_bind, Option.bind_some, Option.bind_none]
  case pos =>
    have hge : ' ' :: (op.symbol.toList ++ ' ' :: text.toList) = " >= ".toList ++ text.toList := by
      rw [hop]
      rfl
    have hend : dropText? " AND " [] = none := rfl
    simp only [range?, toList_compare, dropColumnRef?_append hn, hge, dropText?_append,
      Option.bind_eq_bind, Option.bind_some]
    rcases h with ⟨a, h⟩ | h
    · rw [h.text_eq, Option.bind_some, hend, Option.bind_none]
    · rw [h.text_eq, Option.bind_none]

/-- A range goes on where a comparison ends. -/
theorem comparison?_rangeOf (hn : name ≠ "")
    (h : (∃ a, Takes literal low a) ∨ Refuses literal low) :
    comparison? literal (rangeOf (columnRef name) low high) = none := by
  have htext : (rangeOf (columnRef name) low high).toList = (columnRef name).toList ++
      ' ' :: (Comparison.ge.symbol.toList ++ ' ' :: (low.toList ++
        (" AND ".toList ++ (Literal.compare (columnRef name) .le high).toList))) := by
    simp [rangeOf, Literal.compare]
  rw [comparison?_of_toList (isReference_columnRef hn) .ge htext]
  rcases h with ⟨a, h⟩ | h
  · rw [h _ (ends_and _)]
    rfl
  · rw [h]
    rfl

theorem range?_of_refuses (hn : name ≠ "")
    (h : Refuses literal low ∨ (∃ a, Takes literal low a) ∧ Refuses literal high) :
    range? literal (rangeOf (columnRef name) low high) = none := by
  simp only [range?, toList_rangeOf, dropColumnRef?_append hn, dropText?_append,
    Option.bind_eq_bind, Option.bind_some]
  rcases h with h | ⟨⟨a, hl⟩, hh⟩
  · rw [h, Option.bind_none]
  · simp only [hl _ (ends_and _), dropText?_append, dropColumnRef?_append hn, hh.text_eq,
      Option.bind_some, Option.bind_none]

def takeWord? (cs : List Char) : Option (List Char × List Char) :=
  some (cs.takeWhile (· != ' '), cs.dropWhile (· != ' '))

theorem takes_word (h : ' ' ∉ text.toList) : Takes takeWord? text text.toList := by
  intro rest hends
  have hword : ∀ c ∈ text.toList, (c != ' ') = true := by
    intro c hc
    rw [bne_iff_ne]
    rintro rfl
    exact h hc
  obtain ⟨htake, hdrop⟩ := takeWhile_append hword (takeWhile_of_ends rfl hends)
  rw [takeWord?, htake, hdrop]

/-- The bounds of a range can be told from what is written, if no blank stands in them. -/
theorem rangeOf_inj (hn : name ≠ "") {low' high' : String} (hl : ' ' ∉ low.toList)
    (hh : ' ' ∉ high.toList) (hl' : ' ' ∉ low'.toList) (hh' : ' ' ∉ high'.toList)
    (h : rangeOf (columnRef name) low high = rangeOf (columnRef name) low' high') :
    low = low' ∧ high = high' := by
  have hrange := congrArg (range? takeWord?) h
  rw [range?_rangeOf hn (takes_word hl) (takes_word hh),
    range?_rangeOf hn (takes_word hl') (takes_word hh'), Option.some.injEq, Prod.mk.injEq] at hrange
  exact ⟨String.toList_injective hrange.1, String.toList_injective hrange.2⟩

theorem range?_asText (s rest : String) : range? literal (asText s ++ rest) = none := by
  simp only [range?, String.toList_append, dropColumnRef?_asText, Option.bind_eq_bind,
    Option.bind_none]

end Forms

end TableFilter.Form
