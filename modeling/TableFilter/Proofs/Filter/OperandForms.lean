import TableFilter.Proofs.Filter.Recognising

/-!
# Predicates with operands

A filter of numbers or dates recognises comparisons, ranges and beginnings of texts for any
reference to a column. Numbers may be written with either sign and with any places, dates only with
two digits for the month and the day and four for the year. A literal of this form that stands for
no number or no date makes a form that is recognised but gives nothing. No predicate has two of the
forms, so the order in which they are tried does not matter.
-/

namespace TableFilter

open Text Literal

namespace Form

/-- A number in plain notation, and the decimal that it stands for unless it is out of range. -/
def IsNumber (s : String) (d : Option Decimal) : Prop :=
  (∃ sign whole places, s = String.ofList (sign ++ whole ++ places) ∧
    (sign = [] ∨ sign = ['+'] ∨ sign = ['-']) ∧ whole ≠ [] ∧ (∀ c ∈ whole, c.isDigit) ∧
    IsPlaces places) ∧ d = Decimal.read? s

structure IsDigits (count n : Nat) (cs : List Char) : Prop where
  length : cs.length = count
  isDigit : ∀ c ∈ cs, c.isDigit
  value : natOfDigits cs = n

def IsDateLiteral (s : String) (d : Option Date) : Prop :=
  ∃ month day year m n y, IsDigits 2 m month ∧ IsDigits 2 n day ∧ IsDigits 4 y year ∧
    s = String.ofList ('#' :: (month ++ '/' :: (day ++ '/' :: (year ++ ['#'])))) ∧
    d = Date.ofYmd? y m n

/-- The reader takes literals of some kind off the front of a text, and nothing else. -/
structure ReadsLiterals {α : Type} (literal : List Char → Option (α × List Char))
    (IsLiteral : String → α → Prop) : Prop where
  sound : ∀ {cs rest a}, literal cs = some (a, rest) → ∃ l, IsLiteral l a ∧ cs = l.toList ++ rest
  complete : ∀ {l a}, IsLiteral l a → Takes literal l a

theorem takeNumber?_eq_takeUnsigned? (cs : List Char) :
    ∃ sign rest, (sign = [] ∨ sign = ['+'] ∨ sign = ['-']) ∧ cs = sign ++ rest ∧
      takeNumber? cs = takeUnsigned? sign rest := by
  unfold takeNumber?
  split
  case h_1 heq =>
    split at heq
    case h_1 =>
      cases heq
      exact ⟨['+'], _, .inr (.inl rfl), rfl, rfl⟩
    case h_2 =>
      cases heq
      exact ⟨['-'], _, .inr (.inr rfl), rfl, rfl⟩
    case h_3 =>
      cases heq
      exact ⟨[], _, .inl rfl, rfl, rfl⟩

theorem exists_of_takeUnsigned? {sign cs digits rest : List Char}
    (h : takeUnsigned? sign cs = some (digits, rest)) :
    ∃ whole places, digits = sign ++ whole ++ places ∧ whole ≠ [] ∧ (∀ c ∈ whole, c.isDigit) ∧
      IsPlaces places ∧ cs = whole ++ places ++ rest := by
  have hparts : cs.takeWhile Char.isDigit ++ cs.dropWhile Char.isDigit = cs :=
    List.takeWhile_append_dropWhile
  have hwhole : ∀ c ∈ cs.takeWhile Char.isDigit, c.isDigit := fun _ => List.mem_takeWhile_imp
  unfold takeUnsigned? at h
  split at h
  case h_1 places behind heq =>
    have hplaces : IsPlaces places ∧ cs.dropWhile Char.isDigit = places ++ behind := by
      split at heq
      case h_1 rest' hpoint =>
        cases heq
        exact ⟨.inr ⟨_, rfl, fun _ => List.mem_takeWhile_imp⟩,
          by rw [hpoint, List.cons_append, List.takeWhile_append_dropWhile]⟩
      case h_2 =>
        cases heq
        exact ⟨.inl rfl, rfl⟩
    by_cases hne : (cs.takeWhile Char.isDigit).isEmpty
    case pos => simp [hne] at h
    case neg =>
      simp only [hne, Bool.false_eq_true, if_false, Option.some.injEq, Prod.mk.injEq] at h
      obtain ⟨rfl, rfl⟩ := h
      refine ⟨_, places, rfl, by simpa using hne, hwhole, hplaces.1, ?_⟩
      rw [List.append_assoc, ← hplaces.2, hparts]

theorem readsLiterals_number : ReadsLiterals NumericFilter.takeDecimal? IsNumber where
  sound := by
    intro cs rest a h
    obtain ⟨⟨digits, behind⟩, htake, hread⟩ := Option.map_eq_some_iff.mp h
    obtain ⟨sign, unsigned, hsign, rfl, hunsigned⟩ := takeNumber?_eq_takeUnsigned? cs
    rw [hunsigned] at htake
    obtain ⟨whole, places, rfl, hne, hwhole, hplaces, rfl⟩ := exists_of_takeUnsigned? htake
    obtain ⟨rfl, rfl⟩ := Prod.mk.inj hread
    refine ⟨_, ⟨⟨sign, whole, places, rfl, hsign, hne, hwhole, hplaces⟩, rfl⟩, ?_⟩
    simp only [String.toList_ofList, List.append_assoc]
  complete := by
    rintro l a ⟨⟨sign, whole, places, rfl, hsign, hne, hwhole, hplaces⟩, rfl⟩ rest hends
    have htake := takeUnsigned?_append sign hne hwhole hplaces hends
    have hnumber : takeNumber? (sign ++ whole ++ places ++ rest) =
        takeUnsigned? sign (whole ++ places ++ rest) := by
      rcases hsign with rfl | rfl | rfl
      · obtain ⟨c, cs, rfl⟩ := List.exists_cons_of_ne_nil hne
        exact takeNumber?_digit (hwhole c (List.mem_cons_self ..)) _
      · rfl
      · rfl
    rw [NumericFilter.takeDecimal?, String.toList_ofList, hnumber, htake]
    rfl

theorem takeDigits?_eq_some_iff {count n : Nat} {cs rest : List Char} :
    takeDigits? count cs = some (n, rest) ↔ ∃ ds, IsDigits count n ds ∧ cs = ds ++ rest := by
  constructor
  · intro h
    simp only [takeDigits?] at h
    split at h
    case isTrue hdigits =>
      simp only [Bool.and_eq_true, decide_eq_true_eq, List.all_eq_true] at hdigits
      obtain ⟨rfl, rfl⟩ := Prod.mk.inj (Option.some.inj h)
      exact ⟨cs.take count, ⟨hdigits.1, hdigits.2, rfl⟩, (List.take_append_drop count cs).symm⟩
    case isFalse => cases h
  · rintro ⟨ds, ⟨hlength, hdigits, rfl⟩, rfl⟩
    have htake : (ds ++ rest).take count = ds := List.take_left' hlength
    have hdrop : (ds ++ rest).drop count = rest := List.drop_left' hlength
    have hall : ds.all Char.isDigit := List.all_eq_true.mpr hdigits
    simp only [takeDigits?, htake, hdrop, hlength, hall]
    simp

theorem takeDate?_eq_some_iff {cs rest : List Char} {d : Option Date} :
    takeDate? cs = some (d, rest) ↔ ∃ l, IsDateLiteral l d ∧ cs = l.toList ++ rest := by
  simp only [takeDate?, Option.bind_eq_bind, Option.pure_def, Option.bind_eq_some_iff, Prod.exists,
    takeDigits?_eq_some_iff, dropText?_eq_some_iff, Option.some.injEq, Prod.mk.injEq]
  constructor
  · rintro ⟨_, rfl, m, _, ⟨month, hm, rfl⟩, _, rfl, n, _, ⟨day, hd, rfl⟩, _, rfl, y, _,
      ⟨year, hy, rfl⟩, _, rfl, rfl, rfl⟩
    exact ⟨_, ⟨month, day, year, m, n, y, hm, hd, hy, rfl, rfl⟩, by simp⟩
  · rintro ⟨_, ⟨month, day, year, m, n, y, hm, hd, hy, rfl, rfl⟩, rfl⟩
    exact ⟨_, by simp, m, _, ⟨month, hm, rfl⟩, _, rfl, n, _, ⟨day, hd, rfl⟩, _, rfl, y, _,
      ⟨year, hy, rfl⟩, _, rfl, rfl, rfl⟩

theorem readsLiterals_date : ReadsLiterals takeDate? IsDateLiteral where
  sound := takeDate?_eq_some_iff.mp
  complete := fun h _ _ => takeDate?_eq_some_iff.mpr ⟨_, h, rfl⟩

section Forms

variable {α : Type} {literal : List Char → Option (α × List Char)} {IsLiteral : String → α → Prop}
  {s : String} {op : Comparison} {a b : α}

def IsComparison (IsLiteral : String → α → Prop) (s : String) (op : Comparison) (a : α) : Prop :=
  ∃ r l, IsReference r ∧ IsLiteral l a ∧ s = Literal.compare r op l

/-- A range of some column between two literals. The column may change, which is not looked at. -/
def IsRange (IsLiteral : String → α → Prop) (s : String) (a b : α) : Prop :=
  ∃ r r' l h, IsReference r ∧ IsReference r' ∧ IsLiteral l a ∧ IsLiteral h b ∧
    s = Literal.compare r .ge l ++ " AND " ++ Literal.compare r' .le h

theorem whole?_eq_some_iff {rest : List Char} : whole? (a, rest) = some b ↔ rest = [] ∧ a = b := by
  cases rest <;> simp [whole?]

theorem eq_of_takeComparison? {cs rest : List Char} (h : takeComparison? cs = some (op, rest)) :
    cs = op.symbol.toList ++ rest := by
  unfold takeComparison? at h
  split at h <;> cases h <;> rfl

theorem comparison?_eq_some_iff (hreads : ReadsLiterals literal IsLiteral) :
    comparison? literal s = some (op, a) ↔ IsComparison IsLiteral s op a := by
  constructor
  · intro h
    simp only [comparison?, Option.bind_eq_bind, Option.bind_eq_some_iff, Prod.exists,
      dropColumnRef?_eq_some_iff, dropText?_eq_some_iff, whole?_eq_some_iff, Prod.mk.injEq] at h
    obtain ⟨_, ⟨r, hr, hs⟩, _, rfl, op, _, hop, _, rfl, a, _, hliteral, rfl, rfl, rfl⟩ := h
    obtain ⟨l, hl, hrest⟩ := hreads.sound hliteral
    rw [eq_of_takeComparison? hop, hrest] at hs
    refine ⟨r, l, hr, hl, String.toList_injective ?_⟩
    rw [hs, toList_compare]
    simp
  · rintro ⟨r, l, hr, hl, rfl⟩
    rw [comparison?_of_toList hr op (toList_compare ..), (hreads.complete hl).text_eq]
    rfl

theorem range?_eq_some_iff (hreads : ReadsLiterals literal IsLiteral) :
    range? literal s = some (a, b) ↔ IsRange IsLiteral s a b := by
  have htext (r r' l h : String) :
      (Literal.compare r .ge l ++ " AND " ++ Literal.compare r' .le h).toList =
        r.toList ++ (" >= ".toList ++ (l.toList ++ (" AND ".toList ++ (r'.toList ++
          (" <= ".toList ++ h.toList))))) := by
    simp [Literal.compare, Comparison.symbol]
  constructor
  · intro h
    simp only [range?, Option.bind_eq_bind, Option.bind_eq_some_iff, Prod.exists,
      dropColumnRef?_eq_some_iff, dropText?_eq_some_iff, whole?_eq_some_iff, Prod.mk.injEq] at h
    obtain ⟨_, ⟨r, hr, hs⟩, _, rfl, low, _, hlow, _, rfl, _, ⟨r', hr', rfl⟩, _, rfl, high, _, hhigh,
      rfl, rfl, rfl⟩ := h
    obtain ⟨l, hl, rfl⟩ := hreads.sound hlow
    obtain ⟨h, hh, rfl⟩ := hreads.sound hhigh
    refine ⟨r, r', l, h, hr, hr', hl, hh, String.toList_injective ?_⟩
    rw [hs, htext]
    simp
  · rintro ⟨r, r', l, h, hr, hr', hl, hh, rfl⟩
    simp only [range?, htext, dropColumnRef?_reference hr, dropColumnRef?_reference hr',
      dropText?_append, hreads.complete hl _ (ends_and _), (hreads.complete hh).text_eq,
      Option.bind_eq_bind, Option.bind_some, whole?]

section Restored

variable {β : Type} {between : Bool} {literal : List Char → Option (Option β × List Char)}
  {IsLiteral : String → Option β → Prop} {input : Input}

/-- What is restored from a range, if ranges are offered and both literals stand for something. -/
theorem restoredRange_eq_some_iff (hreads : ReadsLiterals literal IsLiteral)
    (restored : β → β → Input) :
    (do
      let (low, high) ← if between then range? literal s else none
      return restored (← low) (← high)) = some input ↔
    between ∧ ∃ low high, IsRange IsLiteral s (some low) (some high) ∧
      input = restored low high := by
  cases between with
  | false => simp
  | true =>
    simp only [if_true, Option.bind_eq_bind, Option.pure_def, Option.bind_eq_some_iff, Prod.exists,
      range?_eq_some_iff hreads, Option.some.injEq, true_and]
    constructor
    · rintro ⟨_, _, h, low, rfl, high, rfl, rfl⟩
      exact ⟨low, high, h, rfl⟩
    · rintro ⟨low, high, h, rfl⟩
      exact ⟨_, _, h, low, rfl, high, rfl, rfl⟩

theorem restoredComparison_eq_some_iff (hreads : ReadsLiterals literal IsLiteral)
    (restored : Comparison → β → Input) :
    (do
      let (op, a) ← comparison? literal s
      return restored op (← a)) = some input ↔
    ∃ op a, IsComparison IsLiteral s op (some a) ∧ input = restored op a := by
  simp only [Option.bind_eq_bind, Option.pure_def, Option.bind_eq_some_iff, Prod.exists,
    comparison?_eq_some_iff hreads, Option.some.injEq]
  constructor
  · rintro ⟨op, _, h, a, rfl, rfl⟩
    exact ⟨op, a, h, rfl⟩
  · rintro ⟨op, a, h, rfl⟩
    exact ⟨op, _, h, a, rfl, rfl⟩

end Restored

/-- A range goes on where a comparison ends, whatever its literals stand for. -/
theorem IsRange.comparison?_eq_none (hreads : ReadsLiterals literal IsLiteral)
    (h : IsRange IsLiteral s a b) : comparison? literal s = none := by
  obtain ⟨r, r', l, high, hr, -, hl, -, rfl⟩ := h
  have htext : (Literal.compare r .ge l ++ " AND " ++ Literal.compare r' .le high).toList =
      r.toList ++ ' ' :: (Comparison.ge.symbol.toList ++ ' ' :: (l.toList ++
        (" AND ".toList ++ (Literal.compare r' .le high).toList))) := by
    simp [Literal.compare]
  rw [comparison?_of_toList hr .ge htext, hreads.complete hl _ (ends_and _)]
  rfl

theorem IsComparison.range?_eq_none (hreads : ReadsLiterals literal IsLiteral)
    (h : IsComparison IsLiteral s op a) : range? literal s = none := by
  have hcomparison := (comparison?_eq_some_iff hreads).mpr h
  cases hrange : range? literal s with
  | none => rfl
  | some bounds =>
    rw [((range?_eq_some_iff hreads).mp hrange).comparison?_eq_none hreads] at hcomparison
    cases hcomparison

end Forms

end Form

namespace NumericFilter

open Form

variable {between : Bool} {s : String} {input : Input}

/-- What a predicate asks for: an operator and the texts of its operands. A bound for which a blank
one stands is blank. -/
inductive Asks (s : String) : NumericOperator → String → String → Prop
  | range {low high : Decimal} (h : IsRange IsNumber s (some low) (some high)) :
    Asks s .between (boundText low .least) (boundText high .greatest)
  | wildcard {r t : String} (hr : IsReference r)
    (hs : s = asText r ++ " LIKE " ++ quote (t ++ "*")) : Asks s .wildcard t ""
  | comparison {op : Comparison} {d : Decimal} (h : IsComparison IsNumber s op (some d)) :
    Asks s (.compare op) d.text ""

theorem restoreRange?_eq_some_iff : restoreRange? between s = some input ↔ between ∧
    ∃ low high, IsRange IsNumber s (some low) (some high) ∧
      input = ofParts between .between (boundText low .least) (boundText high .greatest) :=
  restoredRange_eq_some_iff readsLiterals_number _

theorem restoreWildcard?_eq_some_iff : restoreWildcard? between s = some input ↔
    ∃ r t, IsReference r ∧ s = asText r ++ " LIKE " ++ quote (t ++ "*") ∧
      input = ofParts between .wildcard t "" := by
  have hstar : ∀ c ∈ "*".toList, c ≠ '\'' := by simp
  have hform (r t : String) : s.toList = "Convert(".toList ++ (r.toList ++
      (", 'System.String')".toList ++
        (" LIKE '".toList ++ (doubleQuotes (t ++ "*").toList ++ ['\'']))))
      ↔ s = asText r ++ " LIKE " ++ quote (t ++ "*") := by
    rw [← String.toList_inj]
    simp [asText, toList_quote]
  simp only [restoreWildcard?, dropAsText?, Option.bind_eq_bind, Option.pure_def,
    Option.bind_eq_some_iff, dropColumnRef?_eq_some_iff, dropText?_eq_some_iff,
    quotedUpTo?_eq_some_iff hstar, Option.some.injEq]
  constructor
  · rintro ⟨_, ⟨_, hs, _, ⟨r, hr, rfl⟩, rfl⟩, _, rfl, t, rfl, rfl⟩
    exact ⟨r, t, hr, (hform r t).mp hs, rfl⟩
  · rintro ⟨r, t, hr, hs, rfl⟩
    exact ⟨_, ⟨_, (hform r t).mpr hs, _, ⟨r, hr, rfl⟩, rfl⟩, _, rfl, t, rfl, rfl⟩

theorem restoreComparison?_eq_some_iff : restoreComparison? between s = some input ↔
    ∃ op d, IsComparison IsNumber s op (some d) ∧
      input = ofParts between (.compare op) d.text "" :=
  restoredComparison_eq_some_iff readsLiterals_number
    fun op d => ofParts between (.compare op) d.text ""

/-- The input that is restored is the one that the predicate asks for, unless that is a range and
ranges are not offered. -/
theorem restore?_eq_some_iff : restore? between s = some input ↔ ∃ op first second,
    Asks s op first second ∧ (op = .between → between) ∧
      input = .operands op.label first second := by
  constructor
  · intro h
    simp only [restore?, Option.orElse_eq_orElse, Option.orElse_eq_or, Option.or_eq_some_iff] at h
    rcases h with h | ⟨-, h | ⟨-, h⟩⟩
    · obtain ⟨hb, low, high, hrange, rfl⟩ := restoreRange?_eq_some_iff.mp h
      exact ⟨_, _, _, .range hrange, fun _ => hb, ofParts_eq between _ (fun _ => hb) _ _⟩
    · obtain ⟨r, t, hr, hs, rfl⟩ := restoreWildcard?_eq_some_iff.mp h
      exact ⟨_, _, _, .wildcard hr hs, (by simp), ofParts_eq between .wildcard (by simp) _ _⟩
    · obtain ⟨op, d, hcomparison, rfl⟩ := restoreComparison?_eq_some_iff.mp h
      exact ⟨_, _, _, .comparison hcomparison, (by simp),
        ofParts_eq between (.compare op) (by simp) _ _⟩
  · rintro ⟨op, first, second, h, hb, rfl⟩
    rw [← ofParts_eq between op hb]
    cases h with
    | range h =>
      have hrange := restoreRange?_eq_some_iff.mpr ⟨hb rfl, _, _, h, rfl⟩
      rw [restore?, hrange]
      rfl
    -- Neither of the other forms is a range, so the range restores nothing before them.
    | wildcard hr hs =>
      have hwildcard : restoreWildcard? between s = some (ofParts between .wildcard first "") :=
        restoreWildcard?_eq_some_iff.mpr ⟨_, _, hr, hs, rfl⟩
      have hrange : restoreRange? between s = none := by
        rw [hs, String.append_assoc, restoreRange?, range?_asText]
        simp
      rw [restore?, hrange, hwildcard]
      rfl
    | @comparison op d h =>
      have hcomparison : restoreComparison? between s =
          some (ofParts between (.compare op) d.text "") :=
        restoreComparison?_eq_some_iff.mpr ⟨_, _, h, rfl⟩
      have hrange : restoreRange? between s = none := by
        rw [restoreRange?, h.range?_eq_none readsLiterals_number]
        simp
      obtain ⟨r, l, hr, -, rfl⟩ := h
      rw [restore?, hrange, restoreWildcard?_reference hr between (toList_compare ..), hcomparison]
      rfl

/-- Nothing is restored from a range where ranges are not offered, whether its bounds can be read or
not. -/
theorem restore?_eq_none_of_isRange {low high : Option Decimal} (h : IsRange IsNumber s low high) :
    restore? false s = none := by
  have hrange : restoreRange? false s = none := rfl
  have hcomparison : restoreComparison? false s = none := by
    rw [restoreComparison?, h.comparison?_eq_none readsLiterals_number]
    rfl
  obtain ⟨r, r', l, high, hr, -, -, -, rfl⟩ := h
  have hwildcard : restoreWildcard? false
      (Literal.compare r .ge l ++ " AND " ++ Literal.compare r' .le high) = none :=
    restoreWildcard?_reference hr false (by rw [Literal.compare]; simp; rfl)
  rw [restore?, hrange, hwildcard, hcomparison]
  rfl

end NumericFilter

namespace DateFilter

open Form

variable {between : Bool} {s : String} {input : Input}

inductive Asks (s : String) : DateOperator → String → String → Prop
  | range {low high : Date} (h : IsRange IsDateLiteral s (some low) (some high)) :
    Asks s .between (boundText low earliest) (boundText high latest)
  | comparison {op : Comparison} {d : Date} (h : IsComparison IsDateLiteral s op (some d)) :
    Asks s (.compare op) d.text ""

theorem restoreRange?_eq_some_iff : restoreRange? between s = some input ↔ between ∧
    ∃ low high, IsRange IsDateLiteral s (some low) (some high) ∧
      input = ofParts between (some .between) (boundText low earliest) (boundText high latest) :=
  restoredRange_eq_some_iff readsLiterals_date _

theorem restoreComparison?_eq_some_iff : restoreComparison? between s = some input ↔
    ∃ op d, IsComparison IsDateLiteral s op (some d) ∧
      input = ofParts between (some (.compare op)) d.text "" :=
  restoredComparison_eq_some_iff readsLiterals_date
    fun op d => ofParts between (some (.compare op)) d.text ""

/-- The input that is restored is the one that the predicate asks for, unless that is a range and
ranges are not offered. -/
theorem restore?_eq_some_iff : restore? between s = some input ↔ ∃ op first second,
    Asks s op first second ∧ (op = .between → between) ∧
      input = .operands op.label first second := by
  constructor
  · intro h
    simp only [restore?, Option.orElse_eq_orElse, Option.orElse_eq_or, Option.or_eq_some_iff] at h
    rcases h with h | ⟨-, h⟩
    · obtain ⟨hb, low, high, hrange, rfl⟩ := restoreRange?_eq_some_iff.mp h
      exact ⟨_, _, _, .range hrange, fun _ => hb, ofParts_eq between _ (fun _ => hb) _ _⟩
    · obtain ⟨op, d, hcomparison, rfl⟩ := restoreComparison?_eq_some_iff.mp h
      exact ⟨_, _, _, .comparison hcomparison, (by simp),
        ofParts_eq between (.compare op) (by simp) _ _⟩
  · rintro ⟨op, first, second, h, hb, rfl⟩
    rw [← ofParts_eq between op hb]
    cases h with
    | range h =>
      have hrange := restoreRange?_eq_some_iff.mpr ⟨hb rfl, _, _, h, rfl⟩
      rw [restore?, hrange]
      rfl
    | @comparison op d h =>
      have hcomparison : restoreComparison? between s =
          some (ofParts between (some (.compare op)) d.text "") :=
        restoreComparison?_eq_some_iff.mpr ⟨_, _, h, rfl⟩
      have hrange : restoreRange? between s = none := by
        rw [restoreRange?, h.range?_eq_none readsLiterals_date]
        simp
      rw [restore?, hrange, hcomparison]
      rfl

/-- Nothing is restored from a range where ranges are not offered, whether its bounds are dates or
not. -/
theorem restore?_eq_none_of_isRange {low high : Option Date} (h : IsRange IsDateLiteral s low high) :
    restore? false s = none := by
  have hrange : restoreRange? false s = none := rfl
  rw [restore?, hrange, restoreComparison?, h.comparison?_eq_none readsLiterals_date]
  rfl

end DateFilter
end TableFilter
