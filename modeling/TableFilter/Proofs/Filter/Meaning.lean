import TableFilter.Proofs.Filter.Operands
import TableFilter.Proofs.Predicate.Comparing
import TableFilter.Proofs.View.Rows

/-!
# What operands mean

The predicate of a filter of numbers is true of the cells whose number meets the criteria, where a
blank bound excludes no number. The predicate of a filter of dates is true of the cells whose date
meets the criteria, where a blank bound excludes only what lies before the year 1 or after the year
9999. Operands that are needed but cannot be read lead to a comparison with a truth value, which is
meant to be true of no row. It is true of the cells that are false, as a column of truth values may
have them, and of those whose text is read as false.
-/

namespace TableFilter

open Text Literal

variable {name : String} {input : Input}

namespace NumericFilter

/-- The number stands to the first operand as the operator asks, or lies within the bounds that are
given. The text that a number shall begin with asks nothing of its value. -/
def Admits (input : Input) (x : Rat) : Prop :=
  match operator input with
  | .wildcard => True
  | .compare op => ∃ d, Decimal.read? (first input) = some d ∧ op.Relates x d.value
  | .between =>
    (isBlankText (first input) ∨ ∃ d, Decimal.read? (first input) = some d ∧ d.value ≤ x) ∧
      (isBlankText (second input) ∨ ∃ d, Decimal.read? (second input) = some d ∧ x ≤ d.value)

/-- What holds of the number that stands for a blank bound is no condition there. -/
theorem of_bound?_iff {s : String} {blank d : Decimal} {P : Decimal → Prop} (hblank : P blank)
    (h : bound? s blank = some d) :
    P d ↔ isBlankText s ∨ ∃ d, Decimal.read? s = some d ∧ P d := by
  unfold bound? at h
  by_cases hs : isBlankText s
  · rw [if_pos hs] at h
    rw [← Option.some.inj h]
    exact iff_of_true hblank (.inl hs)
  · rw [if_neg hs] at h
    simp [hs, h]

/-- What is written of operands that can be read is true of the cells whose number meets the
criteria. -/
theorem exists_reads_admits (hn : name ≠ "") (h : isActive input)
    (hop : operator input ≠ .wildcard) (hread : IsReadable input) :
    ∃ e, Reads .disjunction (fragment input (columnRef name)) e ∧
      ∀ caseSensitive row, e.matchesRow caseSensitive row ↔
        ∃ x, (row name).asNumber? = some x ∧ Admits input x.value := by
  unfold IsReadable at hread
  unfold Admits
  cases hoperator : operator input with
  | wildcard => exact absurd hoperator hop
  | compare op =>
    rw [hoperator] at hread
    obtain ⟨d, hd⟩ := hread
    rw [fragment_of_criterion _ h (criterion?_compare _ hoperator hd)]
    have hr := (Reads.columnRef hn).compare op (Reads.number d)
    refine ⟨_, hr.disjunction_of_comparison, fun caseSensitive row => ?_⟩
    -- A zero may lose its sign on the way into the literal, but not its value.
    rw [Expr.matchesRow_compare_number, d.value_restored]
    simp [hd]
  | between =>
    rw [hoperator] at hread
    obtain ⟨⟨low, hlow⟩, high, hhigh⟩ := hread
    rw [fragment_of_criterion _ h (criterion?_between _ hoperator hlow hhigh)]
    have hr := Reads.range hn (Reads.number low) (Reads.number high)
    refine ⟨_, hr.disjunction_of_conjunction, fun caseSensitive row => ?_⟩
    rw [Expr.matchesRow_and, Expr.matchesRow_compare_number, Expr.matchesRow_compare_number,
      low.value_restored, high.value_restored]
    cases hcell : (row name).asNumber? with
    | none => simp
    | some x =>
      -- A blank bound is written as an extreme, which no number goes beyond.
      have hl := of_bound?_iff (P := fun d => d.value ≤ x.value) x.least_le_value hlow
      have hh := of_bound?_iff (P := fun d => x.value ≤ d.value) x.value_le_greatest hhigh
      simp [Comparison.Relates, hl, hh]

end NumericFilter

namespace DateFilter

variable {formats : List String} {d : Date}

def Admits (formats : List String) (input : Input) (d : Date) : Prop :=
  match operator? input with
  | none => True
  | some (.compare op) => ∃ e, Date.read? formats (first input) = some e ∧ op.Relates d e
  | some .between =>
    (isBlankText (first input) ∨ ∃ low, Date.read? formats (first input) = some low ∧ low ≤ d) ∧
      (isBlankText (second input) ∨ ∃ high, Date.read? formats (second input) = some high ∧ d ≤ high)

/-- The date does not lie beyond the day that stands for a blank bound of a range. -/
def InReach (input : Input) (d : Date) : Prop :=
  operator? input = some .between →
    (isBlankText (first input) → earliest ≤ d) ∧ (isBlankText (second input) → d ≤ latest)

/-- All dates of the years 1 to 9999 are in reach, whichever bounds are blank. -/
theorem inReach_of_le (input : Input) (h : earliest ≤ d) (h' : d ≤ latest) : InReach input d :=
  fun _ => ⟨fun _ => h, fun _ => h'⟩

/-- What holds of a bound holds of the date that is read, or of the one that stands for a blank. -/
theorem of_bound?_iff {s : String} {blank : Date} {P : Date → Prop}
    (h : bound? formats s blank = some d) :
    P d ↔ (isBlankText s ∨ ∃ d, Date.read? formats s = some d ∧ P d) ∧
      (isBlankText s → P blank) := by
  unfold bound? at h
  by_cases hs : isBlankText s
  · rw [if_pos hs] at h
    simp [hs, Option.some.inj h]
  · rw [if_neg hs] at h
    simp [hs, h]

/-- What is written of operands that can be read is true of the cells whose date meets the criteria
and is in reach. -/
theorem exists_reads_admits (hn : name ≠ "") (h : isActive input) (hread : IsReadable formats input) :
    ∃ e, Reads .disjunction (fragment formats input (columnRef name)) e ∧
      ∀ caseSensitive row, e.matchesRow caseSensitive row ↔
        ∃ d, (row name).asDate? = some d ∧ Admits formats input d ∧ InReach input d := by
  unfold IsReadable at hread
  unfold Admits InReach
  match hop : operator? input with
  | none =>
    rw [isActive, hop] at h
    cases h
  | some (.compare op) =>
    rw [hop] at hread
    obtain ⟨d, hd⟩ := hread
    rw [fragment_of_criterion _ h (criterion?_compare _ hop hd)]
    have hr := (Reads.columnRef hn).compare op (Reads.date d)
    refine ⟨_, hr.disjunction_of_comparison, fun caseSensitive row => ?_⟩
    rw [Expr.matchesRow_compare_date]
    simp [hd]
  | some .between =>
    rw [hop] at hread
    obtain ⟨⟨low, hlow⟩, high, hhigh⟩ := hread
    rw [fragment_of_criterion _ h (criterion?_between _ hop hlow hhigh)]
    have hr := Reads.range hn (Reads.date low) (Reads.date high)
    refine ⟨_, hr.disjunction_of_conjunction, fun caseSensitive row => ?_⟩
    rw [Expr.matchesRow_and, Expr.matchesRow_compare_date, Expr.matchesRow_compare_date]
    cases hcell : (row name).asDate? with
    | none => simp
    | some d =>
      have hl := of_bound?_iff (P := (· ≤ d)) hlow
      have hh := of_bound?_iff (P := (d ≤ ·)) hhigh
      simp only [Option.some.injEq, exists_eq_left', Comparison.Relates, hl, hh, true_imp_iff]
      exact and_and_and_comm

end DateFilter

def Strategy.IsReadable (input : Input) : Strategy → Prop
  | .numeric _ => NumericFilter.IsReadable input
  | .date _ formats => DateFilter.IsReadable formats input
  | _ => True

theorem Strategy.fragment_of_not_isReadable {s : Strategy} (h : s.isActive input)
    (hread : ¬ s.IsReadable input) (ref : String) : s.fragment input ref = never ref := by
  cases s with
  | numeric => exact NumericFilter.fragment_of_not_isReadable h hread
  | date => exact DateFilter.fragment_of_not_isReadable h hread
  | _ => exact absurd trivial hread

namespace Filter

variable {f : Filter} {between : Bool}

/-- The predicate of an active filter of numbers can be read, and it is true of a row if and only if
the number of the cell meets the criteria. -/
theorem numeric_fragment_admits (hn : name ≠ "") (hf : f.strategy = .numeric between)
    (h : f.isActive) (hop : NumericFilter.operator f.input ≠ .wildcard)
    (hread : NumericFilter.IsReadable f.input) :
    ∃ e, Expr.ofText (f.fragment (columnRef name)) = .ok e ∧ ∀ caseSensitive row,
      (e.matchesRow caseSensitive row ↔
        ∃ x, (row name = .number x ∨ ∃ s, row name = .text s ∧ Decimal.read? s = some x) ∧
          NumericFilter.Admits f.input x.value) ∧
      (row name = .null ∨ (∃ b, row name = .bool b) ∨ (∃ d, row name = .date d) →
        ¬ e.matchesRow caseSensitive row) := by
  obtain ⟨strategy, widget⟩ := f
  subst hf
  obtain ⟨e, hreads, hadmits⟩ := NumericFilter.exists_reads_admits hn h hop hread
  refine ⟨e, Expr.ofText_of_reads hreads, fun caseSensitive row => ?_⟩
  rw [hadmits]
  simp only [Value.asNumber?_eq_some, true_and]
  rintro (hcell | ⟨b, hcell⟩ | ⟨d, hcell⟩) <;> simp [hcell]

/-- Where only the first bound is given, it is the only condition. -/
theorem numeric_fragment_admits_from :
    ∃ e, Expr.ofText (fromFilter.fragment (columnRef "a]b")) = .ok e ∧ ∀ caseSensitive row,
      e.matchesRow caseSensitive row ↔ ∃ x : Decimal, (row "a]b" = .number x ∨
        ∃ s, row "a]b" = .text s ∧ Decimal.read? s = some x) ∧ 3 / 2 ≤ x.value := by
  let d : Decimal := ⟨false, 150, 2, by decide, by decide⟩
  have hlow : Decimal.read? " +1.50" = some d := rfl
  have hgiven : ¬ isBlankText " +1.50" := by decide
  have hblank : isBlankText "" := rfl
  have hvalue : d.value = 3 / 2 := by
    rw [Decimal.value, div_eq_div_iff (Decimal.cast_pow10_pos _).ne' two_ne_zero]
    exact_mod_cast rfl
  have hadmits (x : Rat) : NumericFilter.Admits fromFilter.input x ↔ 3 / 2 ≤ x := by
    change (isBlankText " +1.50" ∨ ∃ d, Decimal.read? " +1.50" = some d ∧ d.value ≤ x) ∧
      (isBlankText "" ∨ _) ↔ _
    simp [hgiven, hlow, hblank, hvalue]
  have hn : "a]b" ≠ "" := by decide
  obtain ⟨e, he, hmeans⟩ := numeric_fragment_admits (f := fromFilter) hn rfl (by decide)
    (by decide) ⟨⟨_, hlow⟩, _, rfl⟩
  refine ⟨e, he, fun caseSensitive row => ?_⟩
  simpa only [hadmits] using (hmeans caseSensitive row).1

/-- The predicate of an active filter of dates can be read, and it is true of a row if and only if
the date of the cell meets the criteria. A blank bound of a range restricts no date of the years 1
to 9999. -/
theorem date_fragment_admits {formats : List String} (hn : name ≠ "")
    (hf : f.strategy = .date between formats) (h : f.isActive)
    (hread : DateFilter.IsReadable formats f.input) :
    (∃ e, Expr.ofText (f.fragment (columnRef name)) = .ok e ∧ ∀ caseSensitive row,
      (e.matchesRow caseSensitive row ↔
        ∃ d, (row name = .date d ∨ ∃ s, row name = .text s ∧ Date.read? [] s = some d) ∧
          DateFilter.Admits formats f.input d ∧ DateFilter.InReach f.input d) ∧
      (row name = .null ∨ (∃ b, row name = .bool b) ∨ (∃ x, row name = .number x) →
        ¬ e.matchesRow caseSensitive row)) ∧
    ∀ d, DateFilter.earliest ≤ d → d ≤ DateFilter.latest → DateFilter.InReach f.input d := by
  obtain ⟨strategy, widget⟩ := f
  subst hf
  obtain ⟨e, hreads, hadmits⟩ := DateFilter.exists_reads_admits hn h hread
  refine ⟨⟨e, Expr.ofText_of_reads hreads, fun caseSensitive row => ?_⟩,
    fun _ => DateFilter.inReach_of_le _⟩
  rw [hadmits]
  simp only [Value.asDate?_eq_some, true_and]
  rintro (hcell | ⟨b, hcell⟩ | ⟨x, hcell⟩) <;> simp [hcell]

def sinceFilter : Filter :=
  ⟨.date true ["%d.%m.%Y"], { input := .operands "<x<" "15.03.-0044" " " }⟩

/-- Where only the first bound is given, the dates after the year 9999 are left out as well. -/
theorem date_fragment_admits_since :
    ∃ e, Expr.ofText (sinceFilter.fragment (columnRef "a]b")) = .ok e ∧ ∀ caseSensitive row,
      e.matchesRow caseSensitive row ↔ ∃ d : Date, (row "a]b" = .date d ∨
        ∃ s, row "a]b" = .text s ∧ Date.read? [] s = some d) ∧
          ⟨-44, 3, 15, by decide⟩ ≤ d ∧ d ≤ ⟨9999, 12, 31, by decide⟩ := by
  let low : Date := ⟨-44, 3, 15, by decide⟩
  have hlow : Date.read? ["%d.%m.%Y"] "15.03.-0044" = some low := rfl
  have hgiven : ¬ isBlankText "15.03.-0044" := by decide
  have hblank : isBlankText " " := rfl
  have hadmits (d : Date) : DateFilter.Admits ["%d.%m.%Y"] sinceFilter.input d ↔ low ≤ d := by
    change (isBlankText "15.03.-0044" ∨
      ∃ low, Date.read? ["%d.%m.%Y"] "15.03.-0044" = some low ∧ low ≤ d) ∧
        (isBlankText " " ∨ _) ↔ _
    simp [hgiven, hlow, hblank]
  have hreach (d : Date) : DateFilter.InReach sinceFilter.input d ↔ d ≤ DateFilter.latest := by
    change (some DateOperator.between = some .between →
      (isBlankText "15.03.-0044" → _) ∧ (isBlankText " " → _)) ↔ _
    simp [hgiven, hblank]
  have hn : "a]b" ≠ "" := by decide
  obtain ⟨⟨e, he, hmeans⟩, -⟩ := date_fragment_admits (f := sinceFilter) hn rfl (by decide)
    ⟨⟨_, hlow⟩, _, rfl⟩
  refine ⟨e, he, fun caseSensitive row => ?_⟩
  have hrow := (hmeans caseSensitive row).1
  simp only [hadmits, hreach] at hrow
  exact hrow

/-- The predicate of an active filter whose operands cannot be read is true of the rows whose cell
is false or is read as false, so that a table shows these. It shows no row if and only if it has no
such cell in the column. -/
theorem unreadable_operands_show_false (hn : name ≠ "") (h : f.isActive)
    (hread : ¬ f.strategy.IsReadable f.input) :
    (∃ e, Expr.ofText (f.fragment (columnRef name)) = .ok e ∧ ∀ caseSensitive row,
      e.matchesRow caseSensitive row ↔ (row name).asTruth? = some false) ∧
    ∀ v : View, v.Knows name → ∃ w, v.setPredicate (f.fragment (columnRef name)) = .ok w ∧
      (∀ i, w.Shows i ↔ i < v.height ∧ (v.row i name).asTruth? = some false) ∧
      (w.rowCount = 0 ↔ ∀ i < v.height, (v.row i name).asTruth? ≠ some false) := by
  have hr := (Reads.never hn).disjunction_of_comparison
  rw [fragment, Strategy.fragment_of_not_isReadable h hread]
  refine ⟨⟨_, Expr.ofText_of_reads hr, fun _ _ => Expr.matchesRow_equal_bool⟩, fun v hknown => ?_⟩
  obtain ⟨w, hw, hshows⟩ := View.exists_shows_of_reads hr (by simpa [Expr.mentions] using hknown)
  simp only [Expr.matchesRow_equal_bool] at hshows
  refine ⟨w, hw, hshows, ?_⟩
  simp only [View.rowCount_eq_zero, hshows, not_and]

def wordFilter : Filter := ⟨.numeric false, { input := .operands "=" "abc" "" }⟩

theorem not_isReadable_wordFilter : ¬ wordFilter.strategy.IsReadable wordFilter.input := by
  rintro ⟨d, hd⟩
  cases hd

def columnView (name : String) (cells : List Value) : View :=
  .memory { table := ⟨"people"⟩, columns := [.ofName name .boolean], rows := cells.map ([·]) }

/-- The second row is false and the fourth one is read as false. -/
theorem unreadable_operands_show_false_adults : ∃ w,
    (columnView "adult" [.bool true, .bool false, .null, .text " FALSE"]).setPredicate
      (wordFilter.fragment (columnRef "adult")) = .ok w ∧ ∀ i, w.Shows i ↔ i = 1 ∨ i = 3 := by
  let v := columnView "adult" [.bool true, .bool false, .null, .text " FALSE"]
  have hknown : v.Knows "adult" := ⟨_, List.mem_singleton_self _, rfl⟩
  obtain ⟨w, hw, hshows, -⟩ := (unreadable_operands_show_false (f := wordFilter) (by decide)
    (by decide) not_isReadable_wordFilter).2 v hknown
  refine ⟨w, hw, fun i => (hshows i).trans ?_⟩
  match i with
  | 0 | 1 | 2 | 3 => decide
  | i + 4 =>
    have hheight : v.height = 4 := rfl
    omega

/-- A text that is no number is meant to reject every row, but the row that is false is shown. -/
theorem unreadable_number_shows_a_row : wordFilter.isActive ∧
    ¬ wordFilter.strategy.IsReadable wordFilter.input ∧ ∃ w,
      (columnView "adult" [.bool true, .bool false, .null]).setPredicate
        (wordFilter.fragment (columnRef "adult")) = .ok w ∧ w.Shows 1 ∧ w.rowCount ≠ 0 := by
  let v := columnView "adult" [.bool true, .bool false, .null]
  have hn : "adult" ≠ "" := by decide
  have hknown : v.Knows "adult" := ⟨_, List.mem_singleton_self _, rfl⟩
  have hfragment : wordFilter.fragment (columnRef "adult") = never (columnRef "adult") := by decide
  obtain ⟨w, hw, hshows⟩ := View.exists_shows_of_reads (v := v)
    (Reads.never hn).disjunction_of_comparison (by simpa [Expr.mentions] using hknown)
  have hshown : w.Shows 1 := (hshows 1).mpr ⟨by decide, by decide⟩
  refine ⟨by decide, not_isReadable_wordFilter, w, hfragment ▸ hw, hshown, fun hzero => ?_⟩
  exact View.rowCount_eq_zero.mp hzero 1 hshown

end Filter

end TableFilter
