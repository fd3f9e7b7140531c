import TableFilter.Text.Regex

/-!
# What regular expressions match

Items match a run between what is before it and what is after it. An anchor matches nothing, where
nothing is before it or after it. A regular expression is found in a text if some run of it is
matched, and this is what the marks say of the suffixes at which such a run begins.
-/

namespace TableFilter.Regex

variable {flags : Flags} {items : List Item} {before run rest after text : List Char} {c : Char}

def Item.Fits (flags : Flags) (before run after : List Char) : Item → Prop
  | .start => before = [] ∧ run = []
  | .finish => after = [] ∧ run = []
  | .one s => ∃ c, run = [c] ∧ s.admits flags c
  | .many s => ∀ c ∈ run, s.admits flags c

inductive Matches (flags : Flags) : List Item → List Char → List Char → List Char → Prop
  | nil {before after : List Char} : Matches flags [] before [] after
  | cons {item : Item} {items : List Item} {before run rest after : List Char} :
      item.Fits flags before run (rest ++ after) →
      Matches flags items (before ++ run) rest after →
      Matches flags (item :: items) before (run ++ rest) after

def Finds (r : Regex) (text : List Char) : Prop :=
  ∃ before run after, text = before ++ run ++ after ∧ Matches r.flags r.items before run after

def MatchesFront (flags : Flags) (items : List Item) (before text : List Char) : Prop :=
  ∃ run after, text = run ++ after ∧ Matches flags items before run after

theorem finds_iff {r : Regex} : r.Finds text ↔
    ∃ before behind, text = before ++ behind ∧ MatchesFront r.flags r.items before behind := by
  constructor
  · rintro ⟨before, run, after, rfl, h⟩
    exact ⟨before, run ++ after, List.append_assoc .., run, after, rfl, h⟩
  · rintro ⟨before, _, rfl, run, after, rfl, h⟩
    exact ⟨before, run, after, (List.append_assoc ..).symm, h⟩

theorem matches_cons_iff {item : Item} : Matches flags (item :: items) before run after ↔
    ∃ front rest, run = front ++ rest ∧ item.Fits flags before front (rest ++ after) ∧
      Matches flags items (before ++ front) rest after := by
  constructor
  · intro h
    cases h with
    | cons hitem hitems => exact ⟨_, _, rfl, hitem, hitems⟩
  · rintro ⟨front, rest, rfl, hitem, hitems⟩
    exact .cons hitem hitems

namespace MatchesFront

theorem nil : MatchesFront flags [] before text := ⟨[], text, rfl, .nil⟩

theorem cons_iff {item : Item} : MatchesFront flags (item :: items) before text ↔
    ∃ front behind, text = front ++ behind ∧ item.Fits flags before front behind ∧
      MatchesFront flags items (before ++ front) behind := by
  constructor
  · rintro ⟨run, after, rfl, h⟩
    obtain ⟨front, rest, rfl, hitem, hitems⟩ := matches_cons_iff.mp h
    exact ⟨front, rest ++ after, List.append_assoc .., hitem, rest, after, rfl, hitems⟩
  · rintro ⟨front, _, rfl, hitem, rest, after, rfl, hitems⟩
    exact ⟨front ++ rest, after, (List.append_assoc ..).symm, .cons hitem hitems⟩

theorem start_iff : MatchesFront flags (.start :: items) before text ↔
    before = [] ∧ MatchesFront flags items before text := by
  rw [cons_iff]
  constructor
  · rintro ⟨_, _, rfl, ⟨rfl, rfl⟩, h⟩
    exact ⟨rfl, h⟩
  · rintro ⟨rfl, h⟩
    exact ⟨[], text, rfl, ⟨rfl, rfl⟩, h⟩

theorem finish_iff : MatchesFront flags (.finish :: items) before text ↔
    text = [] ∧ MatchesFront flags items before text := by
  rw [cons_iff]
  constructor
  · rintro ⟨_, _, rfl, ⟨rfl, rfl⟩, h⟩
    exact ⟨rfl, by simpa using h⟩
  · rintro ⟨rfl, h⟩
    exact ⟨[], [], rfl, ⟨rfl, rfl⟩, by simpa using h⟩

theorem one_cons_iff {s : Single} : MatchesFront flags (.one s :: items) before (c :: text) ↔
    s.admits flags c ∧ MatchesFront flags items (before ++ [c]) text := by
  rw [cons_iff]
  constructor
  · rintro ⟨_, rest, htext, ⟨d, rfl, hd⟩, h⟩
    obtain ⟨rfl, rfl⟩ := List.cons.inj htext
    exact ⟨hd, h⟩
  · rintro ⟨hc, h⟩
    exact ⟨[c], text, rfl, ⟨c, rfl, hc⟩, h⟩

theorem not_one_nil {s : Single} : ¬ MatchesFront flags (.one s :: items) before [] := by
  rw [cons_iff]
  rintro ⟨_, rest, htext, ⟨d, rfl, -⟩, -⟩
  cases htext

theorem many_cons_iff {s : Single} : MatchesFront flags (.many s :: items) before (c :: text) ↔
    MatchesFront flags items before (c :: text) ∨
      s.admits flags c ∧ MatchesFront flags (.many s :: items) (before ++ [c]) text := by
  simp only [cons_iff]
  constructor
  · rintro ⟨front, behind, htext, hfront, h⟩
    cases front with
    | nil => exact .inl (by simpa [htext] using h)
    | cons d front =>
      obtain ⟨rfl, rfl⟩ := List.cons.inj htext
      obtain ⟨hc, hfront⟩ := List.forall_mem_cons.mp hfront
      exact .inr ⟨hc, front, behind, rfl, hfront, by simpa using h⟩
  · rintro (h | ⟨hc, front, behind, rfl, hfront, h⟩)
    · exact ⟨[], c :: text, rfl, by simp [Item.Fits], by simpa using h⟩
    · exact ⟨c :: front, behind, rfl, List.forall_mem_cons.mpr ⟨hc, hfront⟩, by simpa using h⟩

theorem many_nil_iff {s : Single} : MatchesFront flags (.many s :: items) before [] ↔
    MatchesFront flags items before [] := by
  rw [cons_iff]
  constructor
  · rintro ⟨front, behind, htext, -, h⟩
    obtain ⟨rfl, rfl⟩ := List.append_eq_nil_iff.mp htext.symm
    simpa using h
  · intro h
    exact ⟨[], [], rfl, by simp [Item.Fits], by simpa using h⟩

end MatchesFront

theorem length_reach (admits : Char → Bool) (text : List Char) (bs : List Bool) :
    (reach admits text bs).length = bs.length := by
  induction text generalizing bs with
  | nil => cases bs <;> rfl
  | cons c text ih => cases bs <;> simp [reach, ih]

theorem length_marks (flags : Flags) (whole : Bool) (text : List Char) (items : List Item) :
    (marks flags whole text items).length = text.length + 1 := by
  induction items with
  | nil => simp [marks]
  | cons item items ih =>
    cases item with
    | start =>
      obtain ⟨b, bs, hbs⟩ := List.exists_cons_of_length_eq_add_one ih
      simp_all [marks]
    | finish => simp [marks]
    | one s => simp [marks, ih]
    | many s => rw [marks, length_reach, ih]

theorem isEmpty_concat : (before ++ [c]).isEmpty = false := by simp

/-- The marks of a text go on as the marks of its tail, which comes behind a character. -/
theorem exists_marks_cons (flags : Flags) (whole : Bool) (c : Char) (text : List Char)
    (items : List Item) :
    ∃ b, marks flags whole (c :: text) items = b :: marks flags false text items := by
  induction items with
  | nil => exact ⟨true, rfl⟩
  | cons item items ih =>
    obtain ⟨b, hb⟩ := ih
    obtain ⟨b', bs, hbs⟩ := List.exists_cons_of_length_eq_add_one
      (length_marks flags false text items)
    cases item with
    | start => exact ⟨_, by simp [marks, hb, hbs]; rfl⟩
    | finish => exact ⟨false, by simp [marks, hb, hbs]⟩
    | one s => exact ⟨_, by simp [marks, hb, hbs]; rfl⟩
    | many s => exact ⟨_, by simp [marks, hb, reach]; rfl⟩

theorem head?_marks_one_cons (flags : Flags) (whole : Bool) (s : Single) (c : Char)
    (text : List Char) (items : List Item) :
    (marks flags whole (c :: text) (.one s :: items)).head?.getD false =
      (s.admits flags c && (marks flags false text items).head?.getD false) := by
  obtain ⟨b, hb⟩ := exists_marks_cons flags whole c text items
  obtain ⟨b', bs, hbs⟩ := List.exists_cons_of_length_eq_add_one
    (length_marks flags false text items)
  simp [marks, hb, hbs]

theorem head?_marks_many_cons (flags : Flags) (whole : Bool) (s : Single) (c : Char)
    (text : List Char) (items : List Item) :
    (marks flags whole (c :: text) (.many s :: items)).head?.getD false =
      ((marks flags whole (c :: text) items).head?.getD false ||
        s.admits flags c && (marks flags false text (.many s :: items)).head?.getD false) := by
  obtain ⟨b, hb⟩ := exists_marks_cons flags whole c text items
  simp [marks, hb, reach]

/-- The first mark says of the whole text whether the items match a run at its front. -/
theorem head?_marks (flags : Flags) (items : List Item) (before text : List Char) :
    (marks flags before.isEmpty text items).head?.getD false ↔
      MatchesFront flags items before text := by
  induction items generalizing before text with
  | nil => exact ⟨fun _ => .nil, fun _ => by cases text <;> rfl⟩
  | cons item items ih =>
    cases item with
    | start =>
      obtain ⟨b, bs, hbs⟩ := List.exists_cons_of_length_eq_add_one
        (length_marks flags before.isEmpty text items)
      rw [MatchesFront.start_iff, ← ih, marks, hbs]
      simp
    | finish =>
      rw [MatchesFront.finish_iff, ← ih]
      cases text with
      | nil =>
        obtain ⟨b, hb⟩ := List.length_eq_one_iff.mp (length_marks flags before.isEmpty [] items)
        simp [marks, hb]
      | cons c text => simp [marks]
    | one s =>
      cases text with
      | nil => simp [marks, MatchesFront.not_one_nil]
      | cons c text =>
        have hrest := ih (before ++ [c]) text
        rw [isEmpty_concat] at hrest
        rw [head?_marks_one_cons, MatchesFront.one_cons_iff, Bool.and_eq_true, hrest]
    | many s =>
      -- The run grows along the text.
      induction text generalizing before with
      | nil =>
        obtain ⟨b, hb⟩ := List.length_eq_one_iff.mp (length_marks flags before.isEmpty [] items)
        rw [MatchesFront.many_nil_iff, ← ih, marks, hb]
        rfl
      | cons c text ihtext =>
        have hrest := ihtext (before ++ [c])
        rw [isEmpty_concat] at hrest
        rw [head?_marks_many_cons, MatchesFront.many_cons_iff, Bool.or_eq_true, Bool.and_eq_true,
          ih, hrest]

theorem true_mem_marks (flags : Flags) (items : List Item) (before text : List Char) :
    true ∈ marks flags before.isEmpty text items ↔
      ∃ front behind, text = front ++ behind ∧ MatchesFront flags items (before ++ front) behind := by
  induction text generalizing before with
  | nil =>
    obtain ⟨b, hb⟩ := List.length_eq_one_iff.mp (length_marks flags before.isEmpty [] items)
    have hhead := head?_marks flags items before []
    rw [hb] at hhead ⊢
    rw [List.mem_singleton, eq_comm]
    refine hhead.trans ⟨fun h => ⟨[], [], rfl, by simpa using h⟩, ?_⟩
    rintro ⟨front, behind, htext, h⟩
    obtain ⟨rfl, rfl⟩ := List.append_eq_nil_iff.mp htext.symm
    simpa using h
  | cons c text ih =>
    obtain ⟨b, hb⟩ := exists_marks_cons flags before.isEmpty c text items
    have hhead := head?_marks flags items before (c :: text)
    have hrest := ih (before ++ [c])
    rw [isEmpty_concat] at hrest
    rw [hb] at hhead ⊢
    rw [List.mem_cons, hrest]
    constructor
    · rintro (rfl | ⟨front, behind, rfl, h⟩)
      · exact ⟨[], c :: text, rfl, by simpa using hhead.mp rfl⟩
      · exact ⟨c :: front, behind, rfl, by simpa using h⟩
    · rintro ⟨front, behind, htext, h⟩
      cases front with
      | nil => exact .inl (by simpa using (hhead.mpr (by simpa [htext] using h)).symm)
      | cons d front =>
        obtain ⟨rfl, rfl⟩ := List.cons.inj htext
        exact .inr ⟨front, behind, rfl, by simpa using h⟩

theorem isMatch_iff_finds {r : Regex} {text : String} : r.isMatch text ↔ r.Finds text.toList := by
  rw [isMatch, List.contains_iff_mem, finds_iff]
  exact true_mem_marks r.flags r.items [] text.toList

/-- An escaped character is read as the character itself. -/
theorem readItems_escape (last : Option Single) (c : Char) (cs : List Char) :
    readItems last (escape [c] ++ cs) =
      (readItems (some (.only c)) cs).map ((last.map .one).toList ++ ·) := by
  by_cases hc : c ∈ metas
  · simp [escape, hc, readItems]
  · have hoperator : c ∉ operators := fun h => hc (List.mem_append_left _ h)
    have hne : c ≠ '*' ∧ c ≠ '^' ∧ c ≠ '$' ∧ c ≠ '.' ∧ c ≠ '\\' := by
      refine ⟨?_, ?_, ?_, ?_, ?_⟩ <;> rintro rfl <;> exact hoperator (by decide)
    rw [readItems.eq_def]
    simp [escape, hc, hne, hoperator]

end TableFilter.Regex
