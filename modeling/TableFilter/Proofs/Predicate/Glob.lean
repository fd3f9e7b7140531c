import Mathlib.Data.List.Forall2
import TableFilter.Predicate.Like
import TableFilter.Proofs.Text.Matching

/-!
# Patterns split texts

A pattern matches a text if the text can be cut into runs, one for each character of the pattern,
so that every run is what its character stands for: anything for a wildcard, the character itself
up to case for every other one. The regular expression for a pattern is always read, into one item
for each character between two anchors, since whatever could be an operator in it has been escaped.
So it is found in the texts that can be cut like that.
-/

namespace TableFilter.Like

open Text

variable {caseSensitive : Bool} {p c : Char} {pattern text run : List Char}

/-- The run is what the character of a pattern stands for. -/
def Fills (caseSensitive : Bool) (p : Char) (run : List Char) : Prop :=
  isWildcard p ∨ ∃ c, run = [c] ∧ sameChar caseSensitive p c

/-- The text consists of runs for the characters of the pattern. -/
def Splits (caseSensitive : Bool) (pattern text : List Char) : Prop :=
  ∃ runs, List.Forall₂ (Fills caseSensitive) pattern runs ∧ text = runs.flatten

theorem fills_true : Fills true p run ↔ isWildcard p ∨ run = [p] := by
  simp [Fills, sameChar]

namespace Splits

theorem nil_iff : Splits caseSensitive [] text ↔ text = [] := by
  simp [Splits, List.forall₂_nil_left_iff]

theorem cons_iff : Splits caseSensitive (p :: pattern) text ↔
    ∃ run rest, Fills caseSensitive p run ∧ Splits caseSensitive pattern rest ∧
      text = run ++ rest := by
  constructor
  · rintro ⟨runs, hruns, rfl⟩
    obtain ⟨run, runs, hrun, hrest, rfl⟩ := List.forall₂_cons_left_iff.mp hruns
    exact ⟨run, _, hrun, ⟨runs, hrest, rfl⟩, List.flatten_cons⟩
  · rintro ⟨run, rest, hrun, ⟨runs, hruns, rfl⟩, rfl⟩
    exact ⟨run :: runs, .cons hrun hruns, List.flatten_cons.symm⟩

/-- A wildcard takes any run off the front of the text. -/
theorem wildcard_iff (hp : isWildcard p) : Splits caseSensitive (p :: pattern) text ↔
    ∃ rest, rest <:+ text ∧ Splits caseSensitive pattern rest := by
  rw [cons_iff]
  constructor
  · rintro ⟨run, rest, -, hrest, rfl⟩
    exact ⟨rest, List.suffix_append run rest, hrest⟩
  · rintro ⟨rest, ⟨run, rfl⟩, hrest⟩
    exact ⟨run, rest, .inl hp, hrest, rfl⟩

theorem ordinary_iff (hp : isWildcard p = false) : Splits caseSensitive (p :: pattern) text ↔
    ∃ c rest, sameChar caseSensitive p c ∧ Splits caseSensitive pattern rest ∧
      text = c :: rest := by
  rw [cons_iff]
  simp [Fills, hp]

theorem append_iff {pattern' : List Char} : Splits caseSensitive (pattern ++ pattern') text ↔
    ∃ front rest, Splits caseSensitive pattern front ∧ Splits caseSensitive pattern' rest ∧
      text = front ++ rest := by
  induction pattern generalizing text with
  | nil => simp [nil_iff]
  | cons p pattern ih =>
    simp only [List.cons_append, cons_iff, ih]
    constructor
    · rintro ⟨run, rest, hrun, ⟨front, rest, hfront, hrest, rfl⟩, rfl⟩
      exact ⟨_, rest, ⟨run, front, hrun, hfront, rfl⟩, hrest, (List.append_assoc _ _ _).symm⟩
    · rintro ⟨_, rest, ⟨run, front, hrun, hfront, rfl⟩, hrest, rfl⟩
      exact ⟨run, _, hrun, ⟨front, rest, hfront, hrest, rfl⟩, List.append_assoc _ _ _⟩

/-- Without wildcards there is one character of the text for each one of the pattern. -/
theorem iff_forall₂ (h : ∀ p ∈ pattern, isWildcard p = false) :
    Splits caseSensitive pattern text ↔
      List.Forall₂ (fun p c => sameChar caseSensitive p c) pattern text := by
  induction pattern generalizing text with
  | nil => rw [nil_iff, List.forall₂_nil_left_iff]
  | cons p pattern ih =>
    obtain ⟨hp, hpattern⟩ := List.forall_mem_cons.mp h
    simp only [ordinary_iff hp, List.forall₂_cons_left_iff, ih hpattern]

theorem iff_eq (h : ∀ p ∈ pattern, isWildcard p = false) : Splits true pattern text ↔
    text = pattern := by
  simp only [iff_forall₂ h, sameChar, if_true, beq_iff_eq, List.forall₂_eq_eq_eq]
  exact eq_comm

/-- A pattern with a wildcard at its end alone asks for a prefix. -/
theorem iff_isPrefix (h : ∀ p ∈ pattern, isWildcard p = false) :
    Splits true (pattern ++ ['*']) text ↔ pattern <+: text := by
  have hany (rest : List Char) : Splits true ['*'] rest :=
    (wildcard_iff rfl).mpr ⟨[], List.nil_suffix, nil_iff.mpr rfl⟩
  rw [append_iff]
  constructor
  · rintro ⟨front, rest, hfront, -, rfl⟩
    rw [(iff_eq h).mp hfront]
    exact List.prefix_append pattern rest
  · rintro ⟨rest, rfl⟩
    exact ⟨pattern, rest, (iff_eq h).mpr rfl, hany rest, rfl⟩

end Splits

/-- Joining the pieces between separators puts the joint in the place of each separator. -/
theorem intercalate_map_splitOnP {α β : Type} (joint : List β) (f : α → List β) (p : α → Bool)
    (xs : List α) : joint.intercalate ((xs.splitOnP p).map (List.flatMap f)) =
      xs.flatMap fun x => if p x then joint else f x := by
  induction xs with
  | nil => simp
  | cons x xs ih =>
    obtain ⟨piece, pieces, hpieces⟩ := List.exists_cons_of_ne_nil (List.splitOnP_ne_nil p xs)
    rw [List.flatMap_cons, ← ih, List.splitOnP_cons_eq_if_modifyHead, hpieces]
    split
    case isTrue => simp [List.intercalate_cons_cons]
    case isFalse => cases pieces <;> simp [List.intercalate_cons_cons]

def itemOf (p : Char) : Regex.Item := if isWildcard p then .many .any else .one (.only p)

def regexOf (caseSensitive : Bool) (pattern : List Char) : Regex where
  flags := { ignoreCase := !caseSensitive, dotAll := true }
  items := .start :: (pattern.map itemOf ++ [.finish])

theorem readItems_pattern (pattern : List Char) (last : Option Regex.Single) :
    Regex.readItems last ((pattern.flatMap fun p =>
      if isWildcard p then ['.', '*'] else Regex.escape [p]) ++ ['$']) =
        some ((last.map .one).toList ++ (pattern.map itemOf ++ [.finish])) := by
  -- A character is read when it is known whether a star follows it, that is with the next one.
  induction pattern generalizing last with
  | nil => rfl
  | cons p pattern ih =>
    rw [List.flatMap_cons, List.append_assoc, List.map_cons, itemOf]
    split
    case isTrue => simp [Regex.readItems, ih]
    case isFalse => simp [Regex.readItems_escape, ih]

/-- Every pattern has a regular expression. -/
theorem regex?_eq (caseSensitive : Bool) (pattern : String) :
    regex? caseSensitive pattern = some (regexOf caseSensitive pattern.toList) := by
  have hbody : ['.', '*'].intercalate ((pattern.toList.splitOnP isWildcard).map Regex.escape) =
      pattern.toList.flatMap fun p => if isWildcard p then ['.', '*'] else Regex.escape [p] := by
    have hescape : Regex.escape = List.flatMap fun p => Regex.escape [p] := by
      funext cs
      simp [Regex.escape]
    rw [hescape, intercalate_map_splitOnP]
    simp
  have hread := readItems_pattern pattern.toList none
  rw [← hbody] at hread
  rw [regex?, regexText]
  cases caseSensitive <;>
    simp [Regex.ofText?, Regex.readFlags, Regex.readItems, regexOf, hread]

theorem fits_itemOf {before behind : List Char} :
    (itemOf p).Fits (regexOf caseSensitive pattern).flags before run behind ↔
      Fills caseSensitive p run := by
  unfold itemOf Fills
  cases isWildcard p <;> simp [Regex.Item.Fits, Regex.Single.admits, regexOf]

theorem matchesFront_pattern (before : List Char) :
    Regex.MatchesFront (regexOf caseSensitive []).flags (pattern.map itemOf ++ [.finish]) before text ↔
      Splits caseSensitive pattern text := by
  induction pattern generalizing before text with
  | nil =>
    rw [Splits.nil_iff]
    exact Regex.MatchesFront.finish_iff.trans (and_iff_left .nil)
  | cons p pattern ih =>
    rw [List.map_cons, List.cons_append, Regex.MatchesFront.cons_iff, Splits.cons_iff]
    simp only [fits_itemOf, ih]
    constructor
    · rintro ⟨run, rest, rfl, hrun, hrest⟩
      exact ⟨run, rest, hrun, hrest, rfl⟩
    · rintro ⟨run, rest, hrun, hrest, rfl⟩
      exact ⟨run, rest, rfl, hrun, hrest⟩

/-- The regular expression for a pattern is found in the texts that the pattern splits. -/
theorem finds_regexOf : (regexOf caseSensitive pattern).Finds text ↔
    Splits caseSensitive pattern text := by
  rw [Regex.finds_iff, ← matchesFront_pattern []]
  constructor
  · rintro ⟨before, behind, rfl, h⟩
    obtain ⟨rfl, h⟩ := Regex.MatchesFront.start_iff.mp h
    exact h
  · intro h
    exact ⟨[], text, rfl, Regex.MatchesFront.start_iff.mpr ⟨rfl, h⟩⟩

theorem accepts_iff_splits {pattern text : String} : accepts caseSensitive pattern text ↔
    Splits caseSensitive pattern.toList text.toList := by
  rw [accepts, accepts?, regex?_eq, Option.map_some, Option.getD_some, Regex.isMatch_iff_finds,
    finds_regexOf]

example : accepts true "a.%c" "a.b\nc" ∧ accepts true "a.%c" "ab\nc" = false := by decide

end TableFilter.Like
