import TableFilter.Predicate.Literal
import TableFilter.Proofs.Calendar.ReadBack
import TableFilter.Proofs.Decimal.ReadBack
import TableFilter.Proofs.Predicate.Lexing

/-!
# Literals are single tokens

A reference to a column, a string literal, a number and a date are each read as the one token that
they were written for, whatever characters the name or the text has.
-/

namespace TableFilter

theorem Literal.doubleQuotes_append (cs ds : List Char) :
    doubleQuotes (cs ++ ds) = doubleQuotes cs ++ doubleQuotes ds := List.flatMap_append

theorem Literal.doubleQuotes_cons {c : Char} (hc : c ≠ '\'') (cs : List Char) :
    doubleQuotes (c :: cs) = c :: doubleQuotes cs := by
  rw [doubleQuotes, List.flatMap_cons, if_neg hc]
  rfl

namespace Lexer

open Text Literal

theorem scan_of_step {c : Char} {pending next : Pending} {ts : List Token}
    (h : step? c pending = some (ts, next)) (rest : List Char) :
    scan pending (c :: rest) = (scan next rest).map (ts ++ ·) := by
  rw [scan_cons, h, Option.bind_some]

/-- A step that completes no token. -/
theorem scan_of_step_nil {c : Char} {pending next : Pending} (h : step? c pending = some ([], next))
    (rest : List Char) : scan pending (c :: rest) = scan next rest := by
  rw [scan_of_step h]
  simp

theorem step?_column {c : Char} (hc : c ≠ '\\') (hc' : c ≠ ']') (name : List Char) :
    step? c (.column 0 name) = some ([], .column 0 (c :: name)) := by
  simp only [step?, advance, absorb?, if_neg hc, if_neg hc']
  rfl

theorem step?_column_end {name : List Char} (h : name ≠ []) :
    step? ']' (.column 0 name) = some ([.column (collected name)], .ready) := by
  have ht : columnToken name = .ok (.column (collected name)) := by
    rw [columnToken, if_neg (by simpa using h)]
  have ha : absorb? ']' (.column 0 name) =
      some ((columnToken name).map fun t => ([t], .ready)) := rfl
  simp only [step?, advance, ha, ht]
  rfl

/-- The characters of a name are collected one by one, whether they were escaped or not. -/
theorem scan_escaped (cs name rest : List Char) :
    scan (.column 0 name) (cs.flatMap escapeInColumn ++ rest) =
      scan (.column 0 (cs.reverse ++ name)) rest := by
  induction cs generalizing name with
  | nil => rfl
  | cons c cs ih =>
    rw [List.flatMap_cons, List.append_assoc, List.reverse_cons, List.append_assoc,
      List.singleton_append, ← ih (c :: name)]
    by_cases hc : c = ']' ∨ c = '\\'
    · have hs : step? '\\' (.column 0 name) = some ([], .escape 0 name) := rfl
      have he : step? c (.escape 0 name) = some ([], .column 0 (c :: name)) := rfl
      rw [escapeInColumn, if_pos hc]
      exact (scan_of_step_nil hs _).trans (scan_of_step_nil he _)
    · obtain ⟨hb, hs⟩ := not_or.mp hc
      rw [escapeInColumn, if_neg hc]
      exact scan_of_step_nil (step?_column hs hb name) _

theorem step?_string {c : Char} (hc : c ≠ '\'') (text : List Char) :
    step? c (.string 0 text) = some ([], .string 0 (c :: text)) := by
  simp only [step?, advance, absorb?, if_neg hc]
  rfl

theorem scan_doubled (cs text rest : List Char) :
    scan (.string 0 text) (doubleQuotes cs ++ rest) =
      scan (.string 0 (cs.reverse ++ text)) rest := by
  induction cs generalizing text with
  | nil => rfl
  | cons c cs ih =>
    rw [doubleQuotes, List.flatMap_cons, List.append_assoc, List.reverse_cons, List.append_assoc,
      List.singleton_append, ← ih (c :: text)]
    by_cases hc : c = '\''
    · subst hc
      have hs : step? '\'' (.string 0 text) = some ([], .quote 0 text) := rfl
      have hq : step? '\'' (.quote 0 text) = some ([], .string 0 ('\'' :: text)) := rfl
      exact (scan_of_step_nil hs _).trans (scan_of_step_nil hq _)
    · rw [if_neg hc]
      exact scan_of_step_nil (step?_string hc text) _

theorem scan_number {cs : List Char} (h : ∀ c ∈ cs, isNumberPart c) (digits : List Char) :
    scan (.number 0 digits) cs = (close (.number 0 (cs.reverse ++ digits))).toOption := by
  induction cs generalizing digits with
  | nil => exact scan_nil _
  | cons c cs ih =>
    obtain ⟨hc, hcs⟩ := List.forall_mem_cons.mp h
    have hs : step? c (.number 0 digits) = some ([], .number 0 (c :: digits)) := by
      simp only [step?, advance, absorb?, if_pos hc]
      rfl
    rw [scan_of_step_nil hs, ih hcs, List.reverse_cons, List.append_assoc, List.singleton_append]

/-- A number that is written begins with a digit or a minus sign. -/
theorem exists_toChars_eq_cons (d : Decimal) : ∃ c cs, d.toChars = c :: cs ∧
    (c.isDigit ∨ c = '-') ∧ ∀ c ∈ cs, isNumberPart c := by
  obtain ⟨c, cs, hcs, hc⟩ := d.exists_unsignedChars_eq_cons
  have hparts : ∀ c' ∈ c :: cs, isNumberPart c' := by
    intro c' h
    rcases d.isDigit_or_point_of_mem (hcs ▸ h) with h | rfl
    · simp [isNumberPart, h]
    · rfl
  rw [Decimal.toChars_eq, hcs]
  cases d.negative with
  | true => exact ⟨'-', c :: cs, rfl, .inr rfl, hparts⟩
  | false => exact ⟨c, cs, rfl, .inl hc, fun c' h => hparts c' (List.mem_cons_of_mem c h)⟩

theorem begin_number {c : Char} (h : c.isDigit ∨ c = '-') (position : Nat) :
    begin position c = .ok ([], .number position [c]) := by
  have hb : isBlank c = false := by
    rcases h with h | rfl
    · exact isBlank_of_isDigit h
    · rfl
  have hn : isNumberStart c = true := by
    rcases h with h | rfl
    · simp [isNumberStart, h]
    · rfl
  unfold begin
  rw [if_neg (by simp [hb])]
  split
  case h_10 => rw [if_pos hn]
  all_goals rcases h with h | h <;> cases h

theorem scan_date {cs : List Char} (h : ∀ c ∈ cs, c ≠ '#') (body rest : List Char) :
    scan (.date 0 body) (cs ++ rest) = scan (.date 0 (cs.reverse ++ body)) rest := by
  induction cs generalizing body with
  | nil => rfl
  | cons c cs ih =>
    obtain ⟨hc, hcs⟩ := List.forall_mem_cons.mp h
    have hs : step? c (.date 0 body) = some ([], .date 0 (c :: body)) := by
      simp only [step?, advance, absorb?, if_neg hc]
      rfl
    rw [List.cons_append, scan_of_step_nil hs, ih hcs, List.reverse_cons, List.append_assoc,
      List.singleton_append]

theorem dateToken_monthFirstChars (d : Date) :
    dateToken d.monthFirstChars.reverse = .ok (.date d) := by
  have ht : trimChars d.monthFirstChars = d.monthFirstChars :=
    (IsTrimmed.of_forall fun _ h => Date.isBlank_of_mem_monthFirstChars h).trimChars_eq
  rw [dateToken, List.reverse_reverse, ht, Date.ofPattern?_monthFirstChars]

end Lexer

namespace Lexes

open Lexer Literal

theorem columnRef {name : String} (h : name ≠ "") :
    Lexes (columnRef name).toList [.column name] := by
  have hb : step? '[' .ready = some ([], .column 0 []) := rfl
  have hne : name.toList.reverse ++ [] ≠ [] := by simpa using h
  rw [iff_scan, Literal.columnRef, String.toList_ofList, List.cons_append, scan_of_step_nil hb,
    scan_escaped, scan_of_step (step?_column_end hne)]
  simp [scan_nil, close, Except.toOption, collected]

theorem quote (s : String) : Lexes (quote s).toList [.text s] := by
  have hb : step? '\'' .ready = some ([], .string 0 []) := rfl
  have he : step? '\'' (.string 0 s.toList.reverse) = some ([], .quote 0 s.toList.reverse) := rfl
  rw [iff_scan, Literal.quote, String.toList_ofList, List.cons_append, scan_of_step_nil hb,
    scan_doubled, List.append_nil, scan_of_step_nil he]
  simp [scan_nil, close, Except.toOption, collected]

/-- A number may come back without the sign of a zero. -/
theorem number (d : Decimal) : Lexes (number d).toList [.number d.restored] := by
  have hread := d.read?_text
  obtain ⟨c, cs, hcs, hc, hparts⟩ := exists_toChars_eq_cons d
  have hb : step? c .ready = some ([], .number 0 [c]) := by
    rw [step?, advance_toOption 0 rfl, begin_number hc]
    rfl
  have hd : collected (cs.reverse ++ [c]) = d.text := by
    rw [collected, List.reverse_append, List.reverse_reverse, Decimal.text, hcs]
    rfl
  rw [iff_scan, Literal.number, Decimal.text, String.toList_ofList, hcs, scan_of_step_nil hb,
    scan_number hparts, close, numberToken, hd, hread]
  rfl

theorem date (d : Date) : Lexes (date d).toList [.date d] := by
  have hb : step? '#' .ready = some ([], .date 0 []) := rfl
  have ha : absorb? '#' (.date 0 d.monthFirstChars.reverse) =
      some ((dateToken d.monthFirstChars.reverse).map fun t => ([t], .ready)) := rfl
  have he : step? '#' (.date 0 d.monthFirstChars.reverse) = some ([.date d], .ready) := by
    simp only [step?, advance, ha, dateToken_monthFirstChars]
    rfl
  rw [iff_scan, Literal.date, String.toList_ofList, List.cons_append, scan_of_step_nil hb,
    scan_date fun _ h => Date.ne_numberSign_of_mem_monthFirstChars h, List.append_nil,
    scan_of_step he]
  simp [scan_nil, close, Except.toOption]

theorem symbol (op : Comparison) : Lexes op.symbol.toList [.compare op] := by
  cases op <;> rfl

theorem connective (c : Connective) : Lexes c.spelling.toList [.connective c] := by
  cases c <;> rfl

theorem boolText (b : Bool) : Lexes (Value.boolText b).toList [.truth b] := by
  cases b <;> rfl

end Lexes

end TableFilter
