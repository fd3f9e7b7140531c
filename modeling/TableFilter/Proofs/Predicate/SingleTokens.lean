import TableFilter.Proofs.Predicate.Literals
import TableFilter.Proofs.Value.Display

/-!
# Literals in their context

A literal is read as its one token wherever it stands in a text, as long as the character before it
does not take it into an earlier token and a separator or the end of the text follows. What is
pending after a text depends on the last character of the text: only a quote leaves a string that
another quote would continue, and only a part of a number or of a word leaves one that a digit
would continue.
-/

namespace TableFilter

namespace Lexer

/-- A character after which a literal could be read as part of the token before it. -/
def leadsOn (c : Char) : Bool := c == '\'' || isNumberStart c || isWordPart c

variable {b c : Char} {position : Nat} {pending next : Pending} {ts ended : List Token}

def Pending.EndsWith (b : Char) : Pending → Prop
  | .quote _ _ => b = '\''
  | .number _ _ => isNumberStart b
  | .word _ => isWordPart b
  | _ => True

theorem isNumberStart_of_isNumberPart (h : isNumberPart c) : isNumberStart c := by
  simp only [isNumberPart, isNumberStart, Bool.or_eq_true] at h ⊢
  rcases h with h | h
  · exact .inl (.inl (.inl h))
  · exact .inr h

theorem isWordPart_of_isWordStart (h : isWordStart c) : isWordPart c := by
  simp only [isWordStart, isWordPart, Text.isAlphanumeric, Bool.or_eq_true] at h ⊢
  rcases h with h | h
  · exact .inl (.inl (.inl h))
  · exact .inl (.inr h)

theorem endsWith_begin (h : begin position b = .ok (ended, next)) : next.EndsWith b := by
  cases begins_of_begin h with
  | number hb => exact hb
  | word hb => exact isWordPart_of_isWordStart hb
  | _ => trivial

theorem endsWith_absorb? (h : absorb? b pending = some (.ok (ended, next))) : next.EndsWith b := by
  cases continues_of_absorb? h with
  | quote hb => exact hb
  | number hb => exact isNumberStart_of_isNumberPart hb
  | word hb => exact hb
  | _ => trivial

theorem endsWith_of_step? (h : step? b pending = some (ts, next)) : next.EndsWith b := by
  rw [step?] at h
  cases habsorb : absorb? b pending with
  | some step =>
    rw [advance, habsorb, toOption_eq_some] at h
    exact endsWith_absorb? (habsorb.trans (congrArg some h))
  | none =>
    rw [advance_toOption 0 habsorb] at h
    obtain ⟨closed, -, h⟩ := Option.bind_eq_some_iff.mp h
    obtain ⟨⟨begun, next⟩, hbegin, h⟩ := Option.map_eq_some_iff.mp h
    cases h
    exact endsWith_begin (toOption_eq_some.mp hbegin)

/-- What ends with a character that does not lead on is ended by the first character of a literal.
-/
theorem Pending.EndsWith.absorb?_eq_none (h : pending.EndsWith b) (hb : leadsOn b = false)
    (hc : c ≠ '=' ∧ c ≠ '>') (hclose : (close pending).toOption = some ended) :
    absorb? c pending = none := by
  simp only [leadsOn, Bool.or_eq_false_iff, beq_eq_false_iff_ne] at hb
  obtain ⟨⟨hquote, hnumber⟩, hword⟩ := hb
  cases pending with
  | ready => rfl
  | less => simp [absorb?, hc]
  | greater => simp [absorb?, hc]
  | quote => exact absurd h hquote
  | number => simp [Pending.EndsWith, hnumber] at h
  | word => simp [Pending.EndsWith, hword] at h
  | column | escape | string | date => simp [close, Except.toOption] at hclose

/-- A literal that does not stand behind a character that leads on is read by itself. -/
theorem scan_append_literal {before : List Char} (hbefore : scan .ready before = some ts)
    (hb : ∀ b ∈ before.getLast?, leadsOn b = false) (hc : c ≠ '=' ∧ c ≠ '>') (rest : List Char) :
    scan .ready (before ++ c :: rest) = (scan .ready (c :: rest)).map (ts ++ ·) := by
  refine scan_append_of_end (fun r ended hr hclose => ?_) hbefore rest
  cases before using List.reverseRecOn with
  | nil =>
    cases hr
    rfl
  | append_singleton before b =>
    -- The step over the last character decides what is pending.
    rw [feed_concat] at hr
    obtain ⟨r', -, hr⟩ := Option.bind_eq_some_iff.mp hr
    obtain ⟨⟨ts, next⟩, hstep, rfl⟩ := Option.map_eq_some_iff.mp hr
    exact (endsWith_of_step? hstep).absorb?_eq_none (hb b (by simp)) hc hclose

end Lexer

open Lexer

structure IsToken (s : String) (t : Token) : Prop where
  alone : Lexes s.toList [t]
  within : ∀ before after ts us, Lexes before ts → (∀ c ∈ before.getLast?, leadsOn c = false) →
    (∀ c ∈ after.head?, isSeparator c) →
    (Lexes (before ++ s.toList ++ after) us ↔ ∃ vs, Lexes after vs ∧ us = ts ++ t :: vs)

theorem isToken_of_lexes {s : String} {t : Token} {c : Char} {cs : List Char}
    (hs : s.toList = c :: cs) (hc : c ≠ '=' ∧ c ≠ '>') (h : Lexes s.toList [t]) : IsToken s t := by
  refine ⟨h, fun before after ts us hbefore hb hafter => ?_⟩
  have hwhole : scan .ready (s.toList ++ after) = (scan .ready after).map (t :: ·) := by
    rw [Lexes.iff_scan] at h
    cases after with
    | nil => rw [List.append_nil, h]; rfl
    | cons a after => exact scan_append_cons (hafter a rfl) h after
  rw [Lexes.iff_scan] at hbefore ⊢
  rw [List.append_assoc, hs, List.cons_append, scan_append_literal hbefore hb hc,
    ← List.cons_append, ← hs, hwhole]
  simp only [Option.map_map, Option.map_eq_some_iff, Lexes.iff_scan, Function.comp_apply,
    eq_comm (a := us)]

namespace IsToken

open Literal

theorem columnRef {name : String} (h : name ≠ "") : IsToken (columnRef name) (.column name) :=
  isToken_of_lexes String.toList_ofList (by decide) (.columnRef h)

theorem quote (s : String) : IsToken (quote s) (.text s) :=
  isToken_of_lexes String.toList_ofList (by decide) (.quote s)

theorem date (d : Date) : IsToken (date d) (.date d) :=
  isToken_of_lexes String.toList_ofList (by decide) (.date d)

theorem number (d : Decimal) : IsToken (number d) (.number d.restored) := by
  obtain ⟨c, cs, hcs, hc, -⟩ := exists_toChars_eq_cons d
  have htext : (Literal.number d).toList = c :: cs := by
    rw [Literal.number, Decimal.text, String.toList_ofList, hcs]
  refine isToken_of_lexes htext ?_ (.number d)
  constructor <;> rintro rfl <;> rcases hc with h | h <;> cases h

end IsToken

/-- Whatever is written as a literal is read as this one token, by itself and wherever the literal
stands in a text before a separator or the end. The scale of a number is kept, and so is its sign
unless it is the sign of a zero, which no comparison tells from a zero without it. -/
theorem literals_are_single_tokens :
    (∀ name, name ≠ "" → IsToken (Literal.columnRef name) (.column name)) ∧
    (∀ s, IsToken (Literal.quote s) (.text s)) ∧
    (∀ d, ∃ d', IsToken (Literal.number d) (.number d') ∧ d'.sameValue d ∧ d'.scale = d.scale ∧
      (d.negative = false ∨ d.coefficient ≠ 0 → d' = d)) ∧
    ∀ x, IsToken (Literal.date x) (.date x) :=
  ⟨fun _ => .columnRef, .quote,
    fun d => ⟨d.restored, .number d, Value.same_restored (.number d), rfl, d.restored_eq⟩, .date⟩

/-- A name with a bracket, a text with a quote that stands between a comparison and a parenthesis,
and a number with its places. -/
theorem literals_are_single_tokens_quoted :
    IsToken "[a\\]b]" (.column "a]b") ∧
      Lexes "([a\\]b] = 'O''Brien') Or".toList [.openParen, .column "a]b", .compare .eq,
        .text "O'Brien", .closeParen, .connective .or] ∧
      IsToken "-1.50" (.number ⟨true, 150, 2, by decide, by decide⟩) := by
  obtain ⟨hcolumn, hquote, hnumber, -⟩ := literals_are_single_tokens
  obtain ⟨d', htoken, -, -, hd⟩ := hnumber ⟨true, 150, 2, by decide, by decide⟩
  rw [hd (.inr (by decide))] at htoken
  have hlast : "([a\\]b] = ".toList.getLast? = some ' ' := rfl
  have hnext : ") Or".toList.head? = some ')' := rfl
  have hread := (hquote "O'Brien").within "([a\\]b] = ".toList ") Or".toList
    [.openParen, .column "a]b", .compare .eq]
    [.openParen, .column "a]b", .compare .eq, .text "O'Brien", .closeParen, .connective .or] rfl
  rw [hlast, hnext] at hread
  exact ⟨hcolumn "a]b" (by decide),
    (hread (by rintro _ ⟨⟩; rfl) (by rintro _ ⟨⟩; rfl)).mpr ⟨_, rfl, rfl⟩, htoken⟩

end TableFilter
