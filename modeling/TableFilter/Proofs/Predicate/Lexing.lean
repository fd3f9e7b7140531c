import Mathlib.Tactic.SplitIfs
import TableFilter.Predicate.Lexer

/-!
# Reading tokens piece by piece

The place where a token begins matters to errors only. With the places left out, the machine that
reads tokens is run over a text by `feed`, which can be cut anywhere. A separator ends whatever can
be ended before it, so that texts with a separator between them are read one after the other: the
tokens of both stand side by side.
-/

namespace TableFilter.Lexer

open Text

def Pending.unplaced : Pending → Pending
  | .column _ name => .column 0 name
  | .escape _ name => .escape 0 name
  | .string _ text => .string 0 text
  | .quote _ text => .quote 0 text
  | .date _ body => .date 0 body
  | .number _ digits => .number 0 digits
  | pending => pending

def step? (c : Char) (pending : Pending) : Option (List Token × Pending) :=
  (advance 0 c pending).toOption

/-- Runs the machine over a text, which may break off inside a token. -/
def feed (pending : Pending) : List Char → Option (List Token × Pending)
  | [] => some ([], pending)
  | c :: rest => do
    let (ended, pending) ← step? c pending
    let (more, pending) ← feed pending rest
    return (ended ++ more, pending)

def scan (pending : Pending) (cs : List Char) : Option (List Token) := do
  let (ts, pending) ← feed pending cs
  return ts ++ (← (close pending).toOption)

theorem close_unplaced (pending : Pending) :
    (close pending.unplaced).toOption = (close pending).toOption := by
  cases pending <;> rfl

theorem begin_unplaced (position : Nat) (c : Char) :
    (begin 0 c).toOption =
      (begin position c).toOption.map fun r => (r.1, r.2.unplaced) := by
  unfold begin
  split
  · rfl
  · split <;> try rfl
    split
    · rfl
    · split <;> rfl

theorem absorb?_unplaced (c : Char) (pending : Pending) :
    (absorb? c pending.unplaced).map Except.toOption =
      (absorb? c pending).map fun s => s.toOption.map fun r => (r.1, r.2.unplaced) := by
  cases pending <;> simp only [Pending.unplaced, absorb?]
  case column start name =>
    split
    · rfl
    · split
      · cases columnToken name <;> rfl
      · rfl
  case date start body =>
    split
    · cases dateToken body <;> rfl
    · rfl
  all_goals first | rfl | (split <;> first | rfl | (split <;> rfl))

/-- What a character at a place may begin: at most one token, which is pending then. -/
inductive Begins (position : Nat) (c : Char) : Pending → Prop
  | ready : Begins position c .ready
  | less : Begins position c .less
  | greater : Begins position c .greater
  | column (hc : c = '[') : Begins position c (.column position [])
  | string (hc : c = '\'') : Begins position c (.string position [])
  | date (hc : c = '#') : Begins position c (.date position [])
  | number (hc : isNumberStart c) : Begins position c (.number position [c])
  | word (hc : isWordStart c) : Begins position c (.word [c])

theorem begins_of_begin {position : Nat} {c : Char} {ended : List Token} {next : Pending}
    (h : begin position c = .ok (ended, next)) : Begins position c next := by
  unfold begin at h
  split at h
  case isTrue =>
    cases h
    exact .ready
  case isFalse =>
    split at h
    case h_10 =>
      split at h
      case isTrue hc =>
        cases h
        exact .number hc
      case isFalse =>
        split at h
        case isTrue hc =>
          cases h
          exact .word hc
        case isFalse => cases h
    all_goals
      cases h
      constructor <;> rfl

/-- What a character that belongs to something pending may lead to: the end of it, or one character
more of it. -/
inductive Continues (c : Char) : Pending → Pending → Prop
  | done (pending : Pending) : Continues c pending .ready
  | column {start : Nat} {name : List Char} (hb : c ≠ ']') (hs : c ≠ '\\') :
    Continues c (.column start name) (.column start (c :: name))
  | escape {start : Nat} {name : List Char} (hs : c = '\\') :
    Continues c (.column start name) (.escape start name)
  | escaped {start : Nat} {name : List Char} :
    Continues c (.escape start name) (.column start (c :: name))
  | string {start : Nat} {text : List Char} (hc : c ≠ '\'') :
    Continues c (.string start text) (.string start (c :: text))
  | quote {start : Nat} {text : List Char} (hc : c = '\'') :
    Continues c (.string start text) (.quote start text)
  | doubled {start : Nat} {text : List Char} (hc : c = '\'') :
    Continues c (.quote start text) (.string start (c :: text))
  | date {start : Nat} {body : List Char} (hc : c ≠ '#') :
    Continues c (.date start body) (.date start (c :: body))
  | number {start : Nat} {digits : List Char} (hc : isNumberPart c) :
    Continues c (.number start digits) (.number start (c :: digits))
  | word {letters : List Char} (hc : isWordPart c) :
    Continues c (.word letters) (.word (c :: letters))

/-- A literal that is complete leaves nothing pending. -/
theorem eq_ready_of_map {token : Except PredicateError Token} {ended : List Token} {next : Pending}
    (h : (token.map fun t => ([t], Pending.ready)) = .ok (ended, next)) : next = .ready := by
  cases token with
  | error e => cases h
  | ok t =>
    cases h
    rfl

theorem continues_of_absorb? {c : Char} {pending next : Pending} {ended : List Token}
    (h : absorb? c pending = some (.ok (ended, next))) : Continues c pending next := by
  cases pending with
  | ready => cases h
  | escape start name =>
    cases h
    exact .escaped
  | column start name =>
    simp only [absorb?] at h
    split_ifs at h with hs hb
    · cases h
      exact .escape hs
    · rw [eq_ready_of_map (Option.some.inj h)]
      exact .done _
    · cases h
      exact .column hb hs
  | string start text =>
    simp only [absorb?] at h
    split_ifs at h with hc
    · cases h
      exact .quote hc
    · cases h
      exact .string hc
  | quote start text =>
    simp only [absorb?] at h
    split_ifs at h with hc
    cases h
    exact .doubled hc
  | date start body =>
    simp only [absorb?] at h
    split_ifs at h with hc
    · rw [eq_ready_of_map (Option.some.inj h)]
      exact .done _
    · cases h
      exact .date hc
  | number start digits =>
    simp only [absorb?] at h
    split_ifs at h with hc
    cases h
    exact .number hc
  | word letters =>
    simp only [absorb?] at h
    split_ifs at h with hc
    cases h
    exact .word hc
  | _ =>
    simp only [absorb?] at h
    split_ifs at h <;> cases h <;> exact .done _

theorem toOption_bind {ε α β : Type} (x : Except ε α) (f : α → Except ε β) :
    (x >>= f).toOption = x.toOption.bind fun a => (f a).toOption := by
  cases x <;> rfl

theorem toOption_eq_some {ε α : Type} {x : Except ε α} {a : α} :
    x.toOption = some a ↔ x = .ok a := by
  cases x <;> simp [Except.toOption]

/-- What belongs to nothing pending ends it and begins something else. -/
theorem advance_toOption {c : Char} {pending : Pending} (position : Nat)
    (h : absorb? c pending = none) :
    (advance position c pending).toOption = (close pending).toOption.bind fun ended =>
      (begin position c).toOption.map fun r => (ended ++ r.1, r.2) := by
  simp only [advance, h, toOption_bind]
  congr 1
  funext ended
  cases begin position c <;> rfl

theorem step?_unplaced (position : Nat) (c : Char) (pending : Pending) :
    step? c pending.unplaced =
      (advance position c pending).toOption.map fun r => (r.1, r.2.unplaced) := by
  have ha := absorb?_unplaced c pending
  cases h : absorb? c pending with
  | some s =>
    rw [h] at ha
    obtain ⟨s', hs, ha⟩ := Option.map_eq_some_iff.mp ha
    simp only [step?, advance, h, hs, ha]
  | none =>
    rw [h, Option.map_none, Option.map_eq_none_iff] at ha
    rw [step?, advance_toOption 0 ha, advance_toOption position h, close_unplaced,
      begin_unplaced position]
    simp only [Option.map_bind, Option.map_map, Function.comp_def]

theorem scan_nil (pending : Pending) : scan pending [] = (close pending).toOption := by
  simp [scan, feed]

theorem scan_cons (pending : Pending) (c : Char) (rest : List Char) :
    scan pending (c :: rest) =
      (step? c pending).bind fun r => (scan r.2 rest).map (r.1 ++ ·) := by
  simp only [scan, feed, Option.bind_eq_bind, Option.bind_assoc, Option.map_bind, Option.pure_def,
    Option.bind_some, Option.map_some, Function.comp_def, List.append_assoc]

/-- The machine with places yields the tokens that the one without them yields. -/
theorem run_toOption (position : Nat) (tokens : List Token) (pending : Pending) (cs : List Char) :
    (run position tokens pending cs).toOption =
      (scan pending.unplaced cs).map (tokens.reverse ++ ·) := by
  induction cs generalizing position tokens pending with
  | nil =>
    rw [scan_nil, close_unplaced, run, toOption_bind]
    cases close pending <;> simp [Except.toOption, pure, Except.pure]
  | cons c rest ih =>
    rw [scan_cons, step?_unplaced position, run, toOption_bind, Option.bind_map, Option.map_bind]
    congr 1
    funext r
    simp only [ih, Function.comp_def, Option.map_map, List.reverse_append, List.reverse_reverse,
      List.append_assoc]

theorem ofChars_eq_ok {cs : List Char} {ts : List Token} :
    Token.ofChars cs = .ok ts ↔ scan .ready cs = some ts := by
  have h := run_toOption 0 [] .ready cs
  simp only [List.reverse_nil, List.nil_append, Option.map_id', Pending.unplaced] at h
  rw [← h, Token.ofChars]
  cases run 0 [] .ready cs <;> simp [Except.toOption]

/-- A text is read by reading its characters one after the other. -/
theorem feed_concat (pending : Pending) (cs : List Char) (c : Char) :
    feed pending (cs ++ [c]) =
      (feed pending cs).bind fun r => (step? c r.2).map fun r' => (r.1 ++ r'.1, r'.2) := by
  induction cs generalizing pending with
  | nil => cases h : step? c pending <;> simp [feed, h]
  | cons d cs ih =>
    simp only [List.cons_append, feed, ih, Option.bind_eq_bind, Option.bind_assoc, Option.pure_def,
      Option.bind_some, Option.map_eq_bind, Function.comp_def, List.append_assoc]

theorem scan_append (pending : Pending) (cs ds : List Char) :
    scan pending (cs ++ ds) =
      (feed pending cs).bind fun r => (scan r.2 ds).map (r.1 ++ ·) := by
  induction cs generalizing pending with
  | nil => simp [feed]
  | cons c cs ih =>
    simp only [List.cons_append, scan_cons, feed, ih, Option.bind_eq_bind, Option.bind_assoc,
      Option.map_bind, Option.pure_def, Option.bind_some, Option.map_map, Function.comp_def,
      List.append_assoc]

def isSeparator (c : Char) : Bool := c == ' ' || c == '(' || c == ')' || c == ','

theorem absorb?_separator {c : Char} (hc : isSeparator c) {pending : Pending} {ts : List Token}
    (h : (close pending).toOption = some ts) : absorb? c pending = none := by
  simp only [isSeparator, Bool.or_eq_true, beq_iff_eq] at hc
  cases pending with
  | column | escape | string | date => simp [close, Except.toOption] at h
  | _ =>
    rcases hc with ((rfl | rfl) | rfl) | rfl
    all_goals rfl

/-- A text that can be read to its end is read to its end before a character that does not belong to
what is pending then, whatever follows. -/
theorem scan_append_of_end {pending : Pending} {cs : List Char} {c : Char} {ts : List Token}
    (hc : ∀ r ended, feed pending cs = some r → (close r.2).toOption = some ended →
      absorb? c r.2 = none) (hcs : scan pending cs = some ts) (ds : List Char) :
    scan pending (cs ++ c :: ds) = (scan .ready (c :: ds)).map (ts ++ ·) := by
  have hnil : scan pending (cs ++ []) = some ts := by rwa [List.append_nil]
  rw [scan_append] at hnil ⊢
  obtain ⟨r, hr, hnil⟩ := Option.bind_eq_some_iff.mp hnil
  rw [scan_nil] at hnil
  obtain ⟨ended, hended, rfl⟩ := Option.map_eq_some_iff.mp hnil
  have hready : step? c .ready = (begin 0 c).toOption := by
    rw [step?, advance_toOption 0 rfl]
    simp [close, Except.toOption]
  have hstep : step? c r.2 = (begin 0 c).toOption.map fun b => (ended ++ b.1, b.2) := by
    rw [step?, advance_toOption 0 (hc r ended hr hended), hended, Option.bind_some]
  simp only [hr, Option.bind_some, scan_cons, hready, hstep, Option.bind_map, Option.map_bind,
    Option.map_map, Function.comp_def, List.append_assoc]

theorem scan_append_cons {pending : Pending} {cs : List Char} {c : Char} {ts : List Token}
    (hc : isSeparator c) (hcs : scan pending cs = some ts) (ds : List Char) :
    scan pending (cs ++ c :: ds) = (scan .ready (c :: ds)).map (ts ++ ·) :=
  scan_append_of_end (fun _ _ _ hended => absorb?_separator hc hended) hcs ds

theorem scan_append_separator {pending : Pending} {cs ds : List Char} {c : Char}
    {ts us : List Token} (hc : isSeparator c) (hcs : scan pending cs = some ts)
    (hds : scan .ready (c :: ds) = some us) : scan pending (cs ++ c :: ds) = some (ts ++ us) := by
  rw [scan_append_cons hc hcs, hds, Option.map_some]

end TableFilter.Lexer

namespace TableFilter

open Lexer

def Lexes (cs : List Char) (ts : List Token) : Prop := Token.ofChars cs = .ok ts

namespace Lexes

variable {cs ds : List Char} {ts us : List Token}

theorem iff_scan : Lexes cs ts ↔ scan .ready cs = some ts := ofChars_eq_ok

theorem append {c : Char} (hc : isSeparator c) (h : Lexes cs ts) (h' : Lexes (c :: ds) us) :
    Lexes (cs ++ c :: ds) (ts ++ us) :=
  iff_scan.mpr (scan_append_separator hc (iff_scan.mp h) (iff_scan.mp h'))

theorem nil : Lexes [] [] := rfl

theorem blank (h : Lexes cs ts) : Lexes (' ' :: cs) ts := by
  rw [iff_scan] at h ⊢
  rw [scan_cons, show step? ' ' .ready = some ([], .ready) from rfl]
  simp [h]

theorem openParen (h : Lexes cs ts) : Lexes ('(' :: cs) (.openParen :: ts) := by
  rw [iff_scan] at h ⊢
  rw [scan_cons, show step? '(' .ready = some ([.openParen], .ready) from rfl]
  simp [h]

theorem closeParen (h : Lexes cs ts) : Lexes (')' :: cs) (.closeParen :: ts) := by
  rw [iff_scan] at h ⊢
  rw [scan_cons, show step? ')' .ready = some ([.closeParen], .ready) from rfl]
  simp [h]

theorem comma (h : Lexes cs ts) : Lexes (',' :: cs) (.comma :: ts) := by
  rw [iff_scan] at h ⊢
  rw [scan_cons, show step? ',' .ready = some ([.comma], .ready) from rfl]
  simp [h]

end Lexes
end TableFilter
