import Mathlib.Data.List.Induction
import Mathlib.Data.String.Basic
import TableFilter.Proofs.Predicate.Grammar
import TableFilter.Proofs.Predicate.Literals

/-!
# Errors point at their cause

The machine that reads tokens counts bytes and remembers the place at which a literal was begun.
That place divides the text between two characters: what stands before it can be read as tokens,
and what follows is the literal with all that was read of it since. So an error names the place of
a character that begins no token, or the place of a literal that the rest of the text does not
close, and a number is the part of the text between the place where it was begun and the place that
was reached.
-/

namespace TableFilter

open String (utf8Len utf8Len_append utf8Len_cons utf8Len_nil)

structure IsSlice (s : String) (start stop : Nat) (text : String) : Prop where
  start_isValid : String.Pos.Raw.IsValid s ⟨start⟩
  stop_isValid : String.Pos.Raw.IsValid s ⟨stop⟩
  start_le : start ≤ stop
  extract_eq : String.Pos.Raw.extract s ⟨start⟩ ⟨stop⟩ = text

theorem isValid_utf8Len {s : String} {before rest : List Char} (h : s.toList = before ++ rest) :
    String.Pos.Raw.IsValid s ⟨utf8Len before⟩ := by
  rw [String.Pos.Raw.isValid_iff_exists_append]
  refine ⟨.ofList before, .ofList rest, ?_, ?_⟩
  · rw [← String.ofList_append, ← h, String.ofList_toList]
  · rw [String.rawEndPos, String.utf8ByteSize_ofList]

theorem isSlice_of_toList {s : String} {before text rest : List Char}
    (h : s.toList = before ++ text ++ rest) :
    IsSlice s (utf8Len before) (utf8Len (before ++ text)) (String.ofList text) := by
  have hstart : s.toList = before ++ (text ++ rest) := by rw [h, List.append_assoc]
  refine ⟨isValid_utf8Len hstart, isValid_utf8Len h, ?_, ?_⟩
  · rw [utf8Len_append]
    exact Nat.le_add_right _ _
  · have hs : s = String.ofList (before ++ text ++ rest) := by rw [← h, String.ofList_toList]
    rw [hs, utf8Len_append]
    exact String.extract_of_valid before text rest

/-- What follows an opening quote closes the literal: a quote comes that is not doubled. -/
def ClosesString (rest : List Char) : Prop :=
  ∃ body tail, rest = Literal.doubleQuotes body ++ '\'' :: tail ∧ tail.head? ≠ some '\''

/-- Characters between brackets of which none closes them: a backslash takes the next one with it.
-/
inductive IsOpenName : List Char → Prop
  | nil : IsOpenName []
  | plain {c : Char} {cs : List Char} (hb : c ≠ ']') (hs : c ≠ '\\') (h : IsOpenName cs) :
    IsOpenName (c :: cs)
  | escaped {cs : List Char} (c : Char) (h : IsOpenName cs) : IsOpenName ('\\' :: c :: cs)

def ClosesColumn (rest : List Char) : Prop :=
  ∃ body tail, IsOpenName body ∧ rest = body ++ ']' :: tail

theorem not_closesString_doubleQuotes (text : List Char) :
    ¬ ClosesString (Literal.doubleQuotes text) := by
  rintro ⟨body, tail, hrest, htail⟩
  induction text generalizing body with
  | nil => cases body <;> simp [Literal.doubleQuotes] at hrest
  | cons c text ih =>
    by_cases hc : c = '\''
    case pos =>
      have hpair : Literal.doubleQuotes (c :: text) =
          '\'' :: '\'' :: Literal.doubleQuotes text := by rw [hc]; rfl
      rw [hpair] at hrest
      cases body with
      | nil =>
        have hsecond : '\'' :: Literal.doubleQuotes text = tail := (List.cons.inj hrest).2
        exact htail (hsecond ▸ rfl)
      | cons b body =>
        by_cases hb : b = '\''
        · subst hb
          exact ih body (List.cons.inj (List.cons.inj hrest).2).2
        · rw [Literal.doubleQuotes_cons hb] at hrest
          exact hb (List.cons.inj hrest).1.symm
    case neg =>
      rw [Literal.doubleQuotes_cons hc] at hrest
      cases body with
      | nil => exact hc (List.cons.inj hrest).1
      | cons b body =>
        by_cases hb : b = '\''
        · subst hb
          exact hc (List.cons.inj hrest).1
        · rw [Literal.doubleQuotes_cons hb] at hrest
          exact ih body (List.cons.inj hrest).2

namespace IsOpenName

variable {name : List Char}

theorem append {more : List Char} (h : IsOpenName name) (h' : IsOpenName more) :
    IsOpenName (name ++ more) := by
  induction h with
  | nil => exact h'
  | plain hb hs _ ih => exact .plain hb hs ih
  | escaped c _ ih => exact .escaped c ih

/-- A last backslash has nothing to take with it. -/
theorem not_closesColumn_append (h : IsOpenName name) {last : List Char}
    (hlast : last = [] ∨ last = ['\\']) : ¬ ClosesColumn (name ++ last) := by
  rintro ⟨body, tail, hbody, hrest⟩
  induction h generalizing body with
  | nil =>
    rcases hlast with rfl | rfl <;> cases hbody <;> simp_all
  | plain hb hs _ ih =>
    cases hbody with
    | nil => exact hb (List.cons.inj hrest).1
    | plain _ _ hbody => exact ih _ hbody (List.cons.inj hrest).2
    | escaped => exact hs (List.cons.inj hrest).1
  | escaped c _ ih =>
    cases hbody with
    | nil => cases hrest
    | plain _ hs => exact hs (List.cons.inj hrest).1.symm
    | escaped _ hbody => exact ih _ hbody (List.cons.inj (List.cons.inj hrest).2).2

end IsOpenName

namespace Lexer

open TableFilter.Parser (bind_eq_ok)

def readTo (position : Nat) (pending : Pending) : List Char → Step
  | [] => .ok ([], pending)
  | c :: rest => do
    let (ended, pending) ← advance position c pending
    let (more, pending) ← readTo (position + c.utf8Size) pending rest
    return (ended ++ more, pending)

variable {position start : Nat} {pending next : Pending} {c : Char} {before cs : List Char}
  {ts ended : List Token} {e : PredicateError}

theorem run_eq_readTo (position : Nat) (tokens : List Token) (pending : Pending) (cs : List Char) :
    run position tokens pending cs = do
      let (ts, next) ← readTo position pending cs
      let ended ← close next
      return tokens.reverse ++ ts ++ ended := by
  induction cs generalizing position tokens pending with
  | nil =>
    cases h : close pending <;> simp [run, readTo, h, bind, Except.bind, pure, Except.pure]
  | cons c rest ih =>
    rw [run, readTo]
    cases advance position c pending with
    | error e => rfl
    | ok r =>
      change run _ (r.1.reverse ++ tokens) r.2 rest = _
      rw [ih]
      simp only [bind, Except.bind, pure, Except.pure]
      cases readTo (position + c.utf8Size) r.2 rest with
      | error e => rfl
      | ok r' => cases h : close r'.2 <;> simp [h]

/-- A text is read by reading its characters one after the other. -/
theorem readTo_concat (position : Nat) (pending : Pending) (cs : List Char) (c : Char) :
    readTo position pending (cs ++ [c]) = do
      let (ts, next) ← readTo position pending cs
      let (ended, last) ← advance (position + utf8Len cs) c next
      return (ts ++ ended, last) := by
  induction cs generalizing position pending with
  | nil =>
    simp only [List.nil_append, readTo, utf8Len_nil, Nat.add_zero, bind, Except.bind, pure,
      Except.pure]
    cases advance position c pending <;> simp
  | cons d cs ih =>
    have hplace : position + d.utf8Size + utf8Len cs = position + utf8Len (d :: cs) := by
      rw [utf8Len_cons]
      omega
    rw [List.cons_append, readTo, readTo]
    simp only [ih, hplace, bind_assoc, pure_bind, List.append_assoc]

theorem bind_eq_error {ε α β : Type} {x : Except ε α} {f : α → Except ε β} {e : ε} :
    (x >>= f) = .error e ↔ x = .error e ∨ ∃ a, x = .ok a ∧ f a = .error e := by
  cases x <;> simp [bind, Except.bind]

theorem lexes_of_readTo (h : readTo 0 .ready before = .ok (ts, next)) (hc : close next = .ok ended) :
    Lexes before (ts ++ ended) := by
  rw [Lexes, Token.ofChars, run_eq_readTo, h]
  simp [bind, Except.bind, hc, pure, Except.pure]

/-- A text that cannot be read goes wrong at one of its characters or at its end. -/
theorem ofChars_eq_error (h : Token.ofChars cs = .error e) : readTo 0 .ready cs = .error e ∨
    ∃ ts next, readTo 0 .ready cs = .ok (ts, next) ∧ close next = .error e := by
  rw [Token.ofChars, run_eq_readTo] at h
  rcases bind_eq_error.mp h with h | ⟨⟨ts, next⟩, hr, h⟩
  · exact .inl h
  · rcases bind_eq_error.mp h with hc | ⟨ended, -, h⟩
    · exact .inr ⟨ts, next, hr, hc⟩
    · cases h

/-- The first character that cannot be read, after a part of the text that can. -/
theorem exists_of_readTo_eq_error (h : readTo position pending cs = .error e) :
    ∃ before c rest ts next, cs = before ++ c :: rest ∧
      readTo position pending before = .ok (ts, next) ∧
      advance (position + utf8Len before) c next = .error e := by
  induction cs using List.reverseRecOn with
  | nil => cases h
  | append_singleton cs d ih =>
    rw [readTo_concat] at h
    rcases bind_eq_error.mp h with h | ⟨⟨ts, next⟩, hr, h⟩
    · obtain ⟨before, c, rest, ts, next, rfl, hbefore, hc⟩ := ih h
      exact ⟨before, c, rest ++ [d], ts, next, by simp, hbefore, hc⟩
    · rcases bind_eq_error.mp h with ha | ⟨r, -, h⟩
      · exact ⟨cs, d, [], ts, next, rfl, hr, ha⟩
      · cases h

def Begun (before : List Char) (start : Nat) (part : List Char) : Prop :=
  ∃ head ts, before = head ++ part ∧ utf8Len head = start ∧ Lexes head ts

theorem Begun.append {part : List Char} (h : Begun before start part) (more : List Char) :
    Begun (before ++ more) start (part ++ more) := by
  obtain ⟨head, ts, rfl, hstart, hlex⟩ := h
  exact ⟨head, ts, List.append_assoc _ _ _, hstart, hlex⟩

theorem begun_of_lexes (h : Lexes before ts) (c : Char) :
    Begun (before ++ [c]) (utf8Len before) [c] :=
  ⟨before, ts, rfl, rfl, h⟩

/-- What was read last is what is pending, as it is written. -/
def Pending.EndsText (before : List Char) : Pending → Prop
  | .column start _ => ∃ name, IsOpenName name ∧ Begun before start ('[' :: name)
  | .escape start _ => ∃ name, IsOpenName name ∧ Begun before start ('[' :: (name ++ ['\\']))
  | .string start text => Begun before start ('\'' :: Literal.doubleQuotes text.reverse)
  | .quote start text =>
    Begun before start ('\'' :: (Literal.doubleQuotes text.reverse ++ ['\'']))
  | .date start body => '#' ∉ body ∧ Begun before start ('#' :: body.reverse)
  | .number start digits => digits ≠ [] ∧ Begun before start digits.reverse
  | .ready | .less | .greater | .word _ => True

theorem endsText_begin (hb : Lexes before ts)
    (h : begin (utf8Len before) c = .ok (ended, next)) : next.EndsText (before ++ [c]) := by
  have hbegun := begun_of_lexes hb c
  cases begins_of_begin h with
  | ready | less | greater | word => trivial
  | column hc => exact ⟨[], .nil, hc ▸ hbegun⟩
  | string hc => exact hc ▸ hbegun
  | date hc => exact ⟨List.not_mem_nil, hc ▸ hbegun⟩
  | number => exact ⟨List.cons_ne_nil _ _, hbegun⟩

theorem endsText_absorb? (hp : pending.EndsText before)
    (h : absorb? c pending = some (.ok (ended, next))) : next.EndsText (before ++ [c]) := by
  cases continues_of_absorb? h with
  | done | word => trivial
  | column hb hs =>
    obtain ⟨body, hopen, hbegun⟩ := hp
    exact ⟨body ++ [c], hopen.append (.plain hb hs .nil), hbegun.append [c]⟩
  | escape hs =>
    obtain ⟨body, hopen, hbegun⟩ := hp
    exact ⟨body, hopen, hs ▸ hbegun.append ['\\']⟩
  | escaped =>
    obtain ⟨body, hopen, hbegun⟩ := hp
    refine ⟨body ++ ['\\', c], hopen.append (.escaped c .nil), ?_⟩
    simpa using hbegun.append [c]
  | string hc =>
    rw [Pending.EndsText, List.reverse_cons, Literal.doubleQuotes_append,
      Literal.doubleQuotes_cons hc]
    exact Begun.append hp [c]
  | quote hc => exact hc ▸ Begun.append hp ['\'']
  | doubled hc =>
    rw [Pending.EndsText, List.reverse_cons, Literal.doubleQuotes_append, hc]
    simpa [Literal.doubleQuotes] using Begun.append hp ['\'']
  | date hc =>
    obtain ⟨hbody, hbegun⟩ := hp
    refine ⟨by simp [hbody, Ne.symm hc], ?_⟩
    simpa using hbegun.append [c]
  | number =>
    refine ⟨List.cons_ne_nil _ _, ?_⟩
    simpa using hp.2.append [c]

/-- What is pending was begun at its place, however far the text has been read. -/
theorem endsText_of_readTo (h : readTo 0 .ready before = .ok (ts, next)) : next.EndsText before := by
  induction before using List.reverseRecOn generalizing ts next with
  | nil =>
    cases h
    trivial
  | append_singleton before c ih =>
    rw [readTo_concat, Nat.zero_add] at h
    obtain ⟨⟨ts, pending⟩, hr, h⟩ := bind_eq_ok.mp h
    obtain ⟨⟨ended, next⟩, ha, h⟩ := bind_eq_ok.mp h
    cases h
    unfold advance at ha
    split at ha
    case h_1 step habsorb =>
      rw [ha] at habsorb
      exact endsText_absorb? (ih hr) habsorb
    case h_2 =>
      -- What was pending ends here, so that all before this place can be read.
      obtain ⟨ended, hclose, ha⟩ := bind_eq_ok.mp ha
      obtain ⟨⟨begun, next⟩, hbegin, ha⟩ := bind_eq_ok.mp ha
      cases ha
      exact endsText_begin (lexes_of_readTo hr hclose) hbegin

end Lexer

structure IsCut (s : String) (position : Nat) (rest : List Char) : Prop where
  isValid : String.Pos.Raw.IsValid s ⟨position⟩
  split : ∃ before ts, s = before ++ String.ofList rest ∧ before.utf8ByteSize = position ∧
    Lexes before.toList ts

def PredicateError.PointsInto (s : String) : PredicateError → Prop
  | unexpectedCharacter c position =>
    (∃ rest, IsCut s position (c :: rest)) ∧ ∀ rest ts, ¬ Lexes (c :: rest) ts
  | unterminatedString position =>
    ∃ rest, IsCut s position ('\'' :: rest) ∧ ¬ ClosesString rest
  | unterminatedColumn position => ∃ rest, IsCut s position ('[' :: rest) ∧ ¬ ClosesColumn rest
  | unterminatedDate position => ∃ rest, IsCut s position ('#' :: rest) ∧ '#' ∉ rest
  | invalidNumber text => text ≠ "" ∧ ∃ start stop rest, IsCut s start (text.toList ++ rest) ∧
      IsSlice s start stop text
  | invalidDate text =>
    '#' ∉ text.toList ∧ ∃ position rest, IsCut s position ('#' :: (text.toList ++ '#' :: rest))
  | unexpectedToken token => token = "[]"
  | _ => False

namespace Lexer

variable {position start : Nat} {pending next : Pending} {c : Char} {before part rest : List Char}
  {digits : List Char} {ts : List Token} {e : PredicateError} {s : String}

theorem isCut_of_lexes (hs : s.toList = before ++ rest) (h : Lexes before ts) :
    IsCut s (utf8Len before) rest := by
  refine ⟨isValid_utf8Len hs, .ofList before, ts, ?_, String.utf8ByteSize_ofList before, ?_⟩
  · rw [← String.ofList_append, ← hs, String.ofList_toList]
  · rwa [String.toList_ofList]

theorem Begun.isCut (h : Begun before start part) (hs : s.toList = before ++ rest) :
    IsCut s start (part ++ rest) := by
  obtain ⟨head, ts, rfl, rfl, hlex⟩ := h
  exact isCut_of_lexes (by rw [hs, List.append_assoc]) hlex

theorem Begun.isSlice (h : Begun before start part) (hs : s.toList = before ++ rest) :
    IsSlice s start (utf8Len before) (String.ofList part) := by
  obtain ⟨head, ts, rfl, rfl, -⟩ := h
  exact isSlice_of_toList hs

/-- A character that begins nothing at one place begins nothing anywhere. -/
theorem not_lexes_of_begin (h : begin position c = .error e) (rest : List Char) (ts : List Token) :
    ¬ Lexes (c :: rest) ts := by
  have hbegin : (begin 0 c).toOption = none := by
    rw [begin_unplaced position, h]
    rfl
  rw [Lexes.iff_scan, scan_cons, step?, advance_toOption 0 rfl, hbegin]
  simp [close, Except.toOption]

theorem eq_unexpectedCharacter_of_begin (h : begin position c = .error e) :
    e = .unexpectedCharacter c position := by
  unfold begin at h
  split at h
  case isTrue => cases h
  case isFalse =>
    split at h
    case h_10 =>
      split at h
      · cases h
      · split at h
        · cases h
        · exact (Except.error.inj h).symm
    all_goals cases h

theorem map_eq_error {ε α β : Type} {x : Except ε α} {f : α → β} {e : ε} :
    x.map f = .error e ↔ x = .error e := by
  cases x <;> simp [Except.map]

theorem eq_invalidNumber (h : numberToken digits = .error e) :
    e = .invalidNumber (collected digits) := by
  unfold numberToken at h
  split at h
  · cases h
  · exact (Except.error.inj h).symm

theorem eq_invalidDate {body : List Char} (h : dateToken body = .error e) :
    e = .invalidDate (collected body) := by
  unfold dateToken at h
  split at h
  · cases h
  · exact (Except.error.inj h).symm

theorem eq_unexpectedToken {name : List Char} (h : columnToken name = .error e) :
    e = .unexpectedToken "[]" := by
  unfold columnToken at h
  split at h
  · exact (Except.error.inj h).symm
  · cases h

/-- A number that cannot be read is named as it stands in the text. -/
theorem pointsInto_of_number (hs : s.toList = before ++ rest)
    (hp : (Pending.number start digits).EndsText before)
    (h : close (.number start digits) = .error e) : e.PointsInto s := by
  obtain ⟨hne, hbegun⟩ := hp
  have htext : collected digits ≠ "" := by simpa [collected] using hne
  rw [eq_invalidNumber (map_eq_error.mp h)]
  refine ⟨htext, start, utf8Len before, rest, ?_, hbegun.isSlice hs⟩
  rw [collected, String.toList_ofList]
  exact hbegun.isCut hs

/-- What cannot be ended at the end of the text is not closed by the rest of it. -/
theorem pointsInto_of_close (hp : pending.EndsText s.toList) (h : close pending = .error e) :
    e.PointsInto s := by
  have hs : s.toList = s.toList ++ [] := (List.append_nil _).symm
  have hcut {start : Nat} {part : List Char} (hbegun : Begun s.toList start part) :
      IsCut s start part := by
    rw [← List.append_nil part]
    exact hbegun.isCut hs
  cases pending with
  | column start name =>
    obtain ⟨body, hopen, hbegun⟩ := hp
    cases h
    refine ⟨body, hcut hbegun, ?_⟩
    rw [← List.append_nil body]
    exact hopen.not_closesColumn_append (.inl rfl)
  | escape start name =>
    obtain ⟨body, hopen, hbegun⟩ := hp
    cases h
    exact ⟨_, hcut hbegun, hopen.not_closesColumn_append (.inr rfl)⟩
  | string start text =>
    cases h
    exact ⟨_, hcut hp, not_closesString_doubleQuotes _⟩
  | date start body =>
    obtain ⟨hbody, hbegun⟩ := hp
    cases h
    exact ⟨_, hcut hbegun, by simpa using hbody⟩
  | number start digits => exact pointsInto_of_number hs hp h
  | _ => cases h

/-- A literal that is closed may still stand for nothing. -/
theorem pointsInto_of_absorb? (hs : s.toList = before ++ c :: rest) (hp : pending.EndsText before)
    (h : absorb? c pending = some (.error e)) : e.PointsInto s := by
  cases pending with
  | column start name =>
    simp only [absorb?] at h
    split_ifs at h
    · cases h
    · rw [eq_unexpectedToken (map_eq_error.mp (Option.some.inj h))]
      rfl
    · cases h
  | date start body =>
    obtain ⟨hbody, hbegun⟩ := hp
    simp only [absorb?] at h
    split_ifs at h with hend
    · rw [eq_invalidDate (map_eq_error.mp (Option.some.inj h))]
      subst hend
      refine ⟨by simpa [collected] using hbody, start, rest, ?_⟩
      rw [collected, String.toList_ofList]
      exact hbegun.isCut hs
    · cases h
  | ready | escape => cases h
  | _ =>
    simp only [absorb?] at h
    split_ifs at h <;> cases h

/-- Only a number can turn out to be wrong where it ends. -/
theorem pointsInto_of_end (hs : s.toList = before ++ rest) (hp : pending.EndsText before)
    (ha : absorb? c pending = none) (h : close pending = .error e) : e.PointsInto s := by
  cases pending with
  | number start digits => exact pointsInto_of_number hs hp h
  | column start name =>
    simp only [absorb?] at ha
    split_ifs at ha
  | string start text =>
    simp only [absorb?] at ha
    split_ifs at ha
  | date start body =>
    simp only [absorb?] at ha
    split_ifs at ha
  | escape => cases ha
  | _ => cases h

theorem pointsInto_of_ofChars (h : Token.ofChars s.toList = .error e) : e.PointsInto s := by
  rcases ofChars_eq_error h with h | ⟨ts, next, hr, hclose⟩
  · obtain ⟨before, c, rest, ts, next, hs, hr, ha⟩ := exists_of_readTo_eq_error h
    have hends := endsText_of_readTo hr
    unfold advance at ha
    split at ha
    case h_1 step habsorb =>
      rw [ha] at habsorb
      exact pointsInto_of_absorb? hs hends habsorb
    case h_2 habsorb =>
      rcases bind_eq_error.mp ha with hclose | ⟨ended, hclose, ha⟩
      · exact pointsInto_of_end hs hends habsorb hclose
      · rcases bind_eq_error.mp ha with hbegin | ⟨r, -, ha⟩
        · rw [Nat.zero_add] at hbegin
          rw [eq_unexpectedCharacter_of_begin hbegin]
          exact ⟨⟨rest, isCut_of_lexes hs (lexes_of_readTo hr hclose)⟩, not_lexes_of_begin hbegin⟩
        · cases ha
  · exact pointsInto_of_close (endsText_of_readTo hr) hclose

theorem isSlice_of_readTo {head tail : String} (hs : s = head ++ tail)
    (h : readTo 0 .ready head.toList = .ok (ts, .number start digits)) :
    collected digits ≠ "" ∧ IsSlice s start head.utf8ByteSize (collected digits) := by
  obtain ⟨hne, hbegun⟩ := endsText_of_readTo h
  have hlist : s.toList = head.toList ++ tail.toList := by rw [hs, String.toList_append]
  have hsize : utf8Len head.toList = head.utf8ByteSize := by
    rw [← String.utf8ByteSize_ofList, String.ofList_toList]
  refine ⟨by simpa [collected] using hne, ?_⟩
  rw [← hsize]
  exact hbegun.isSlice hlist

end Lexer

open Lexer in
/-- If a text cannot be read, then the error names a place between two of its characters, before
which all of it is tokens, and at which stands the character or the literal that the error is
about: the character begins no token, and the rest of the text does not close the literal. Wherever
a number is being read, it is the text from the place where it was begun to the place that was
reached, and this is what is read as a number in the end. -/
theorem errors_point_at_cause (s : String) :
    (∀ e, Token.ofChars s.toList = .error e → e.PointsInto s) ∧
    ∀ before rest ts start digits, s = before ++ rest →
      readTo 0 .ready before.toList = .ok (ts, .number start digits) →
      collected digits ≠ "" ∧ IsSlice s start before.utf8ByteSize (collected digits) :=
  ⟨fun _ => pointsInto_of_ofChars, fun _ _ _ _ _ => isSlice_of_readTo⟩

open Lexer in
/-- A question mark behind a number, in a text that has a character of two bytes. -/
theorem errors_point_at_cause_question_mark :
    Token.ofChars "[é] >= -12?".toList = .error (.unexpectedCharacter '?' 11) ∧
      (PredicateError.unexpectedCharacter '?' 11).PointsInto "[é] >= -12?" ∧
      readTo 0 .ready "[é] >= -12".toList =
        .ok ([.column "é", .compare .ge], .number 8 ['2', '1', '-']) ∧
      IsSlice "[é] >= -12?" 8 11 "-12" := by
  have h := errors_point_at_cause "[é] >= -12?"
  exact ⟨rfl, h.1 _ rfl, rfl, (h.2 "[é] >= -12" "?" _ _ _ rfl rfl).2⟩

end TableFilter
