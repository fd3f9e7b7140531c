import TableFilter.Predicate.Compose
import TableFilter.Proofs.Predicate.Grammar
import TableFilter.Proofs.Predicate.Literals

/-!
# Texts that are read as expressions

`Reads r s e` says that a trimmed text has tokens from which the grammar derives the expression `e`
by the rule `r`. Texts are put together as their expressions are: each way in which filters write a
predicate out of smaller texts has a lemma here. Reading a predicate succeeds exactly when its
trimmed text reads as a disjunction.
-/

namespace TableFilter

open Text TableFilter.Parser

namespace Text

theorem toList_trim (s : String) : (trim s).toList = trimChars s.toList := by
  rw [trim, String.toList_ofList]

theorem trim_eq_self {s : String} (h : IsTrimmed s.toList) : trim s = s := by
  rw [trim, h.trimChars_eq, String.ofList_toList]

theorem isTrimmed_trim (s : String) : IsTrimmed (trim s).toList := by
  rw [toList_trim]
  exact isTrimmed_trimChars s.toList

theorem trim_trim (s : String) : trim (trim s) = trim s := trim_eq_self (isTrimmed_trim s)

end Text

structure Reads (r : Rule) (s : String) (e : Expr) : Prop where
  trimmed : IsTrimmed s.toList
  derived : ∃ ts, Lexes s.toList ts ∧ Derives r ts e

namespace Reads

variable {r : Rule} {s l m : String} {e f g : Expr}

theorem toList_ne_nil (h : Reads r s e) : s.toList ≠ [] := by
  obtain ⟨ts, hl, hd⟩ := h.derived
  intro hs
  rw [hs] at hl
  have hts : ts = [] := (Except.ok.inj hl).symm
  have hpos := length_pos_of_derives hd
  simp [hts] at hpos

theorem ne_empty (h : Reads r s e) : s ≠ "" := by
  rintro rfl
  exact h.toList_ne_nil rfl

theorem mono {r' : Rule} (h : Reads r s e) (hr : ∀ ts, Derives r ts e → Derives r' ts e) :
    Reads r' s e := by
  obtain ⟨ts, hl, hd⟩ := h.derived
  exact ⟨h.trimmed, ts, hl, hr ts hd⟩

theorem comparison_of_operand (h : Reads .operand s e) : Reads .comparison s e :=
  h.mono fun _ => .ofOperand

theorem negation_of_comparison (h : Reads .comparison s e) : Reads .negation s e :=
  h.mono fun _ => .ofComparison

theorem conjunction_of_negation (h : Reads .negation s e) : Reads .conjunction s e :=
  h.mono fun _ => .ofNegation

theorem disjunction_of_conjunction (h : Reads .conjunction s e) : Reads .disjunction s e :=
  h.mono fun _ => .ofConjunction

theorem disjunction_of_comparison (h : Reads .comparison s e) : Reads .disjunction s e :=
  h.negation_of_comparison.conjunction_of_negation.disjunction_of_conjunction

theorem disjunction_of_operand (h : Reads .operand s e) : Reads .disjunction s e :=
  h.comparison_of_operand.disjunction_of_comparison

theorem columnRef {name : String} (h : name ≠ "") :
    Reads .operand (Literal.columnRef name) (.column name) := by
  refine ⟨?_, [.column name], Lexes.columnRef h, .column name⟩
  rw [Literal.columnRef, String.toList_ofList]
  exact .enclosed rfl rfl _

theorem quote (s : String) : Reads .operand (Literal.quote s) (.literal (.text s)) := by
  refine ⟨?_, [.text s], Lexes.quote s, .literal rfl⟩
  rw [Literal.quote, String.toList_ofList]
  exact .enclosed rfl rfl _

theorem number (d : Decimal) :
    Reads .operand (Literal.number d) (.literal (.number d.restored)) := by
  refine ⟨?_, [.number d.restored], Lexes.number d, .literal rfl⟩
  rw [Literal.number, Decimal.text, String.toList_ofList]
  exact .of_forall fun _ h => d.isBlank_of_mem_toChars h

theorem date (d : Date) : Reads .operand (Literal.date d) (.literal (.date d)) := by
  refine ⟨?_, [.date d], Lexes.date d, .literal rfl⟩
  rw [Literal.date, String.toList_ofList]
  exact .enclosed rfl rfl _

theorem boolText (b : Bool) : Reads .operand (Value.boolText b) (.literal (.bool b)) := by
  refine ⟨?_, [.truth b], Lexes.boolText b, .literal rfl⟩
  cases b <;> exact .of_ends rfl rfl rfl rfl

theorem inParentheses (h : Reads .disjunction s e) :
    Reads .operand (Predicate.inParentheses s) e := by
  obtain ⟨ts, hl, hd⟩ := h.derived
  have hs : (Predicate.inParentheses s).toList = '(' :: (s.toList ++ [')']) := by
    simp [Predicate.inParentheses]
  have hlex := (hl.append (c := ')') rfl Lexes.nil.closeParen).openParen
  rw [← hs] at hlex
  refine ⟨?_, _, hlex, .group hd⟩
  rw [hs]
  exact .enclosed rfl rfl _

/-- The operand as text. -/
theorem asText (h : Reads .disjunction s e) :
    Reads .operand (Literal.asText s) (.convert e .text) := by
  obtain ⟨ts, hl, hd⟩ := h.derived
  have hs : (Literal.asText s).toList =
      "Convert".toList ++ '(' ::
        (s.toList ++ ',' :: ' ' :: ("'System.String'".toList ++ [')'])) := by
    simp [Literal.asText]
  have hend : Lexes ("'System.String'".toList ++ [')']) [.text "System.String", .closeParen] := rfl
  have hword : Lexes "Convert".toList [.word "Convert"] := rfl
  have hlex := hword.append (c := '(') rfl (hl.append (c := ',') rfl hend.blank.comma).openParen
  rw [← hs] at hlex
  refine ⟨?_, _, hlex, .convert rfl (.inl rfl) rfl hd⟩
  exact .of_ends (c := 'C') (d := ')') (by simp [hs]) rfl (by simp [hs, List.getLast?_cons]) rfl

/-- The operand with a text in the place of null. -/
theorem ifNull (h : Reads .disjunction l e) (h' : Reads .disjunction m f) :
    Reads .operand ("IsNull(" ++ l ++ ", " ++ m ++ ")") (.ifNull e f) := by
  obtain ⟨ts, hl, hd⟩ := h.derived
  obtain ⟨us, hl', hd'⟩ := h'.derived
  have hs : ("IsNull(" ++ l ++ ", " ++ m ++ ")").toList =
      "IsNull".toList ++ '(' :: (l.toList ++ ',' :: ' ' :: (m.toList ++ [')'])) := by
    simp
  have hend := hl'.append (c := ')') rfl Lexes.nil.closeParen
  have hword : Lexes "IsNull".toList [.word "IsNull"] := rfl
  have hlex := hword.append (c := '(') rfl (hl.append (c := ',') rfl hend.blank.comma).openParen
  rw [← hs] at hlex
  refine ⟨?_, _, hlex, .ifNull rfl hd hd'⟩
  exact .of_ends (c := 'I') (d := ')') (by simp) rfl (by simp [List.getLast?_cons]) rfl

theorem binary {r r' r'' : Rule} {word : String} {t : Token} (ht : Lexes word.toList [t])
    (hr : ∀ ts us, Derives r ts e → Derives r' us f → Derives r'' (ts ++ t :: us) g)
    (h : Reads r l e) (h' : Reads r' m f) :
    Reads r'' (l ++ (" " ++ word ++ " ") ++ m) g := by
  obtain ⟨ts, hl, hd⟩ := h.derived
  obtain ⟨us, hl', hd'⟩ := h'.derived
  have hs : (l ++ (" " ++ word ++ " ") ++ m).toList =
      l.toList ++ ' ' :: (word.toList ++ ' ' :: m.toList) := by
    simp
  have hlex := hl.append (c := ' ') rfl (ht.append (c := ' ') rfl hl'.blank).blank
  rw [← hs] at hlex
  refine ⟨?_, _, hlex, hr ts us hd hd'⟩
  rw [String.toList_append, String.toList_append]
  exact h.trimmed.around h.toList_ne_nil h'.trimmed h'.toList_ne_nil _

theorem compare (op : Comparison) (h : Reads .operand l e) (h' : Reads .operand m f) :
    Reads .comparison (Literal.compare l op m) (.compare op e f) := by
  have hb := binary (Lexes.symbol op) (fun _ _ => .compare op) h h'
  simpa only [Literal.compare, String.append_assoc] using hb

theorem equal (h : Reads .operand l e) (h' : Reads .operand m f) :
    Reads .comparison (l ++ " = " ++ m) (.compare .eq e f) :=
  binary (Lexes.symbol .eq) (fun _ _ => .compare .eq) h h'

theorem unequal (h : Reads .operand l e) (h' : Reads .operand m f) :
    Reads .comparison (l ++ " <> " ++ m) (.compare .ne e f) :=
  binary (Lexes.symbol .ne) (fun _ _ => .compare .ne) h h'

theorem like (h : Reads .operand l e) (h' : Reads .operand m f) :
    Reads .comparison (l ++ " LIKE " ++ m) (.like e f) :=
  binary (show Lexes "LIKE".toList [.like] from rfl) (fun _ _ => .like) h h'

theorem and (h : Reads .conjunction l e) (h' : Reads .negation m f) :
    Reads .conjunction (l ++ Connective.and.joiner ++ m) (.join .and e f) :=
  binary (Lexes.connective .and) (fun _ _ => .and) h h'

theorem or (h : Reads .disjunction l e) (h' : Reads .conjunction m f) :
    Reads .disjunction (l ++ Connective.or.joiner ++ m) (.join .or e f) :=
  binary (Lexes.connective .or) (fun _ _ => .or) h h'

end Reads

namespace Expr

/-- Reading a predicate succeeds if its trimmed text reads as a disjunction, and only then. -/
theorem ofText_eq_ok {s : String} {e : Expr} :
    ofText s = .ok e ↔ Reads .disjunction (trim s) e := by
  have hs := toList_trim s
  constructor
  · intro h
    unfold ofText at h
    split at h
    case h_1 => cases h
    case h_2 =>
      obtain ⟨ts, hl, hd⟩ := bind_eq_ok.mp h
      rw [← hs] at hl
      exact ⟨isTrimmed_trim s, ts, hl, ofTokens_eq_ok.mp hd⟩
  · intro h
    obtain ⟨ts, hl, hd⟩ := h.derived
    have hne := h.toList_ne_nil
    rw [hs] at hl hne
    unfold ofText
    split
    case h_1 heq => exact absurd heq hne
    case h_2 => exact bind_eq_ok.mpr ⟨ts, hl, ofTokens_eq_ok.mpr hd⟩

theorem ofText_of_reads {s : String} {e : Expr} (h : Reads .disjunction s e) :
    ofText s = .ok e := by
  rw [ofText_eq_ok, trim_eq_self h.trimmed]
  exact h

end Expr
end TableFilter
