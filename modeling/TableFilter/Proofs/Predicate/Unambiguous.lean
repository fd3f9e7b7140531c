import TableFilter.Proofs.Predicate.ParseTree

/-!
# The grammar is unambiguous

A phrase in front of something that cannot continue it is told from all other phrases of its kind,
and so is the place where it ends. This passes from the parts of a phrase to the phrase, whatever
the rule, so that no list of tokens has two parse trees. A text is read exactly when its tokens have
a tree, as the expression that the tree forms.
-/

namespace TableFilter

namespace Parser

theorem IsLiteral.unique {t : Token} {v v' : Value} (h : IsLiteral t v) (h' : IsLiteral t v') :
    v = v' := by
  cases h <;> cases h' <;> rfl

theorem NamesType.unique {t : Token} {kind kind' : ValueKind} (h : NamesType t kind)
    (h' : NamesType t kind') : kind = kind' := by
  obtain ⟨name, ht, hkind⟩ := h
  obtain ⟨name', ht', hkind'⟩ := h'
  have hname : name = name' := by
    rcases ht with rfl | rfl <;> simpa using ht'
  rw [← kindOfTypeName?_eq_some] at hkind hkind'
  rw [← hname, hkind] at hkind'
  exact Option.some.inj hkind'

def Nonterminal.ending : Nonterminal → Rule
  | .disjunction | .moreDisjuncts => .disjunction
  | .conjunction | .moreConjuncts => .conjunction
  | .negation | .comparison => .comparison
  | .operand => .operand

namespace ParseTree

section Ends

variable {rest rest' : List Token}

theorem ends_moreDisjuncts (more : ParseTree .moreDisjuncts) (h : Rule.disjunction.ends rest) :
    Rule.conjunction.ends (more.tokens ++ rest) := by
  cases more with
  | noDisjunct => exact Rule.conjunction_ends h
  | or => rfl

theorem ends_moreConjuncts (more : ParseTree .moreConjuncts) (h : Rule.conjunction.ends rest) :
    Rule.comparison.ends (more.tokens ++ rest) := by
  cases more with
  | noConjunct => exact Rule.comparison_ends h
  | and => rfl

theorem operand_ne_not (t : ParseTree .operand) : t.tokens ++ rest ≠ .not :: rest' := by
  cases t with
  | literal token v h => cases h <;> simp [tokens]
  | _ => simp [tokens]

theorem comparison_ne_not (t : ParseTree .comparison) : t.tokens ++ rest ≠ .not :: rest' := by
  cases t with
  | ofOperand t => exact t.operand_ne_not
  | compare op left right =>
    rw [tokens, List.append_assoc]
    exact left.operand_ne_not
  | like t pattern =>
    rw [tokens, List.append_assoc]
    exact t.operand_ne_not

end Ends

/-- The tokens tell the phrase and the place where it ends, provided that what follows cannot
continue it. -/
def Determined {n : Nonterminal} (t : ParseTree n) : Prop :=
  ∀ (u : ParseTree n) (rest rest' : List Token), n.ending.ends rest → n.ending.ends rest' →
    t.tokens ++ rest = u.tokens ++ rest' → t = u ∧ rest = rest'

section Determined

theorem Determined.disjunction {first : ParseTree .conjunction} {more : ParseTree .moreDisjuncts}
    (h : first.Determined) (h' : more.Determined) :
    (ParseTree.disjunction first more).Determined := by
  intro u rest rest' hrest hrest' heq
  cases u with
  | disjunction first' more' =>
    rw [tokens, tokens, List.append_assoc, List.append_assoc] at heq
    obtain ⟨rfl, hmore⟩ :=
      h _ _ _ (more.ends_moreDisjuncts hrest) (more'.ends_moreDisjuncts hrest') heq
    obtain ⟨rfl, rfl⟩ := h' _ _ _ hrest hrest' hmore
    exact ⟨rfl, rfl⟩

theorem Determined.noDisjunct : noDisjunct.Determined := by
  intro u rest rest' hrest hrest' heq
  cases u with
  | noDisjunct => exact ⟨rfl, heq⟩
  | or next more =>
    simp only [tokens, List.nil_append] at heq
    subst heq
    cases hrest

theorem Determined.or {next : ParseTree .conjunction} {more : ParseTree .moreDisjuncts}
    (h : next.Determined) (h' : more.Determined) : (ParseTree.or next more).Determined := by
  intro u rest rest' hrest hrest' heq
  cases u with
  | noDisjunct =>
    simp only [tokens, List.nil_append] at heq
    subst heq
    cases hrest'
  | or next' more' =>
    simp only [tokens, List.cons_append, List.append_assoc] at heq
    obtain ⟨rfl, hmore⟩ := h _ _ _ (more.ends_moreDisjuncts hrest)
      (more'.ends_moreDisjuncts hrest') (List.cons.inj heq).2
    obtain ⟨rfl, rfl⟩ := h' _ _ _ hrest hrest' hmore
    exact ⟨rfl, rfl⟩

theorem Determined.conjunction {first : ParseTree .negation} {more : ParseTree .moreConjuncts}
    (h : first.Determined) (h' : more.Determined) :
    (ParseTree.conjunction first more).Determined := by
  intro u rest rest' hrest hrest' heq
  cases u with
  | conjunction first' more' =>
    rw [tokens, tokens, List.append_assoc, List.append_assoc] at heq
    obtain ⟨rfl, hmore⟩ :=
      h _ _ _ (more.ends_moreConjuncts hrest) (more'.ends_moreConjuncts hrest') heq
    obtain ⟨rfl, rfl⟩ := h' _ _ _ hrest hrest' hmore
    exact ⟨rfl, rfl⟩

theorem Determined.noConjunct : noConjunct.Determined := by
  intro u rest rest' hrest hrest' heq
  cases u with
  | noConjunct => exact ⟨rfl, heq⟩
  | and next more =>
    simp only [tokens, List.nil_append] at heq
    subst heq
    cases hrest

theorem Determined.and {next : ParseTree .negation} {more : ParseTree .moreConjuncts}
    (h : next.Determined) (h' : more.Determined) : (ParseTree.and next more).Determined := by
  intro u rest rest' hrest hrest' heq
  cases u with
  | noConjunct =>
    simp only [tokens, List.nil_append] at heq
    subst heq
    cases hrest'
  | and next' more' =>
    simp only [tokens, List.cons_append, List.append_assoc] at heq
    obtain ⟨rfl, hmore⟩ := h _ _ _ (more.ends_moreConjuncts hrest)
      (more'.ends_moreConjuncts hrest') (List.cons.inj heq).2
    obtain ⟨rfl, rfl⟩ := h' _ _ _ hrest hrest' hmore
    exact ⟨rfl, rfl⟩

theorem Determined.not {t : ParseTree .negation} (h : t.Determined) :
    (ParseTree.not t).Determined := by
  intro u rest rest' hrest hrest' heq
  cases u with
  | not u =>
    obtain ⟨rfl, rfl⟩ := h _ _ _ hrest hrest' (List.cons.inj heq).2
    exact ⟨rfl, rfl⟩
  | ofComparison u => exact absurd heq.symm u.comparison_ne_not

theorem Determined.ofComparison {t : ParseTree .comparison} (h : t.Determined) :
    (ParseTree.ofComparison t).Determined := by
  intro u rest rest' hrest hrest' heq
  cases u with
  | not u => exact absurd heq t.comparison_ne_not
  | ofComparison u =>
    obtain ⟨rfl, rfl⟩ := h _ _ _ hrest hrest' heq
    exact ⟨rfl, rfl⟩

/-! The first operand of a comparison ends in front of the operator, or where the comparison ends if
there is none. -/

theorem Determined.ofOperand {t : ParseTree .operand} (h : t.Determined) :
    (ParseTree.ofOperand t).Determined := by
  intro u rest rest' hrest hrest' heq
  cases u with
  | ofOperand u =>
    obtain ⟨rfl, rfl⟩ := h _ _ _ (Rule.operand_ends hrest) (Rule.operand_ends hrest') heq
    exact ⟨rfl, rfl⟩
  | compare | like =>
    rw [tokens, tokens, List.append_assoc] at heq
    obtain ⟨-, rfl⟩ := h _ _ _ (Rule.operand_ends hrest) rfl heq
    cases hrest

theorem Determined.compare (op : Comparison) {left right : ParseTree .operand}
    (h : left.Determined) (h' : right.Determined) :
    (ParseTree.compare op left right).Determined := by
  intro u rest rest' hrest hrest' heq
  rw [tokens, List.append_assoc] at heq
  cases u with
  | ofOperand u =>
    obtain ⟨-, rfl⟩ := h _ _ _ rfl (Rule.operand_ends hrest') heq
    cases hrest'
  | compare op' left' right' =>
    rw [tokens, List.append_assoc] at heq
    obtain ⟨rfl, hright⟩ := h _ _ _ rfl rfl heq
    obtain ⟨hop, hright⟩ := List.cons.inj hright
    obtain ⟨rfl, rfl⟩ := h' _ _ _ (Rule.operand_ends hrest) (Rule.operand_ends hrest') hright
    rw [Token.compare.inj hop]
    exact ⟨rfl, rfl⟩
  | like =>
    rw [tokens, List.append_assoc] at heq
    obtain ⟨-, hright⟩ := h _ _ _ rfl rfl heq
    cases hright

theorem Determined.like {t pattern : ParseTree .operand} (h : t.Determined)
    (h' : pattern.Determined) : (ParseTree.like t pattern).Determined := by
  intro u rest rest' hrest hrest' heq
  rw [tokens, List.append_assoc] at heq
  cases u with
  | ofOperand u =>
    obtain ⟨-, rfl⟩ := h _ _ _ rfl (Rule.operand_ends hrest') heq
    cases hrest'
  | compare =>
    rw [tokens, List.append_assoc] at heq
    obtain ⟨-, hright⟩ := h _ _ _ rfl rfl heq
    cases hright
  | like t' pattern' =>
    rw [tokens, List.append_assoc] at heq
    obtain ⟨rfl, hpattern⟩ := h _ _ _ rfl rfl heq
    obtain ⟨rfl, rfl⟩ := h' _ _ _ (Rule.operand_ends hrest) (Rule.operand_ends hrest')
      (List.cons.inj hpattern).2
    exact ⟨rfl, rfl⟩

/-! The first token of an operand tells the rule, but for a word, which may be the name of a column
or of a function. -/

theorem Determined.literal {token : Token} {v : Value} (hv : IsLiteral token v) :
    (ParseTree.literal token v hv).Determined := by
  intro u rest rest' hrest hrest' heq
  cases u with
  | literal token' v' hv' =>
    obtain ⟨rfl, rfl⟩ := List.cons.inj heq
    cases hv.unique hv'
    exact ⟨rfl, rfl⟩
  | _ => cases hv <;> cases heq

theorem Determined.column (name : String) : (ParseTree.column name).Determined := by
  intro u rest rest' hrest hrest' heq
  cases u with
  | literal _ _ hv => cases hv <;> cases heq
  | column name' =>
    obtain ⟨hname, rfl⟩ := List.cons.inj heq
    cases hname
    exact ⟨rfl, rfl⟩
  | _ => cases heq

theorem Determined.word (name : String) : (ParseTree.word name).Determined := by
  intro u rest rest' hrest hrest' heq
  cases u with
  | literal _ _ hv => cases hv <;> cases heq
  | word name' =>
    obtain ⟨hname, rfl⟩ := List.cons.inj heq
    cases hname
    exact ⟨rfl, rfl⟩
  -- A word in front of a parenthesis is the name of a function.
  | convert | ifNull =>
    simp only [tokens, List.cons_append, List.nil_append, List.cons.injEq] at heq
    obtain ⟨-, rfl⟩ := heq
    cases hrest
  | _ => cases heq

theorem Determined.group {t : ParseTree .disjunction} (h : t.Determined) :
    (ParseTree.group t).Determined := by
  intro u rest rest' hrest hrest' heq
  cases u with
  | literal _ _ hv => cases hv <;> cases heq
  | group u =>
    simp only [tokens, List.cons_append, List.append_assoc, List.nil_append] at heq
    obtain ⟨rfl, hclose⟩ := h _ _ _ rfl rfl (List.cons.inj heq).2
    obtain ⟨-, rfl⟩ := List.cons.inj hclose
    exact ⟨rfl, rfl⟩
  | _ => cases heq

theorem Determined.convert {name : String} {type : Token} {kind : ValueKind}
    (hname : lowered name = "convert") (htype : NamesType type kind) {t : ParseTree .disjunction}
    (h : t.Determined) : (ParseTree.convert name type kind hname htype t).Determined := by
  intro u rest rest' hrest hrest' heq
  cases u with
  | literal _ _ hv => cases hv <;> cases heq
  | word name' =>
    simp only [tokens, List.cons_append, List.nil_append, List.cons.injEq] at heq
    obtain ⟨-, rfl⟩ := heq
    cases hrest'
  | convert name' type' kind' hname' htype' t' =>
    simp only [tokens, List.cons_append, List.append_assoc, List.nil_append, List.cons.injEq,
      Token.word.injEq, true_and] at heq
    obtain ⟨rfl, hargument⟩ := heq
    obtain ⟨rfl, htypes⟩ := h _ _ _ rfl rfl hargument
    simp only [List.cons.injEq, true_and] at htypes
    obtain ⟨rfl, rfl⟩ := htypes
    cases htype.unique htype'
    exact ⟨rfl, rfl⟩
  | ifNull name' hname' =>
    simp only [tokens, List.cons_append, List.cons.injEq, Token.word.injEq] at heq
    rw [heq.1, hname'] at hname
    exact absurd hname (by decide)
  | _ => cases heq

theorem Determined.ifNull {name : String} (hname : lowered name = "isnull")
    {t fallback : ParseTree .disjunction} (h : t.Determined) (h' : fallback.Determined) :
    (ParseTree.ifNull name hname t fallback).Determined := by
  intro u rest rest' hrest hrest' heq
  cases u with
  | literal _ _ hv => cases hv <;> cases heq
  | word name' =>
    simp only [tokens, List.cons_append, List.nil_append, List.cons.injEq] at heq
    obtain ⟨-, rfl⟩ := heq
    cases hrest'
  | convert name' _ _ hname' =>
    simp only [tokens, List.cons_append, List.cons.injEq, Token.word.injEq] at heq
    rw [heq.1, hname'] at hname
    exact absurd hname (by decide)
  | ifNull name' hname' t' fallback' =>
    simp only [tokens, List.cons_append, List.append_assoc, List.nil_append, List.cons.injEq,
      Token.word.injEq, true_and] at heq
    obtain ⟨rfl, hargument⟩ := heq
    obtain ⟨rfl, hfallbacks⟩ := h _ _ _ rfl rfl hargument
    obtain ⟨rfl, hclose⟩ := h' _ _ _ rfl rfl (List.cons.inj hfallbacks).2
    obtain ⟨-, rfl⟩ := List.cons.inj hclose
    exact ⟨rfl, rfl⟩
  | _ => cases heq

end Determined

theorem determined {n : Nonterminal} (t : ParseTree n) : t.Determined := by
  induction t with
  | disjunction _ _ ih ih' => exact ih.disjunction ih'
  | noDisjunct => exact .noDisjunct
  | or _ _ ih ih' => exact ih.or ih'
  | conjunction _ _ ih ih' => exact ih.conjunction ih'
  | noConjunct => exact .noConjunct
  | and _ _ ih ih' => exact ih.and ih'
  | not _ ih => exact ih.not
  | ofComparison _ ih => exact ih.ofComparison
  | ofOperand _ ih => exact ih.ofOperand
  | compare op _ _ ih ih' => exact .compare op ih ih'
  | like _ _ ih ih' => exact ih.like ih'
  | literal _ _ h => exact .literal h
  | column name => exact .column name
  | word name => exact .word name
  | group _ ih => exact ih.group
  | convert _ _ _ hname htype _ ih => exact .convert hname htype ih
  | ifNull _ hname _ _ ih ih' => exact .ifNull hname ih ih'

end ParseTree

end Parser

namespace Expr

open TableFilter.Parser

/-- A text is read as an expression exactly if the tokens of the trimmed text have a parse tree that
forms the expression, and no tokens have two parse trees. -/
theorem ofText_reads_grammar :
    (∀ (s : String) (e : Expr), ofText s = .ok e ↔
      ∃ t : ParseTree .disjunction, Lexes (Text.trim s).toList t.tokens ∧ t.expr = e) ∧
    ∀ n : Nonterminal, Function.Injective fun t : ParseTree n => t.tokens := by
  constructor
  · intro s e
    rw [ofText_eq_ok]
    constructor
    · rintro ⟨-, ts, hlexes, hderives⟩
      obtain ⟨t, rfl, rfl⟩ := (ParseTree.hasTree_of_derives hderives).disjunction
      exact ⟨t, hlexes, rfl⟩
    · rintro ⟨t, hlexes, rfl⟩
      exact ⟨Text.isTrimmed_trim s, t.tokens, hlexes, t.yields⟩
  · intro n t u h
    have hends : n.ending.ends [] := by cases n <;> rfl
    exact (t.determined u [] [] hends hends (congrArg (· ++ []) h)).1

end Expr
end TableFilter
