import TableFilter.Proofs.Predicate.Reads

/-!
# Parse trees

The grammar once more, with its derivations as data. A parse tree has a node for each use of a rule;
its tokens are what was derived, and its expression is what they form, where a repetition joins its
parts from the left. The words that name functions and types are listed here, apart from the way in
which the parser looks them up. What the grammar derives is exactly what trees stand for.
-/

namespace TableFilter

namespace Parser

def lowered (name : String) : String := String.ofList (name.toList.map Char.toLower)

def typeWords : List (String × ValueKind) :=
  [("string", .text), ("decimal", .number), ("double", .number), ("single", .number),
    ("int16", .number), ("int32", .number), ("int64", .number), ("boolean", .boolean),
    ("datetime", .date)]

def typeSpaces : List String := ["", "System.", "system."]

def IsTypeName (name : String) (kind : ValueKind) : Prop :=
  ∃ space ∈ typeSpaces, ∃ short, name = space ++ short ∧ (lowered short, kind) ∈ typeWords

theorem callOfName?_eq_convert {name : String} :
    callOfName? name = some .convert ↔ lowered name = "convert" := by
  rw [callOfName?, lowered]
  split <;> simp_all

theorem callOfName?_eq_ifNull {name : String} :
    callOfName? name = some .ifNull ↔ lowered name = "isnull" := by
  rw [callOfName?, lowered]
  split <;> simp_all

/-- A name that is written behind a space is looked up without it. -/
theorem kindOfTypeName?_of_drop {name : String} {kind : ValueKind} {dropped : Option String}
    (h : (["System.", "system."].find? fun space => space.toList.isPrefixOf name.toList) =
      dropped) : kindOfTypeName? name = some kind ↔
      (lowered (String.ofList (name.toList.drop (dropped.elim 0 String.length))), kind) ∈
        typeWords := by
  simp only [kindOfTypeName?, h, lowered, String.toList_ofList]
  generalize String.ofList _ = word
  split
  case h_10 => simp_all [typeWords]
  all_goals simp [typeWords, eq_comm]

/-- No word begins with a space of names. -/
theorem notMem_typeWords {space : String} (h : space = "System." ∨ space = "system.")
    (rest : List Char) (kind : ValueKind) :
    (lowered (String.ofList (space.toList ++ rest)), kind) ∉ typeWords := by
  rcases h with rfl | rfl <;> simp [lowered, typeWords, ← String.toList_inj]

theorem kindOfTypeName?_eq_some {name : String} {kind : ValueKind} :
    kindOfTypeName? name = some kind ↔ IsTypeName name kind := by
  constructor
  · intro h
    cases hf : ["System.", "system."].find? fun space => space.toList.isPrefixOf name.toList with
    | none =>
      rw [kindOfTypeName?_of_drop hf] at h
      exact ⟨"", by simp [typeSpaces], name, by simp, by simpa using h⟩
    | some space =>
      rw [kindOfTypeName?_of_drop hf] at h
      have hprefix : space.toList.isPrefixOf name.toList := by simpa using List.find?_some hf
      obtain ⟨short, hshort⟩ := List.isPrefixOf_iff_prefix.mp hprefix
      have hname : name = space ++ String.ofList short := by
        rw [← String.toList_inj, String.toList_append, String.toList_ofList, hshort]
      rw [← hshort, Option.elim_some, ← String.length_toList, List.drop_left] at h
      exact ⟨space, List.mem_cons_of_mem _ (List.mem_of_find?_eq_some hf), _, hname, h⟩
  · rintro ⟨space, hspace, short, rfl, hkind⟩
    rw [typeSpaces, List.mem_cons] at hspace
    rcases hspace with rfl | hspace
    · have hf : (["System.", "system."].find? fun space =>
          space.toList.isPrefixOf ("" ++ short).toList) = none := by
        rw [List.find?_eq_none]
        intro space hspace hprefix
        obtain ⟨rest, hrest⟩ := List.isPrefixOf_iff_prefix.mp hprefix
        refine notMem_typeWords (by simpa using hspace) rest kind ?_
        rwa [hrest, String.ofList_toList, String.empty_append]
      rw [kindOfTypeName?_of_drop hf]
      simpa using hkind
    · have hf : (["System.", "system."].find? fun other =>
          other.toList.isPrefixOf (space ++ short).toList) = some space := by
        simp only [List.mem_cons, List.not_mem_nil, or_false] at hspace
        rcases hspace with rfl | rfl <;> simp
      rw [kindOfTypeName?_of_drop hf, Option.elim_some, ← String.length_toList,
        String.toList_append, List.drop_left, String.ofList_toList]
      exact hkind

/-- What a phrase can be. What repeats in a disjunction or a conjunction is a phrase of its own. -/
inductive Nonterminal where
  | disjunction | moreDisjuncts | conjunction | moreConjuncts | negation | comparison | operand

inductive IsLiteral : Token → Value → Prop where
  | text (s : String) : IsLiteral (.text s) (.text s)
  | number (d : Decimal) : IsLiteral (.number d) (.number d)
  | date (d : Date) : IsLiteral (.date d) (.date d)
  | truth (b : Bool) : IsLiteral (.truth b) (.bool b)
  | null : IsLiteral .null .null

def NamesType (t : Token) (kind : ValueKind) : Prop :=
  ∃ name, (t = .text name ∨ t = .word name) ∧ IsTypeName name kind

theorem literal?_eq_some {t : Token} {v : Value} :
    literal? t = some v ↔ IsLiteral t v := by
  constructor
  · intro h
    unfold literal? at h
    split at h <;> cases h <;> constructor
  · rintro (s | d | d | b | _) <;> rfl

inductive ParseTree : Nonterminal → Type where
  | disjunction (first : ParseTree .conjunction) (more : ParseTree .moreDisjuncts) :
      ParseTree .disjunction
  | noDisjunct : ParseTree .moreDisjuncts
  | or (next : ParseTree .conjunction) (more : ParseTree .moreDisjuncts) : ParseTree .moreDisjuncts
  | conjunction (first : ParseTree .negation) (more : ParseTree .moreConjuncts) :
      ParseTree .conjunction
  | noConjunct : ParseTree .moreConjuncts
  | and (next : ParseTree .negation) (more : ParseTree .moreConjuncts) : ParseTree .moreConjuncts
  | not (t : ParseTree .negation) : ParseTree .negation
  | ofComparison (t : ParseTree .comparison) : ParseTree .negation
  | ofOperand (t : ParseTree .operand) : ParseTree .comparison
  | compare (op : Comparison) (left right : ParseTree .operand) : ParseTree .comparison
  | like (t pattern : ParseTree .operand) : ParseTree .comparison
  | literal (token : Token) (v : Value) (h : IsLiteral token v) : ParseTree .operand
  | column (name : String) : ParseTree .operand
  | word (name : String) : ParseTree .operand
  | group (t : ParseTree .disjunction) : ParseTree .operand
  | convert (name : String) (type : Token) (kind : ValueKind) (hname : lowered name = "convert")
      (htype : NamesType type kind) (t : ParseTree .disjunction) : ParseTree .operand
  | ifNull (name : String) (hname : lowered name = "isnull")
      (t fallback : ParseTree .disjunction) : ParseTree .operand

/-- What a phrase forms. A repetition forms an expression out of the one in front of it. -/
def Nonterminal.Meaning : Nonterminal → Type
  | moreDisjuncts | moreConjuncts => Expr → Expr
  | _ => Expr

namespace ParseTree

@[simp]
def tokens : {n : Nonterminal} → ParseTree n → List Token
  | _, disjunction first more => first.tokens ++ more.tokens
  | _, noDisjunct => []
  | _, or next more => .connective .or :: (next.tokens ++ more.tokens)
  | _, conjunction first more => first.tokens ++ more.tokens
  | _, noConjunct => []
  | _, and next more => .connective .and :: (next.tokens ++ more.tokens)
  | _, not t => .not :: t.tokens
  | _, ofComparison t => t.tokens
  | _, ofOperand t => t.tokens
  | _, compare op left right => left.tokens ++ .compare op :: right.tokens
  | _, like t pattern => t.tokens ++ .like :: pattern.tokens
  | _, literal token _ _ => [token]
  | _, column name => [.column name]
  | _, word name => [.word name]
  | _, group t => .openParen :: (t.tokens ++ [.closeParen])
  | _, convert name type _ _ _ t =>
    .word name :: .openParen :: (t.tokens ++ [.comma, type, .closeParen])
  | _, ifNull name _ t fallback =>
    .word name :: .openParen :: (t.tokens ++ .comma :: (fallback.tokens ++ [.closeParen]))

def expr : {n : Nonterminal} → ParseTree n → n.Meaning
  | _, disjunction first more => more.expr first.expr
  | _, noDisjunct => id
  | _, or next more => fun left => more.expr (.join .or left next.expr)
  | _, conjunction first more => more.expr first.expr
  | _, noConjunct => id
  | _, and next more => fun left => more.expr (.join .and left next.expr)
  | _, not t => Expr.not t.expr
  | _, ofComparison t => t.expr
  | _, ofOperand t => t.expr
  | _, compare op left right => Expr.compare op left.expr right.expr
  | _, like t pattern => Expr.like t.expr pattern.expr
  | _, literal _ v _ => Expr.literal v
  | _, column name => Expr.column name
  | _, word name => Expr.column name
  | _, group t => t.expr
  | _, convert _ _ kind _ _ t => Expr.convert t.expr kind
  | _, ifNull _ _ t fallback => Expr.ifNull t.expr fallback.expr

/-- What the tokens of a phrase have to do with what it forms. A repetition continues any phrase in
front of it. -/
def Yields : (n : Nonterminal) → List Token → n.Meaning → Prop
  | .disjunction, ts, e => Derives .disjunction ts e
  | .moreDisjuncts, ts, form => ∀ before left, Derives .disjunction before left →
      Derives .disjunction (before ++ ts) (form left)
  | .conjunction, ts, e => Derives .conjunction ts e
  | .moreConjuncts, ts, form => ∀ before left, Derives .conjunction before left →
      Derives .conjunction (before ++ ts) (form left)
  | .negation, ts, e => Derives .negation ts e
  | .comparison, ts, e => Derives .comparison ts e
  | .operand, ts, e => Derives .operand ts e

theorem yields {n : Nonterminal} (t : ParseTree n) : Yields n t.tokens t.expr := by
  induction t with
  | disjunction first more ihFirst ihMore => exact ihMore _ _ (.ofConjunction ihFirst)
  | noDisjunct =>
    intro before left h
    rwa [tokens, List.append_nil]
  | or next more ihNext ihMore =>
    intro before left h
    have hmore := ihMore _ _ (.or h ihNext)
    rwa [List.append_assoc, List.cons_append] at hmore
  | conjunction first more ihFirst ihMore => exact ihMore _ _ (.ofNegation ihFirst)
  | noConjunct =>
    intro before left h
    rwa [tokens, List.append_nil]
  | and next more ihNext ihMore =>
    intro before left h
    have hmore := ihMore _ _ (.and h ihNext)
    rwa [List.append_assoc, List.cons_append] at hmore
  | not t ih => exact .not ih
  | ofComparison t ih => exact .ofComparison ih
  | ofOperand t ih => exact .ofOperand ih
  | compare op left right ihLeft ihRight => exact .compare op ihLeft ihRight
  | like t pattern ih ihPattern => exact .like ih ihPattern
  | literal token v h => exact .literal (literal?_eq_some.mpr h)
  | column name => exact .column name
  | word name => exact .word name
  | group t ih => exact .group ih
  | convert name type kind hname htype t ih =>
    obtain ⟨typeName, htoken, hkind⟩ := htype
    exact .convert (callOfName?_eq_convert.mpr hname) htoken (kindOfTypeName?_eq_some.mpr hkind) ih
  | ifNull name hname t fallback ih ihFallback =>
    exact .ifNull (callOfName?_eq_ifNull.mpr hname) ih ihFallback

/-- There is a tree with the tokens and the expression. A repetition can be put behind them where
the rule has one. -/
def HasTree : Rule → List Token → Expr → Prop
  | .disjunction, ts, e => ∀ more : ParseTree .moreDisjuncts, ∃ t : ParseTree .disjunction,
      t.tokens = ts ++ more.tokens ∧ t.expr = more.expr e
  | .conjunction, ts, e => ∀ more : ParseTree .moreConjuncts, ∃ t : ParseTree .conjunction,
      t.tokens = ts ++ more.tokens ∧ t.expr = more.expr e
  | .negation, ts, e => ∃ t : ParseTree .negation, t.tokens = ts ∧ t.expr = e
  | .comparison, ts, e => ∃ t : ParseTree .comparison, t.tokens = ts ∧ t.expr = e
  | .operand, ts, e => ∃ t : ParseTree .operand, t.tokens = ts ∧ t.expr = e

theorem HasTree.disjunction {ts : List Token} {e : Expr} (h : HasTree .disjunction ts e) :
    ∃ t : ParseTree .disjunction, t.tokens = ts ∧ t.expr = e := by
  obtain ⟨t, ht, he⟩ := h noDisjunct
  exact ⟨t, ht.trans (List.append_nil ts), he⟩

theorem HasTree.conjunction {ts : List Token} {e : Expr} (h : HasTree .conjunction ts e) :
    ∃ t : ParseTree .conjunction, t.tokens = ts ∧ t.expr = e := by
  obtain ⟨t, ht, he⟩ := h noConjunct
  exact ⟨t, ht.trans (List.append_nil ts), he⟩

theorem hasTree_of_derives {r : Rule} {ts : List Token} {e : Expr} (h : Derives r ts e) :
    HasTree r ts e := by
  induction h with
  | ofConjunction _ ih =>
    obtain ⟨t, rfl, rfl⟩ := HasTree.conjunction ih
    exact fun more => ⟨.disjunction t more, rfl, rfl⟩
  | or _ _ ih ih' =>
    obtain ⟨last, rfl, rfl⟩ := HasTree.conjunction ih'
    intro more
    obtain ⟨t, ht, he⟩ := ih (.or last more)
    refine ⟨t, ?_, he⟩
    rw [ht, tokens, List.append_assoc, List.cons_append]
  | ofNegation _ ih =>
    obtain ⟨t, rfl, rfl⟩ := ih
    exact fun more => ⟨.conjunction t more, rfl, rfl⟩
  | and _ _ ih ih' =>
    obtain ⟨last, rfl, rfl⟩ := ih'
    intro more
    obtain ⟨t, ht, he⟩ := ih (.and last more)
    refine ⟨t, ?_, he⟩
    rw [ht, tokens, List.append_assoc, List.cons_append]
  | ofComparison _ ih =>
    obtain ⟨t, rfl, rfl⟩ := ih
    exact ⟨ofComparison t, rfl, rfl⟩
  | not _ ih =>
    obtain ⟨t, rfl, rfl⟩ := ih
    exact ⟨not t, rfl, rfl⟩
  | ofOperand _ ih =>
    obtain ⟨t, rfl, rfl⟩ := ih
    exact ⟨ofOperand t, rfl, rfl⟩
  | compare op _ _ ih ih' =>
    obtain ⟨left, rfl, rfl⟩ := ih
    obtain ⟨right, rfl, rfl⟩ := ih'
    exact ⟨compare op left right, rfl, rfl⟩
  | like _ _ ih ih' =>
    obtain ⟨t, rfl, rfl⟩ := ih
    obtain ⟨pattern, rfl, rfl⟩ := ih'
    exact ⟨like t pattern, rfl, rfl⟩
  | literal h => exact ⟨literal _ _ (literal?_eq_some.mp h), rfl, rfl⟩
  | column name => exact ⟨column name, rfl, rfl⟩
  | word name => exact ⟨word name, rfl, rfl⟩
  | group _ ih =>
    obtain ⟨t, rfl, rfl⟩ := HasTree.disjunction ih
    exact ⟨group t, rfl, rfl⟩
  | convert hname htype hkind _ ih =>
    obtain ⟨t, rfl, rfl⟩ := HasTree.disjunction ih
    have hnames : NamesType _ _ := ⟨_, htype, kindOfTypeName?_eq_some.mp hkind⟩
    exact ⟨convert _ _ _ (callOfName?_eq_convert.mp hname) hnames t, rfl, rfl⟩
  | ifNull hname _ _ ih ih' =>
    obtain ⟨t, rfl, rfl⟩ := HasTree.disjunction ih
    obtain ⟨fallback, rfl, rfl⟩ := HasTree.disjunction ih'
    exact ⟨ifNull _ (callOfName?_eq_ifNull.mp hname) t fallback, rfl, rfl⟩

end ParseTree
end Parser
end TableFilter
