import TableFilter.Predicate.Parser

/-!
# The grammar of predicates

`Derives` states the grammar as a relation between a list of tokens and the tree they form, without
an order of reading and without a bound on it. The functions of the parser accept exactly what the
grammar derives: what they return was derived from the tokens they used, and they read a derivable
list to its end as soon as the number handed on is large enough for its length and what follows
cannot continue it.
-/

namespace TableFilter.Parser

/-- The rules of the grammar, from the weakest binding to the strongest. -/
inductive Rule where
  | disjunction | conjunction | negation | comparison | operand

inductive Derives : Rule → List Token → Expr → Prop where
  | ofConjunction {ts e} : Derives .conjunction ts e → Derives .disjunction ts e
  | or {ts us e f} : Derives .disjunction ts e → Derives .conjunction us f →
      Derives .disjunction (ts ++ .connective .or :: us) (.join .or e f)
  | ofNegation {ts e} : Derives .negation ts e → Derives .conjunction ts e
  | and {ts us e f} : Derives .conjunction ts e → Derives .negation us f →
      Derives .conjunction (ts ++ .connective .and :: us) (.join .and e f)
  | ofComparison {ts e} : Derives .comparison ts e → Derives .negation ts e
  | not {ts e} : Derives .negation ts e → Derives .negation (.not :: ts) (.not e)
  | ofOperand {ts e} : Derives .operand ts e → Derives .comparison ts e
  | compare {ts us e f} (op : Comparison) : Derives .operand ts e → Derives .operand us f →
      Derives .comparison (ts ++ .compare op :: us) (.compare op e f)
  | like {ts us e f} : Derives .operand ts e → Derives .operand us f →
      Derives .comparison (ts ++ .like :: us) (.like e f)
  | literal {t v} : literal? t = some v → Derives .operand [t] (.literal v)
  | column (name : String) : Derives .operand [.column name] (.column name)
  | word (name : String) : Derives .operand [.word name] (.column name)
  | group {ts e} : Derives .disjunction ts e →
      Derives .operand (.openParen :: (ts ++ [.closeParen])) e
  | convert {name type t kind ts e} : callOfName? name = some .convert →
      t = .text type ∨ t = .word type → kindOfTypeName? type = some kind →
      Derives .disjunction ts e →
      Derives .operand (.word name :: .openParen :: (ts ++ [.comma, t, .closeParen]))
        (.convert e kind)
  | ifNull {name ts us e f} : callOfName? name = some .ifNull → Derives .disjunction ts e →
      Derives .disjunction us f →
      Derives .operand (.word name :: .openParen :: (ts ++ .comma :: (us ++ [.closeParen])))
        (.ifNull e f)

theorem bind_eq_ok {ε α β : Type} {x : Except ε α} {f : α → Except ε β} {b : β} :
    (x >>= f) = .ok b ↔ ∃ a, x = .ok a ∧ f a = .ok b := by
  cases x <;> simp [bind, Except.bind]

theorem closing_eq_ok {ts rest : List Token} (h : closing ts = .ok rest) :
    ts = .closeParen :: rest := by
  unfold closing at h
  split at h
  · rw [Except.ok.inj h]
  · cases h

theorem expect_eq_ok {t : Token} {ts rest : List Token} (h : expect t ts = .ok rest) :
    ts = t :: rest := by
  cases ts with
  | nil => cases h
  | cons u us =>
    simp only [expect] at h
    split at h
    · rename_i hu
      rw [hu, Except.ok.inj h]
    · cases h

theorem typeName_eq_ok {ts rest : List Token} {kind : ValueKind}
    (h : typeName ts = .ok (kind, rest)) :
    ∃ t type, ts = t :: rest ∧ (t = .text type ∨ t = .word type) ∧
      kindOfTypeName? type = some kind := by
  unfold typeName at h
  split at h
  case h_1 => cases h
  case h_4 => cases h
  all_goals
    split at h
    · rename_i hk
      cases h
      exact ⟨_, _, rfl, by simp, hk⟩
    · cases h

structure Sound (n : Nat) : Prop where
  disjunction {ts e rest} : disjunction n ts = .ok (e, rest) →
    ∃ used, ts = used ++ rest ∧ Derives .disjunction used e
  disjunctionRest {left ts e rest} : disjunctionRest n left ts = .ok (e, rest) →
    ∃ used, ts = used ++ rest ∧
      ∀ before, Derives .disjunction before left → Derives .disjunction (before ++ used) e
  conjunction {ts e rest} : conjunction n ts = .ok (e, rest) →
    ∃ used, ts = used ++ rest ∧ Derives .conjunction used e
  conjunctionRest {left ts e rest} : conjunctionRest n left ts = .ok (e, rest) →
    ∃ used, ts = used ++ rest ∧
      ∀ before, Derives .conjunction before left → Derives .conjunction (before ++ used) e
  negation {ts e rest} : negation n ts = .ok (e, rest) →
    ∃ used, ts = used ++ rest ∧ Derives .negation used e
  comparison {ts e rest} : comparison n ts = .ok (e, rest) →
    ∃ used, ts = used ++ rest ∧ Derives .comparison used e
  operand {ts e rest} : operand n ts = .ok (e, rest) →
    ∃ used, ts = used ++ rest ∧ Derives .operand used e

section Sound

variable {n : Nat} {ts rest : List Token} {left e : Expr}

theorem Sound.disjunction_succ (s : Sound n) (h : Parser.disjunction (n + 1) ts = .ok (e, rest)) :
    ∃ used, ts = used ++ rest ∧ Derives .disjunction used e := by
  simp only [Parser.disjunction, bind_eq_ok] at h
  obtain ⟨⟨left, more⟩, hl, hr⟩ := h
  obtain ⟨used, rfl, hd⟩ := s.conjunction hl
  obtain ⟨used', rfl, hd'⟩ := s.disjunctionRest hr
  exact ⟨used ++ used', by simp, hd' _ (.ofConjunction hd)⟩

theorem Sound.disjunctionRest_succ (s : Sound n)
    (h : Parser.disjunctionRest (n + 1) left ts = .ok (e, rest)) :
    ∃ used, ts = used ++ rest ∧
      ∀ before, Derives .disjunction before left → Derives .disjunction (before ++ used) e := by
  unfold Parser.disjunctionRest at h
  split at h
  case h_1 heq => cases heq
  case h_2 m left more heq =>
    cases heq
    obtain ⟨⟨right, more⟩, hr, hm⟩ := bind_eq_ok.mp h
    obtain ⟨used, rfl, hd⟩ := s.conjunction hr
    obtain ⟨used', rfl, hd'⟩ := s.disjunctionRest hm
    refine ⟨.connective .or :: (used ++ used'), by simp, fun before hb => ?_⟩
    have hj := hd' _ (.or hb hd)
    rwa [List.append_assoc, List.cons_append] at hj
  case h_3 =>
    cases h
    exact ⟨[], rfl, fun before hb => by rwa [List.append_nil]⟩

theorem Sound.conjunction_succ (s : Sound n) (h : Parser.conjunction (n + 1) ts = .ok (e, rest)) :
    ∃ used, ts = used ++ rest ∧ Derives .conjunction used e := by
  simp only [Parser.conjunction, bind_eq_ok] at h
  obtain ⟨⟨left, more⟩, hl, hr⟩ := h
  obtain ⟨used, rfl, hd⟩ := s.negation hl
  obtain ⟨used', rfl, hd'⟩ := s.conjunctionRest hr
  exact ⟨used ++ used', by simp, hd' _ (.ofNegation hd)⟩

theorem Sound.conjunctionRest_succ (s : Sound n)
    (h : Parser.conjunctionRest (n + 1) left ts = .ok (e, rest)) :
    ∃ used, ts = used ++ rest ∧
      ∀ before, Derives .conjunction before left → Derives .conjunction (before ++ used) e := by
  unfold Parser.conjunctionRest at h
  split at h
  case h_1 heq => cases heq
  case h_2 m left more heq =>
    cases heq
    obtain ⟨⟨right, more⟩, hr, hm⟩ := bind_eq_ok.mp h
    obtain ⟨used, rfl, hd⟩ := s.negation hr
    obtain ⟨used', rfl, hd'⟩ := s.conjunctionRest hm
    refine ⟨.connective .and :: (used ++ used'), by simp, fun before hb => ?_⟩
    have hj := hd' _ (.and hb hd)
    rwa [List.append_assoc, List.cons_append] at hj
  case h_3 =>
    cases h
    exact ⟨[], rfl, fun before hb => by rwa [List.append_nil]⟩

theorem Sound.negation_succ (s : Sound n) (h : Parser.negation (n + 1) ts = .ok (e, rest)) :
    ∃ used, ts = used ++ rest ∧ Derives .negation used e := by
  unfold Parser.negation at h
  split at h
  case h_1 heq => cases heq
  case h_2 m more heq =>
    cases heq
    obtain ⟨⟨inner, more⟩, hi, hp⟩ := bind_eq_ok.mp h
    obtain ⟨used, rfl, hd⟩ := s.negation hi
    cases hp
    exact ⟨.not :: used, rfl, .not hd⟩
  case h_3 m heq _ =>
    cases heq
    obtain ⟨used, rfl, hd⟩ := s.comparison h
    exact ⟨used, rfl, .ofComparison hd⟩

theorem Sound.comparison_succ (s : Sound n) (h : Parser.comparison (n + 1) ts = .ok (e, rest)) :
    ∃ used, ts = used ++ rest ∧ Derives .comparison used e := by
  simp only [Parser.comparison, bind_eq_ok] at h
  obtain ⟨⟨left, more⟩, hl, h⟩ := h
  obtain ⟨used, rfl, hd⟩ := s.operand hl
  simp only at h
  split at h
  case h_1 op more =>
    obtain ⟨⟨right, more⟩, hr, hp⟩ := bind_eq_ok.mp h
    obtain ⟨used', rfl, hd'⟩ := s.operand hr
    cases hp
    exact ⟨used ++ .compare op :: used', by simp, .compare op hd hd'⟩
  case h_2 more =>
    obtain ⟨⟨right, more⟩, hr, hp⟩ := bind_eq_ok.mp h
    obtain ⟨used', rfl, hd'⟩ := s.operand hr
    cases hp
    exact ⟨used ++ .like :: used', by simp, .like hd hd'⟩
  case h_3 =>
    cases h
    exact ⟨used, rfl, .ofOperand hd⟩

theorem Sound.operand_succ (s : Sound n) (h : Parser.operand (n + 1) ts = .ok (e, rest)) :
    ∃ used, ts = used ++ rest ∧ Derives .operand used e := by
  unfold Parser.operand at h
  split at h
  case h_1 => cases h
  case h_2 => cases h
  case h_3 m more heq =>
    cases heq
    obtain ⟨⟨inner, more⟩, hi, h⟩ := bind_eq_ok.mp h
    obtain ⟨after, hc, hp⟩ := bind_eq_ok.mp h
    obtain ⟨used, rfl, hd⟩ := s.disjunction hi
    rw [closing_eq_ok hc]
    cases hp
    exact ⟨.openParen :: (used ++ [.closeParen]), by simp, .group hd⟩
  case h_4 m name more heq =>
    cases heq
    split at h
    case h_1 hname =>
      obtain ⟨⟨inner, more⟩, hi, h⟩ := bind_eq_ok.mp h
      obtain ⟨afterComma, hcomma, h⟩ := bind_eq_ok.mp h
      obtain ⟨⟨kind, afterType⟩, htype, h⟩ := bind_eq_ok.mp h
      obtain ⟨after, hc, hp⟩ := bind_eq_ok.mp h
      obtain ⟨used, rfl, hd⟩ := s.disjunction hi
      obtain ⟨t, type, rfl, ht, hk⟩ := typeName_eq_ok htype
      rw [expect_eq_ok hcomma, closing_eq_ok hc]
      cases hp
      exact ⟨.word name :: .openParen :: (used ++ [.comma, t, .closeParen]), by simp,
        .convert hname ht hk hd⟩
    case h_2 hname =>
      obtain ⟨⟨inner, more⟩, hi, h⟩ := bind_eq_ok.mp h
      obtain ⟨afterComma, hcomma, h⟩ := bind_eq_ok.mp h
      obtain ⟨⟨fallback, afterFallback⟩, hf, h⟩ := bind_eq_ok.mp h
      obtain ⟨after, hc, hp⟩ := bind_eq_ok.mp h
      obtain ⟨used, rfl, hd⟩ := s.disjunction hi
      obtain ⟨used', rfl, hd'⟩ := s.disjunction hf
      rw [expect_eq_ok hcomma, closing_eq_ok hc]
      cases hp
      exact ⟨.word name :: .openParen :: (used ++ .comma :: (used' ++ [.closeParen])), by simp,
        .ifNull hname hd hd'⟩
    case h_3 => cases h
  case h_5 m name more heq =>
    cases heq
    cases h
    exact ⟨[.column name], rfl, .column name⟩
  case h_6 m name more _ heq =>
    cases heq
    cases h
    exact ⟨[.word name], rfl, .word name⟩
  case h_7 m t more _ _ _ _ heq =>
    cases heq
    split at h
    case h_1 v hv =>
      cases h
      exact ⟨[t], rfl, .literal hv⟩
    case h_2 => cases h

end Sound

theorem sound (n : Nat) : Sound n := by
  induction n with
  | zero =>
    constructor
    all_goals
      intros
      rename_i h
      simp only [disjunction, disjunctionRest, conjunction, conjunctionRest, negation, comparison,
        operand, reduceCtorEq] at h
  | succ n ih =>
    exact ⟨ih.disjunction_succ, ih.disjunctionRest_succ, ih.conjunction_succ,
      ih.conjunctionRest_succ, ih.negation_succ, ih.comparison_succ, ih.operand_succ⟩

theorem length_pos_of_derives {r : Rule} {ts : List Token} {e : Expr} (h : Derives r ts e) :
    0 < ts.length := by
  induction h with
  | ofConjunction _ ih | ofNegation _ ih | ofComparison _ ih | ofOperand _ ih => exact ih
  | or | and | compare | like => simp only [List.length_append, List.length_cons]; omega
  | _ => simp

/-- Whether what comes after a phrase cannot continue it. -/
def Rule.ends : Rule → List Token → Bool
  | _, [] => true
  | _, .openParen :: _ => false
  | .operand, _ => true
  | _, .compare _ :: _ | _, .like :: _ => false
  | .comparison, _ | .negation, _ => true
  | _, .connective .and :: _ => false
  | .conjunction, _ => true
  | .disjunction, .connective .or :: _ => false
  | .disjunction, _ => true

section Ends

variable {rest : List Token}

theorem Rule.conjunction_ends (h : Rule.disjunction.ends rest) : Rule.conjunction.ends rest := by
  unfold Rule.ends at h ⊢
  split at h <;> simp_all

theorem Rule.comparison_ends (h : Rule.conjunction.ends rest) : Rule.comparison.ends rest := by
  unfold Rule.ends at h ⊢
  split at h <;> simp_all

theorem Rule.operand_ends (h : Rule.comparison.ends rest) : Rule.operand.ends rest := by
  unfold Rule.ends at h ⊢
  split at h <;> simp_all

theorem disjunctionRest_of_ends {n : Nat} (e : Expr) (hn : 0 < n)
    (h : Rule.disjunction.ends rest) : disjunctionRest n e rest = .ok (e, rest) := by
  obtain ⟨n, rfl⟩ := Nat.exists_eq_add_of_lt hn
  unfold disjunctionRest
  split <;> simp_all [Rule.ends]

theorem conjunctionRest_of_ends {n : Nat} (e : Expr) (hn : 0 < n)
    (h : Rule.conjunction.ends rest) : conjunctionRest n e rest = .ok (e, rest) := by
  obtain ⟨n, rfl⟩ := Nat.exists_eq_add_of_lt hn
  unfold conjunctionRest
  split <;> simp_all [Rule.ends]

end Ends

/-- What the parser does with a phrase that something follows. Six calls for each token are enough.
The rules that repeat hand the tree on to the function that looks for a repetition. -/
def Accepts : Rule → List Token → Expr → Prop
  | .disjunction, ts, e => ∀ n rest, Rule.conjunction.ends rest → 6 * ts.length ≤ n →
      ∃ m, n < m + 6 * ts.length ∧ disjunction n (ts ++ rest) = disjunctionRest m e rest
  | .conjunction, ts, e => ∀ n rest, Rule.comparison.ends rest → 6 * ts.length ≤ n + 1 →
      ∃ m, n + 1 < m + 6 * ts.length ∧ conjunction n (ts ++ rest) = conjunctionRest m e rest
  | .negation, ts, e => ∀ n rest, Rule.comparison.ends rest → 6 * ts.length ≤ n + 2 →
      negation n (ts ++ rest) = .ok (e, rest)
  | .comparison, ts, e => ∀ n rest, Rule.comparison.ends rest → 6 * ts.length ≤ n + 3 →
      comparison n (ts ++ rest) = .ok (e, rest)
  | .operand, ts, e => ∀ n rest, Rule.operand.ends rest → 6 * ts.length ≤ n + 4 →
      operand n (ts ++ rest) = .ok (e, rest)

section Accepts

variable {ts us : List Token} {e f : Expr}

theorem Accepts.disjunction (h : Accepts .disjunction ts e) {n : Nat} {rest : List Token}
    (hr : Rule.disjunction.ends rest) (hn : 6 * ts.length ≤ n) :
    Parser.disjunction n (ts ++ rest) = .ok (e, rest) := by
  obtain ⟨m, hm, heq⟩ := h n rest (Rule.conjunction_ends hr) hn
  rw [heq, disjunctionRest_of_ends e (by omega) hr]

theorem Accepts.conjunction (h : Accepts .conjunction ts e) {n : Nat} {rest : List Token}
    (hr : Rule.conjunction.ends rest) (hn : 6 * ts.length ≤ n + 1) :
    Parser.conjunction n (ts ++ rest) = .ok (e, rest) := by
  obtain ⟨m, hm, heq⟩ := h n rest (Rule.comparison_ends hr) hn
  rw [heq, conjunctionRest_of_ends e (by omega) hr]

theorem Accepts.ofConjunction (hts : 0 < ts.length) (h : Accepts .conjunction ts e) :
    Accepts .disjunction ts e := by
  intro n rest hr hn
  obtain ⟨n, rfl⟩ : ∃ m, n = m + 1 := ⟨n - 1, by omega⟩
  refine ⟨n, by omega, ?_⟩
  rw [Parser.disjunction, h.conjunction hr (by omega)]
  rfl

theorem Accepts.or (h : Accepts .disjunction ts e) (h' : Accepts .conjunction us f) :
    Accepts .disjunction (ts ++ .connective .or :: us) (.join .or e f) := by
  intro n rest hr hn
  simp only [List.length_append, List.length_cons] at hn ⊢
  obtain ⟨m, hm, heq⟩ := h n (.connective .or :: (us ++ rest)) rfl (by omega)
  obtain ⟨m, rfl⟩ : ∃ k, m = k + 1 := ⟨m - 1, by omega⟩
  refine ⟨m, by omega, ?_⟩
  rw [List.append_assoc, List.cons_append, heq, disjunctionRest, h'.conjunction hr (by omega)]
  rfl

theorem Accepts.ofNegation (hts : 0 < ts.length) (h : Accepts .negation ts e) :
    Accepts .conjunction ts e := by
  intro n rest hr hn
  obtain ⟨n, rfl⟩ : ∃ m, n = m + 1 := ⟨n - 1, by omega⟩
  refine ⟨n, by omega, ?_⟩
  rw [Parser.conjunction, h n rest hr (by omega)]
  rfl

theorem Accepts.and (h : Accepts .conjunction ts e) (h' : Accepts .negation us f) :
    Accepts .conjunction (ts ++ .connective .and :: us) (.join .and e f) := by
  intro n rest hr hn
  simp only [List.length_append, List.length_cons] at hn ⊢
  obtain ⟨m, hm, heq⟩ := h n (.connective .and :: (us ++ rest)) rfl (by omega)
  obtain ⟨m, rfl⟩ : ∃ k, m = k + 1 := ⟨m - 1, by omega⟩
  refine ⟨m, by omega, ?_⟩
  rw [List.append_assoc, List.cons_append, heq, conjunctionRest, h' m rest hr (by omega)]
  rfl

/-- A comparison does not begin with a negation. -/
theorem negation_of_comparison {n : Nat} {r : Expr × List Token}
    (h : Parser.comparison n ts = .ok r) : Parser.negation (n + 1) ts = .ok r := by
  unfold Parser.negation
  split
  case h_1 heq => cases heq
  case h_2 m rest heq =>
    cases heq
    cases n with
    | zero => simp [Parser.comparison] at h
    | succ n =>
      obtain ⟨_, ho, _⟩ := bind_eq_ok.mp (by simpa only [Parser.comparison] using h)
      cases n <;> simp [Parser.operand, literal?] at ho
  case h_3 m heq _ =>
    cases heq
    exact h

theorem Accepts.ofComparison (hts : 0 < ts.length) (h : Accepts .comparison ts e) :
    Accepts .negation ts e := by
  intro n rest hr hn
  obtain ⟨n, rfl⟩ : ∃ m, n = m + 1 := ⟨n - 1, by omega⟩
  exact negation_of_comparison (h n rest hr (by omega))

theorem Accepts.not (h : Accepts .negation ts e) : Accepts .negation (.not :: ts) (.not e) := by
  intro n rest hr hn
  simp only [List.length_cons] at hn
  obtain ⟨n, rfl⟩ : ∃ m, n = m + 1 := ⟨n - 1, by omega⟩
  rw [List.cons_append, Parser.negation, h n rest hr (by omega)]
  rfl

theorem Accepts.ofOperand (hts : 0 < ts.length) (h : Accepts .operand ts e) :
    Accepts .comparison ts e := by
  intro n rest hr hn
  obtain ⟨n, rfl⟩ : ∃ m, n = m + 1 := ⟨n - 1, by omega⟩
  rw [Parser.comparison, h n rest (Rule.operand_ends hr) (by omega)]
  simp only [bind, Except.bind]
  split <;> simp_all [Rule.ends, pure, Except.pure]

theorem Accepts.compare (op : Comparison) (h : Accepts .operand ts e) (h' : Accepts .operand us f) :
    Accepts .comparison (ts ++ .compare op :: us) (.compare op e f) := by
  intro n rest hr hn
  simp only [List.length_append, List.length_cons] at hn
  obtain ⟨n, rfl⟩ : ∃ m, n = m + 1 := ⟨n - 1, by omega⟩
  have hl := h n (.compare op :: (us ++ rest)) rfl (by omega)
  have hu := h' n rest (Rule.operand_ends hr) (by omega)
  rw [List.append_assoc, List.cons_append, Parser.comparison, hl]
  simp only [bind, Except.bind, hu]
  rfl

theorem Accepts.like (h : Accepts .operand ts e) (h' : Accepts .operand us f) :
    Accepts .comparison (ts ++ .like :: us) (.like e f) := by
  intro n rest hr hn
  simp only [List.length_append, List.length_cons] at hn
  obtain ⟨n, rfl⟩ : ∃ m, n = m + 1 := ⟨n - 1, by omega⟩
  have hl := h n (.like :: (us ++ rest)) rfl (by omega)
  have hu := h' n rest (Rule.operand_ends hr) (by omega)
  rw [List.append_assoc, List.cons_append, Parser.comparison, hl]
  simp only [bind, Except.bind, hu]
  rfl

theorem Accepts.literal {t : Token} {v : Value} (h : literal? t = some v) :
    Accepts .operand [t] (.literal v) := by
  intro n rest hr hn
  obtain ⟨n, rfl⟩ : ∃ m, n = m + 1 := ⟨n - 1, by simp at hn; omega⟩
  cases t <;> simp_all [literal?, Parser.operand]

theorem Accepts.column (name : String) : Accepts .operand [.column name] (.column name) := by
  intro n rest hr hn
  obtain ⟨n, rfl⟩ : ∃ m, n = m + 1 := ⟨n - 1, by simp at hn; omega⟩
  rfl

theorem Accepts.word (name : String) : Accepts .operand [.word name] (.column name) := by
  intro n rest hr hn
  obtain ⟨n, rfl⟩ : ∃ m, n = m + 1 := ⟨n - 1, by simp at hn; omega⟩
  rw [List.cons_append, List.nil_append, Parser.operand]
  intro rest' heq
  simp [heq, Rule.ends] at hr

theorem Accepts.group (h : Accepts .disjunction ts e) :
    Accepts .operand (.openParen :: (ts ++ [.closeParen])) e := by
  intro n rest hr hn
  simp only [List.length_append, List.length_cons, List.length_nil] at hn
  obtain ⟨n, rfl⟩ : ∃ m, n = m + 1 := ⟨n - 1, by omega⟩
  have hd : Parser.disjunction n (ts ++ .closeParen :: rest) = .ok (e, .closeParen :: rest) :=
    h.disjunction rfl (by omega)
  simp only [List.cons_append, List.append_assoc, List.nil_append, Parser.operand, hd]
  rfl

theorem typeName_of_kind {t : Token} {type : String} {kind : ValueKind}
    (ht : t = .text type ∨ t = .word type) (hk : kindOfTypeName? type = some kind)
    (rest : List Token) : typeName (t :: rest) = .ok (kind, rest) := by
  rcases ht with rfl | rfl <;> simp [typeName, hk]

theorem Accepts.convert {name type : String} {t : Token} {kind : ValueKind}
    (hname : callOfName? name = some .convert) (ht : t = .text type ∨ t = .word type)
    (hk : kindOfTypeName? type = some kind) (h : Accepts .disjunction ts e) :
    Accepts .operand (.word name :: .openParen :: (ts ++ [.comma, t, .closeParen]))
      (.convert e kind) := by
  intro n rest hr hn
  simp only [List.length_append, List.length_cons, List.length_nil] at hn
  obtain ⟨n, rfl⟩ : ∃ m, n = m + 1 := ⟨n - 1, by omega⟩
  have hd : Parser.disjunction n (ts ++ .comma :: t :: .closeParen :: rest) =
      .ok (e, .comma :: t :: .closeParen :: rest) :=
    h.disjunction rfl (by omega)
  have htype := typeName_of_kind ht hk (.closeParen :: rest)
  simp only [List.cons_append, List.append_assoc, List.nil_append, Parser.operand, hname, hd]
  simp only [bind, Except.bind, expect, if_true, htype]
  rfl

theorem Accepts.ifNull {name : String} (hname : callOfName? name = some .ifNull)
    (h : Accepts .disjunction ts e) (h' : Accepts .disjunction us f) :
    Accepts .operand (.word name :: .openParen :: (ts ++ .comma :: (us ++ [.closeParen])))
      (.ifNull e f) := by
  intro n rest hr hn
  simp only [List.length_append, List.length_cons, List.length_nil] at hn
  obtain ⟨n, rfl⟩ : ∃ m, n = m + 1 := ⟨n - 1, by omega⟩
  have hd : Parser.disjunction n (ts ++ .comma :: (us ++ .closeParen :: rest)) =
      .ok (e, .comma :: (us ++ .closeParen :: rest)) :=
    h.disjunction rfl (by omega)
  have hd' : Parser.disjunction n (us ++ .closeParen :: rest) = .ok (f, .closeParen :: rest) :=
    h'.disjunction rfl (by omega)
  simp only [List.cons_append, List.append_assoc, List.nil_append, Parser.operand, hname, hd]
  simp only [bind, Except.bind, expect, if_true, hd']
  rfl

end Accepts

theorem accepts_of_derives {r : Rule} {ts : List Token} {e : Expr} (h : Derives r ts e) :
    Accepts r ts e := by
  induction h with
  | ofConjunction h ih => exact ih.ofConjunction (length_pos_of_derives h)
  | or _ _ ih ih' => exact ih.or ih'
  | ofNegation h ih => exact ih.ofNegation (length_pos_of_derives h)
  | and _ _ ih ih' => exact ih.and ih'
  | ofComparison h ih => exact ih.ofComparison (length_pos_of_derives h)
  | not _ ih => exact ih.not
  | ofOperand h ih => exact ih.ofOperand (length_pos_of_derives h)
  | compare op _ _ ih ih' => exact ih.compare op ih'
  | like _ _ ih ih' => exact ih.like ih'
  | literal h => exact .literal h
  | column name => exact .column name
  | word name => exact .word name
  | group _ ih => exact ih.group
  | convert hname ht hk _ ih => exact ih.convert hname ht hk
  | ifNull hname _ _ ih ih' => exact ih.ifNull hname ih'

end TableFilter.Parser

namespace TableFilter.Expr

open TableFilter.Parser

/-- A list of tokens is read as the tree that the grammar derives from it. -/
theorem ofTokens_eq_ok {ts : List Token} {e : Expr} :
    ofTokens ts = .ok e ↔ Derives .disjunction ts e := by
  constructor
  · intro h
    obtain ⟨⟨e', rest⟩, hd, hr⟩ := bind_eq_ok.mp h
    obtain ⟨used, rfl, hu⟩ := (sound _).disjunction hd
    cases rest with
    | nil =>
      cases hr
      rwa [List.append_nil]
    | cons t rest => cases hr
  · intro h
    have hd : Parser.disjunction (6 * ts.length + 6) (ts ++ []) = .ok (e, []) :=
      (accepts_of_derives h).disjunction rfl (by omega)
    rw [List.append_nil] at hd
    rw [ofTokens, hd]
    rfl

end TableFilter.Expr
