import TableFilter.Proofs.Filter.Restoring
import TableFilter.Proofs.View.Choices

/-!
# What is recognised was written so

A filter looks at the form of a predicate and not at the name of the column. So a text filter, a
filter with a check mark and a filter that chooses a value recognise exactly the predicates that
they write for some reference to a column, in which any character may be escaped. Given what a
filter of the same kind has written they take over its input, and from any other predicate they
take nothing or the input that writes it.
-/

namespace TableFilter

open Literal

namespace Form

theorem exists_of_dropName? {seen : Bool} {cs rest : List Char}
    (h : dropName? seen cs = some rest) :
    ∃ name, IsName name ∧ (seen ∨ name ≠ []) ∧ cs = name ++ ']' :: rest := by
  fun_induction dropName? seen cs with
  | case3 cs =>
    cases h
    exact ⟨[], .nil, .inl rfl, rfl⟩
  | case6 _ c cs hc ih =>
    obtain ⟨name, hname, -, rfl⟩ := ih h
    exact ⟨'\\' :: c :: name, .escaped hc hname, .inr (List.cons_ne_nil _ _), rfl⟩
  | case7 _ c cs hend hb hescape ih =>
    obtain ⟨name, hname, -, rfl⟩ := ih h
    -- A backslash would have been followed by the end of the text or by a character.
    have hs : c ≠ '\\' := by
      intro hs
      cases hcs : name ++ ']' :: rest with
      | nil => exact hend hs hcs
      | cons d ds => exact hescape d ds hs hcs
    exact ⟨c :: name, .plain hb hs hname, .inr (List.cons_ne_nil _ _), rfl⟩
  | _ => cases h

theorem dropColumnRef?_eq_some_iff {cs rest : List Char} :
    dropColumnRef? cs = some rest ↔ ∃ r, IsReference r ∧ cs = r.toList ++ rest := by
  constructor
  · intro h
    unfold dropColumnRef? at h
    split at h
    case h_1 cs =>
      obtain ⟨name, hname, hne, rfl⟩ := exists_of_dropName? h
      exact ⟨_, ⟨name, hne.resolve_left Bool.false_ne_true, hname, rfl⟩, by simp⟩
    case h_2 => cases h
  · rintro ⟨r, hr, rfl⟩
    exact dropColumnRef?_reference hr rest

theorem dropText?_eq_some_iff {text : String} {cs rest : List Char} :
    dropText? text cs = some rest ↔ cs = text.toList ++ rest := by
  refine ⟨fun h => ?_, fun h => h ▸ dropText?_append text rest⟩
  unfold dropText? at h
  split at h
  case isTrue hprefix =>
    obtain ⟨tail, rfl⟩ := List.isPrefixOf_iff_prefix.mp hprefix
    rw [← String.length_toList, List.drop_left] at h
    rw [Option.some.inj h]
  case isFalse => cases h

theorem doubleQuotes_undoubleQuotes {cs : List Char} (h : isQuoted cs) :
    doubleQuotes (undoubleQuotes cs) = cs := by
  fun_induction isQuoted cs with
  | case1 => rfl
  | case2 cs ih => exact congrArg (['\'', '\''] ++ ·) (ih h)
  | case3 => cases h
  | case4 c cs hpair hquote ih =>
    have hc : c ≠ '\'' := hquote
    rw [undoubleQuotes, doubleQuotes_cons hc]
    · exact congrArg (c :: ·) (ih h)
    · exact fun _ hc' => absurd hc' hc

/-- What follows the opening quote is recognised if and only if it is a literal with the ending. -/
theorem quotedUpTo?_eq_some_iff {ending : String} (hending : ∀ c ∈ ending.toList, c ≠ '\'')
    {s : String} {cs : List Char} :
    quotedUpTo? ending cs = some s ↔ cs = doubleQuotes (s ++ ending).toList ++ ['\''] := by
  refine ⟨fun h => ?_, fun h => h ▸ quotedUpTo?_quote s ending hending⟩
  simp only [quotedUpTo?] at h
  split at h
  case isTrue hform =>
    simp only [Bool.and_eq_true, decide_eq_true_eq, beq_iff_eq] at hform
    obtain ⟨⟨-, htail⟩, hbody⟩ := hform
    have hparts := List.take_append_drop (cs.length - (ending.toList ++ ['\'']).length) cs
    rw [htail] at hparts
    rw [← Option.some.inj h, String.toList_append, String.toList_ofList, doubleQuotes_append,
      doubleQuotes_undoubleQuotes hbody, doubleQuotes_of_plain hending, List.append_assoc, hparts]
  case isFalse => cases h

end Form

open Form

theorem TextFilter.restore?_eq_some_iff {s : String} {input : Input} :
    restore? s = some input ↔ ∃ r t, IsReference r ∧ s = r ++ " LIKE " ++ quote (t ++ "*") ∧
      input = .text t := by
  have hstar : ∀ c ∈ "*".toList, c ≠ '\'' := by simp
  have hform (r t : String) : s.toList = r.toList ++ (" LIKE '".toList ++
      (doubleQuotes (t ++ "*").toList ++ ['\''])) ↔ s = r ++ " LIKE " ++ quote (t ++ "*") := by
    rw [← String.toList_inj]
    simp [toList_quote]
  simp only [restore?, Option.bind_eq_bind, Option.pure_def, Option.bind_eq_some_iff,
    dropColumnRef?_eq_some_iff, dropText?_eq_some_iff,
    quotedUpTo?_eq_some_iff hstar, Option.some.injEq]
  constructor
  · rintro ⟨_, ⟨r, hr, hs⟩, _, rfl, t, rfl, rfl⟩
    exact ⟨r, t, hr, (hform r t).mp hs, rfl⟩
  · rintro ⟨r, t, hr, hs, rfl⟩
    exact ⟨_, ⟨r, hr, (hform r t).mpr hs⟩, _, rfl, t, rfl, rfl⟩

theorem TruthFilter.restore?_fragment_of_isReference {r : String} (hr : IsReference r)
    {state : TriState} (h : state.isSet) :
    restore? (fragment (.check state) r) = some (.check state) := by
  have hform (b : Bool) : dropColumnRef? (r ++ " = " ++ Value.boolText b).toList =
      some (" = " ++ Value.boolText b).toList :=
    dropColumnRef?_eq_some_iff.mpr ⟨r, hr, by simp⟩
  cases state with
  | unset => cases h
  | true =>
    change restore? (r ++ " = " ++ Value.boolText .true) = _
    rw [restore?, hform]
    rfl
  | false =>
    change restore? (r ++ " = " ++ Value.boolText .false) = _
    rw [restore?, hform]
    rfl

namespace PresenceFilter

theorem nullTest?_eq_some_iff {s : String} {isNull : Bool} :
    nullTest? s = some isNull ↔ ∃ r, IsReference r ∧ s = nullTest r isNull := by
  have hne : ("<> " ++ sentinel).toList ≠ ("= " ++ sentinel).toList := by decide
  have hform (r : String) : s.toList = "Convert(IsNull(".toList ++
      (r.toList ++ ((", " ++ sentinel ++ "), 'System.String') ").toList ++
        ((if isNull then "= " else "<> ") ++ sentinel).toList)) ↔ s = nullTest r isNull := by
    rw [← String.toList_inj]
    cases isNull <;> simp [nullTest, asText]
  have hend (rest : List Char) : (if rest = ("= " ++ sentinel).toList then some true
      else if rest = ("<> " ++ sentinel).toList then some false else none) = some isNull ↔
      rest = ((if isNull then "= " else "<> ") ++ sentinel).toList := by
    cases isNull <;> grind
  simp only [nullTest?, Option.bind_eq_bind, Option.bind_eq_some_iff, dropColumnRef?_eq_some_iff,
    dropText?_eq_some_iff, hend]
  constructor
  · rintro ⟨_, hs, _, ⟨r, hr, rfl⟩, _, rfl, rfl⟩
    exact ⟨r, hr, (hform r).mp hs⟩
  · rintro ⟨r, hr, hs⟩
    exact ⟨_, (hform r).mpr hs, _, ⟨r, hr, rfl⟩, _, rfl, rfl⟩

theorem restore?_eq_some_iff {s : String} {input : Input} :
    restore? s = some input ↔ ∃ r present, IsReference r ∧ s = nullTest r !present ∧
      input = .check (.ofBool present) := by
  rw [restore?, Option.map_eq_some_iff]
  constructor
  · rintro ⟨isNull, hs, rfl⟩
    obtain ⟨r, hr, rfl⟩ := nullTest?_eq_some_iff.mp hs
    exact ⟨r, !isNull, hr, by rw [Bool.not_not], rfl⟩
  · rintro ⟨r, present, hr, hs, rfl⟩
    exact ⟨_, nullTest?_eq_some_iff.mpr ⟨r, hr, hs⟩, by rw [Bool.not_not]⟩

end PresenceFilter

namespace ChoiceFilter

theorem restoreValue?_eq_some_iff {s : String} {c : Choice} :
    restoreValue? s = some c ↔ ∃ r t, IsReference r ∧ s = asText r ++ " = " ++ quote t ∧
      c = .value t := by
  have hnone : ∀ c ∈ "".toList, c ≠ '\'' := by simp
  have hform (r t : String) : s.toList = "Convert(".toList ++ (r.toList ++
      (", 'System.String')".toList ++ (" = '".toList ++ (doubleQuotes (t ++ "").toList ++ ['\'']))))
      ↔ s = asText r ++ " = " ++ quote t := by
    rw [← String.toList_inj]
    simp [asText, toList_quote]
  simp only [restoreValue?, dropAsText?, Option.bind_eq_bind, Option.pure_def,
    Option.bind_eq_some_iff, dropColumnRef?_eq_some_iff, dropText?_eq_some_iff,
    quotedUpTo?_eq_some_iff hnone, Option.some.injEq]
  constructor
  · rintro ⟨_, ⟨_, hs, _, ⟨r, hr, rfl⟩, rfl⟩, _, rfl, t, rfl, rfl⟩
    exact ⟨r, t, hr, (hform r t).mp hs, rfl⟩
  · rintro ⟨r, t, hr, hs, rfl⟩
    exact ⟨_, ⟨_, (hform r t).mpr hs, _, ⟨r, hr, rfl⟩, rfl⟩, _, rfl, t, rfl, rfl⟩

/-- A choice is recognised in what it writes for some reference. -/
theorem restoreChoice?_eq_some_iff {s : String} {c : Choice} :
    restoreChoice? s = some c ↔ c ≠ .all ∧ ∃ r, IsReference r ∧ s = fragment (.choice c) r := by
  have hvalue {r t : String} (hr : IsReference r) :
      PresenceFilter.nullTest? (asText r ++ " = " ++ quote t) = none := by
    obtain ⟨cs, -, -, rfl⟩ := hr
    rw [String.append_assoc]
    exact nullTest?_asText _ _
  unfold restoreChoice?
  split
  case isTrue hnull =>
    constructor
    · intro hc
      obtain ⟨r, hr, rfl⟩ := PresenceFilter.nullTest?_eq_some_iff.mp hnull
      rw [← Option.some.inj hc]
      exact ⟨nofun, r, hr, rfl⟩
    · rintro ⟨hc, r, hr, rfl⟩
      cases c with
      | all => exact absurd rfl hc
      | null => rfl
      | value t => exact nomatch (hvalue hr).symm.trans hnull
  case isFalse hnull =>
    rw [restoreValue?_eq_some_iff]
    constructor
    · rintro ⟨r, t, hr, rfl, rfl⟩
      exact ⟨nofun, r, hr, rfl⟩
    · rintro ⟨hc, r, hr, rfl⟩
      cases c with
      | all => exact absurd rfl hc
      | null => exact absurd (PresenceFilter.nullTest?_eq_some_iff.mpr ⟨r, hr, rfl⟩) hnull
      | value t => exact ⟨r, t, hr, rfl, rfl⟩

theorem restore?_eq_some_iff {values : List String} {hasNull : Bool} {s : String} {input : Input} :
    restore? values hasNull s = some input ↔ ∃ c r, IsReference r ∧ c ≠ .all ∧
      c ∈ choices values hasNull ∧ s = fragment (.choice c) r ∧ input = .choice c := by
  simp only [restore?, Option.map_eq_some_iff, Option.filter_eq_some_iff,
    restoreChoice?_eq_some_iff, offers_iff_mem]
  constructor
  · rintro ⟨c, ⟨⟨hall, r, hr, hs⟩, hc⟩, rfl⟩
    exact ⟨c, r, hr, hall, hc, hs, rfl⟩
  · rintro ⟨c, r, hr, hall, hc, hs, rfl⟩
    exact ⟨c, ⟨⟨hall, r, hr, hs⟩, hc⟩, rfl⟩

end ChoiceFilter

namespace Filter

/-- The input that an active filter writes can be told from what it writes: a text, a check mark, or
a choice that is offered. -/
def IsLegible (f : Filter) : Prop :=
  match f.strategy with
  | .text | .boolean | .presence => True
  | .distinct values hasNull =>
    ChoiceFilter.chosen f.input ∈ ChoiceFilter.choices values hasNull
  | .numeric _ | .date _ _ | .empty => False

theorem strategy_setFilter (f : Filter) (s : String) :
    (f.setFilter s).1.strategy = f.strategy := by
  unfold setFilter
  cases f.strategy.restore? s <;> rfl

theorem input_setFilter {f : Filter} {s : String} {input : Input} (h : f.widget.disposed = false)
    (hs : f.strategy.restore? s = some input) : (f.setFilter s).1.input = input := by
  rw [setFilter, hs]
  exact input_put h input

theorem setFilter_of_unrecognised {f : Filter} {s : String} (hs : f.strategy.restore? s = none) :
    f.setFilter s = (f, []) := by
  rw [setFilter, hs]
  rfl

theorem setFilter_of_disposed {f : Filter} (h : f.widget.disposed) (s : String) :
    (f.setFilter s).1 = f := by
  unfold setFilter
  cases f.strategy.restore? s with
  | none => rfl
  | some input =>
    change (⟨f.strategy, f.widget.put input⟩ : Filter) = f
    rw [Widget.put, Widget.accepts, h]
    rfl

/-- Whatever the reference is, the input is restored exactly. -/
theorem restore?_fragment {f : Filter} {r : String} (hr : IsReference r) (h : f.isActive)
    (hl : f.IsLegible) : f.strategy.restore? (f.fragment r) = some f.input := by
  obtain ⟨strategy, ⟨input, listener, disposed⟩⟩ := f
  cases strategy with
  | text =>
    cases input with
    | text t => exact TextFilter.restore?_eq_some_iff.mpr ⟨r, t, hr, if_pos h, rfl⟩
    | _ => cases h
  | boolean =>
    cases input with
    | check state => exact TruthFilter.restore?_fragment_of_isReference hr h
    | _ => cases h
  | presence =>
    cases input with
    | check state =>
      refine PresenceFilter.restore?_eq_some_iff.mpr ?_
      cases state with
      | unset => cases h
      | true => exact ⟨r, true, hr, rfl, rfl⟩
      | false => exact ⟨r, false, hr, rfl, rfl⟩
    | _ => cases h
  | distinct values hasNull =>
    have hall : ChoiceFilter.chosen input ≠ .all := by
      simpa [isActive, Strategy.isActive, Filter.input] using h
    cases input with
    | choice c => exact ChoiceFilter.restore?_eq_some_iff.mpr ⟨c, r, hr, hall, hl, rfl, rfl⟩
    | _ => exact absurd rfl hall
  | _ => exact absurd hl id

/-- A predicate of the form of text filters changes the text, and no other predicate changes it. -/
theorem setFilter_text {f : Filter} (h : f.strategy = .text) (s : String) :
    (f.setFilter s).1 = f ∨ ∃ r t, IsReference r ∧ s = r ++ " LIKE " ++ quote (t ++ "*") ∧
      (f.setFilter s).1.input = .text t ∧ (t ≠ "" → (f.setFilter s).1.fragment r = s) := by
  by_cases hd : f.widget.disposed
  · exact .inl (setFilter_of_disposed hd s)
  cases hs : f.strategy.restore? s with
  | none => exact .inl (congrArg Prod.fst (setFilter_of_unrecognised hs))
  | some input =>
    have hinput := input_setFilter (Bool.eq_false_iff.mpr hd) hs
    rw [h] at hs
    obtain ⟨r, t, hr, rfl, rfl⟩ := TextFilter.restore?_eq_some_iff.mp hs
    refine .inr ⟨r, t, hr, rfl, hinput, fun ht => ?_⟩
    have hactive : TextFilter.isActive (.text t) := by
      simpa [TextFilter.isActive, TextFilter.entered] using ht
    rw [fragment, strategy_setFilter, h, hinput]
    exact if_pos hactive

/-- A predicate changes the choice if it asks for the missing cells or for a value, and if what it
asks for is offered. -/
theorem setFilter_distinct {f : Filter} {values : List String} {hasNull : Bool}
    (h : f.strategy = .distinct values hasNull) (s : String) :
    (f.setFilter s).1 = f ∨ ∃ r c, IsReference r ∧ c ∈ ChoiceFilter.choices values hasNull ∧
      (f.setFilter s).1.input = .choice c ∧ (f.setFilter s).1.fragment r = s ∧
      ((c = .null ∧ s = PresenceFilter.nullTest r true) ∨
        ∃ t, c = .value t ∧ s = asText r ++ " = " ++ quote t) := by
  by_cases hd : f.widget.disposed
  · exact .inl (setFilter_of_disposed hd s)
  cases hs : f.strategy.restore? s with
  | none => exact .inl (congrArg Prod.fst (setFilter_of_unrecognised hs))
  | some input =>
    have hinput := input_setFilter (Bool.eq_false_iff.mpr hd) hs
    rw [h] at hs
    obtain ⟨c, r, hr, hall, hc, rfl, rfl⟩ := ChoiceFilter.restore?_eq_some_iff.mp hs
    refine .inr ⟨r, c, hr, hc, hinput, ?_, ?_⟩
    · rw [fragment, strategy_setFilter, h, hinput]
      rfl
    · cases c with
      | all => exact absurd rfl hall
      | null => exact .inl ⟨rfl, rfl⟩
      | value t => exact .inr ⟨t, rfl, rfl⟩

/-- What an active filter writes for a named column gives every filter of the same kind exactly the
input of the first, whatever it held. Conversely a text filter and a filter that chooses a value
stay as they are, or take the input that writes the given predicate for some reference; a choice is
taken only if it is offered. -/
theorem setFilter_inverts_fragment :
    (∀ (f g : Filter) (name : String), name ≠ "" → f.IsLegible → f.isActive →
      g.strategy = f.strategy → g.widget.disposed = false →
      (g.setFilter (f.fragment (columnRef name))).1.input = f.input) ∧
    (∀ (f : Filter) (s : String), f.strategy = .text →
      (f.setFilter s).1 = f ∨ ∃ r t, IsReference r ∧ s = r ++ " LIKE " ++ quote (t ++ "*") ∧
        (f.setFilter s).1.input = .text t ∧ (t ≠ "" → (f.setFilter s).1.fragment r = s)) ∧
    (∀ (f : Filter) (s : String) (values : List String) (hasNull : Bool),
      f.strategy = .distinct values hasNull →
      (f.setFilter s).1 = f ∨ ∃ r c, IsReference r ∧ c ∈ ChoiceFilter.choices values hasNull ∧
        (f.setFilter s).1.input = .choice c ∧ (f.setFilter s).1.fragment r = s ∧
        ((c = .null ∧ s = PresenceFilter.nullTest r true) ∨
          ∃ t, c = .value t ∧ s = asText r ++ " = " ++ quote t)) := by
  refine ⟨?_, fun f s h => setFilter_text h s, fun f s _ _ h => setFilter_distinct h s⟩
  intro f g name hn hl h hg hd
  exact input_setFilter hd (hg ▸ restore?_fragment (isReference_columnRef hn) h hl)

theorem setFilter_inverts_fragment_quoted :
    let f : Filter := ⟨.text, { input := .text "it's*" }⟩
    let g : Filter := ⟨.text, { input := .text "old" }⟩
    let d : Filter := .ofStrategy (.distinct ["it's"] true)
    (g.setFilter (f.fragment (columnRef "a]b"))).1.input = .text "it's*" ∧
      ((g.setFilter "[a] LIKE 'b*'").1 = g ∨ ∃ r t, IsReference r ∧
        "[a] LIKE 'b*'" = r ++ " LIKE " ++ quote (t ++ "*") ∧
        (g.setFilter "[a] LIKE 'b*'").1.input = .text t ∧
        (t ≠ "" → (g.setFilter "[a] LIKE 'b*'").1.fragment r = "[a] LIKE 'b*'")) ∧
      ((d.setFilter "[a] = 'b'").1 = d ∨ ∃ r c, IsReference r ∧
        c ∈ ChoiceFilter.choices ["it's"] true ∧ (d.setFilter "[a] = 'b'").1.input = .choice c ∧
        (d.setFilter "[a] = 'b'").1.fragment r = "[a] = 'b'" ∧
        ((c = .null ∧ "[a] = 'b'" = PresenceFilter.nullTest r true) ∨
          ∃ t, c = .value t ∧ "[a] = 'b'" = asText r ++ " = " ++ quote t)) := by
  intro f g d
  exact ⟨setFilter_inverts_fragment.1 f g "a]b" (by decide) trivial (by decide) rfl rfl,
    setFilter_inverts_fragment.2.1 g _ rfl, setFilter_inverts_fragment.2.2 d _ _ _ rfl⟩

end Filter

end TableFilter
