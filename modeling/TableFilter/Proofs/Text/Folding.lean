import TableFilter.Text.CaseFold

/-!
# Folding and lowering

Case is ignored in two ways: by folding every character on its own, and by lowering the whole text.
The two agree on a character unless it is a variant of a letter, a capital without a folding, a
dotted `İ`, or a capital sigma at the end of a word. Where they do not agree, something else can be
put in the place of the character that is the same to one of them and not to the other.
-/

namespace TableFilter.Text

variable {before before' after after' cs ds : List Char} {c : Char}

def lowerAt (before : List Char) (c : Char) (after : List Char) : List Char :=
  if c = 'İ' then ['i', '\u0307']
  else if c = 'Σ' then if meetsCased before && !meetsCased after then ['ς'] else ['σ']
  else [lowerChar c]

theorem lowerAfter_cons (before : List Char) (c : Char) (after : List Char) :
    lowerAfter before (c :: after) = lowerAt before c after ++ lowerAfter (c :: before) after := rfl

theorem meetsCased_cons (c : Char) (cs : List Char) :
    meetsCased (c :: cs) = if isCaseIgnorable c then meetsCased cs else isCased c := by
  unfold meetsCased
  by_cases h : isCaseIgnorable c <;> simp [h]

theorem meetsCased_cons_congr (h : meetsCased cs = meetsCased ds) :
    meetsCased (c :: cs) = meetsCased (c :: ds) := by
  rw [meetsCased_cons, meetsCased_cons, h]

theorem meetsCased_cons_of_isCaseIgnorable (h : isCaseIgnorable c) :
    meetsCased (c :: cs) = meetsCased cs := by
  rw [meetsCased_cons, if_pos h]

theorem meetsCased_cons_of_isCased (h : isCaseIgnorable c = false) (hc : isCased c) :
    meetsCased (c :: cs) = true := by
  rw [meetsCased_cons, h, hc]
  rfl

/-- Of what stands around a character it matters only whether a cased one comes first. -/
theorem lowerAt_congr (hb : meetsCased before = meetsCased before')
    (ha : meetsCased after = meetsCased after') (c : Char) :
    lowerAt before c after = lowerAt before' c after' := by
  rw [lowerAt, lowerAt, hb, ha]

theorem lowerAfter_congr (hb : meetsCased before = meetsCased before') (cs : List Char) :
    lowerAfter before cs = lowerAfter before' cs := by
  induction cs generalizing before before' with
  | nil => rfl
  | cons c cs ih =>
    rw [lowerAfter_cons, lowerAfter_cons, lowerAt_congr hb rfl, ih (meetsCased_cons_congr hb)]

theorem length_lowerAt (before : List Char) (c : Char) (after : List Char) :
    (lowerAt before c after).length = if c = 'İ' then 2 else 1 := by
  unfold lowerAt
  split
  · rfl
  · split
    · split <;> rfl
    · rfl

section Tables

variable {lo n : Nat}

theorem inRanges_dropWhile (h : lo ≤ n) (rs : List (Nat × Nat)) :
    inRanges n (rs.dropWhile fun r => r.1 < lo && r.2 < lo) = inRanges n rs := by
  induction rs with
  | nil => rfl
  | cons r rs ih =>
    obtain ⟨first, last⟩ := r
    by_cases hr : first < lo ∧ last < lo
    · rw [List.dropWhile_cons_of_pos (by simpa using hr), ih, inRanges, if_neg (by omega),
        if_neg (by omega)]
    · rw [List.dropWhile_cons_of_neg (by simpa using hr)]

theorem lowerIn_dropWhile (h : lo ≤ n) (runs : List (Nat × Nat × Nat × Nat)) :
    lowerIn n (runs.dropWhile fun r => r.1 < lo && r.2.1 < lo) = lowerIn n runs := by
  induction runs with
  | nil => rfl
  | cons r runs ih =>
    obtain ⟨first, last, step, image⟩ := r
    by_cases hr : first < lo ∧ last < lo
    · rw [List.dropWhile_cons_of_pos (by simpa using hr), ih, lowerIn, if_neg (by omega),
        if_neg (by omega)]
    · rw [List.dropWhile_cons_of_neg (by simpa using hr)]

theorem exists_mem_of_inRanges {rs : List (Nat × Nat)} (h : inRanges n rs) :
    ∃ r ∈ rs, r.1 ≤ n ∧ n ≤ r.2 := by
  induction rs with
  | nil => cases h
  | cons r rs ih =>
    rw [inRanges] at h
    split at h
    · cases h
    · split at h
      · exact ⟨r, List.mem_cons_self, by omega, by omega⟩
      · obtain ⟨q, hq, hn⟩ := ih h
        exact ⟨q, List.mem_cons_of_mem r hq, hn⟩

end Tables

/-- The character is lowered to something else in this place than to its folding. -/
def IsApart (before : List Char) (c : Char) (after : List Char) : Prop :=
  c = 'İ' ∨ (c = 'Σ' ∧ meetsCased before ∧ meetsCased after = false) ∨
    (foldVariants.lookup c.toNat).isSome ∨ inRanges c.toNat unfoldedRanges

theorem foldChar_of_none (hvariant : foldVariants.lookup c.toNat = none)
    (hunfolded : inRanges c.toNat unfoldedRanges = false) : foldChar c = lowerChar c := by
  simp only [foldChar, hvariant, hunfolded, Bool.false_eq_true, if_false]

theorem lowerAt_of_not_isApart (h : ¬ IsApart before c after) :
    lowerAt before c after = [foldChar c] := by
  simp only [IsApart, not_or] at h
  obtain ⟨hdotted, hsigma, hvariant, hunfolded⟩ := h
  unfold lowerAt
  rw [if_neg hdotted]
  by_cases hc : c = 'Σ'
  · have hinside : (meetsCased before && !meetsCased after) = false := by
      simpa [hc] using hsigma
    rw [if_pos hc, hinside, hc]
    decide
  · rw [if_neg hc, foldChar_of_none (Option.not_isSome_iff_eq_none.mp hvariant)
      (eq_false_of_ne_true hunfolded)]

def IsPlain : List Char → List Char → Prop
  | _, [] => True
  | before, c :: after => ¬ IsApart before c after ∧ IsPlain (c :: before) after

instance (before : List Char) (c : Char) (after : List Char) : Decidable (IsApart before c after) :=
  inferInstanceAs (Decidable (_ ∨ _))

def IsPlain.decide : (before cs : List Char) → Decidable (IsPlain before cs)
  | _, [] => inferInstanceAs (Decidable True)
  | before, c :: after =>
    have := IsPlain.decide (c :: before) after
    inferInstanceAs (Decidable (_ ∧ _))

instance (before cs : List Char) : Decidable (IsPlain before cs) := IsPlain.decide before cs

theorem IsPlain.lowerAfter_eq (h : IsPlain before cs) : lowerAfter before cs = cs.map foldChar := by
  induction cs generalizing before with
  | nil => rfl
  | cons c cs ih =>
    rw [lowerAfter_cons, lowerAt_of_not_isApart h.1, ih h.2, List.map_cons, List.singleton_append]

/-- The texts are the same but for case to folding or to lowering, and not to both. -/
def ComeApart (before cs ds : List Char) : Prop :=
  (ds.map foldChar = cs.map foldChar ∧ lowerAfter before ds ≠ lowerAfter before cs) ∨
    (ds.map foldChar ≠ cs.map foldChar ∧ lowerAfter before ds = lowerAfter before cs ∧
      meetsCased ds = meetsCased cs)

theorem ComeApart.not_iff (h : ComeApart before cs ds) :
    ¬ (ds.map foldChar = cs.map foldChar ↔ lowerAfter before ds = lowerAfter before cs) := by
  obtain ⟨hfold, hlower⟩ | ⟨hfold, hlower, -⟩ := h
  · exact fun h => hlower (h.mp hfold)
  · exact fun h => hfold (h.mpr hlower)

theorem ComeApart.cons (h : ComeApart (c :: before) cs ds) :
    ComeApart before (c :: cs) (c :: ds) := by
  obtain ⟨hfold, hlower⟩ | ⟨hfold, hlower, hmeets⟩ := h
  · refine .inl ⟨by rw [List.map_cons, List.map_cons, hfold], fun h => hlower ?_⟩
    rw [lowerAfter_cons, lowerAfter_cons] at h
    have hlength : (lowerAt before c ds).length = (lowerAt before c cs).length := by
      rw [length_lowerAt, length_lowerAt]
    exact (List.append_inj h hlength).2
  · refine .inr ⟨fun h => hfold (List.cons.inj h).2, ?_, meetsCased_cons_congr hmeets⟩
    rw [lowerAfter_cons, lowerAfter_cons, hlower, lowerAt_congr rfl hmeets]

/-- What stands around the character has no part in how it is lowered. -/
def IsSteady (c : Char) : Prop := c ≠ 'İ' ∧ c ≠ 'Σ'

instance (c : Char) : Decidable (IsSteady c) := inferInstanceAs (Decidable (_ ∧ _))

theorem IsSteady.lowerAfter_cons (h : IsSteady c) (before after : List Char) :
    lowerAfter before (c :: after) = lowerChar c :: lowerAfter (c :: before) after := by
  rw [Text.lowerAfter_cons, lowerAt, if_neg h.1, if_neg h.2, List.singleton_append]

/-- Variants and the letters they fold to are lower case, and different. -/
theorem foldVariants_check : ∀ q ∈ foldVariants,
    let c := Char.ofNat q.1
    let d := Char.ofNat q.2
    c ≠ d ∧ 'Z' < d ∧ IsSteady c ∧ IsSteady d ∧ foldChar d = d ∧ lowerChar c = c ∧
      lowerChar d = d := by
  decide +kernel

/-- A capital without a folding has a lower-case letter, which stands in words as the capital does.
The tables are entered at the range, since they are searched from their beginning. -/
theorem unfolded_check : ∀ q ∈ unfoldedRanges, ∀ n ∈ List.range' q.1 (q.2 + 1 - q.1),
    let runs := lowerRuns.dropWhile fun r => r.1 < q.1 && r.2.1 < q.1
    let cased := casedRanges.dropWhile fun r => r.1 < q.1 && r.2 < q.1
    let ignorable := caseIgnorableRanges.dropWhile fun r => r.1 < q.1 && r.2 < q.1
    let c := Char.ofNat n
    let d := Char.ofNat (lowerIn n runs)
    c ≠ d ∧ 'Z' < d ∧ IsSteady c ∧ IsSteady d ∧ q.1 ≤ d.toNat ∧
      Char.ofNat (lowerIn d.toNat runs) = d ∧ foldVariants.lookup n = none ∧
      foldVariants.lookup d.toNat = none ∧ inRanges d.toNat unfoldedRanges = false ∧
      inRanges d.toNat ignorable = inRanges n ignorable ∧
      inRanges d.toNat cased = inRanges n cased := by
  decide +kernel

theorem unfolded_apart (h : inRanges c.toNat unfoldedRanges) :
    c ≠ lowerChar c ∧ 'Z' < lowerChar c ∧ IsSteady c ∧ IsSteady (lowerChar c) ∧
      foldChar c = c ∧ lowerChar (lowerChar c) = lowerChar c ∧
      foldChar (lowerChar c) = lowerChar c ∧ isCaseIgnorable (lowerChar c) = isCaseIgnorable c ∧
      isCased (lowerChar c) = isCased c := by
  obtain ⟨q, hq, hfirst, hlast⟩ := exists_mem_of_inRanges h
  have hn : c.toNat ∈ List.range' q.1 (q.2 + 1 - q.1) := by
    rw [List.mem_range'_1]
    omega
  have hcheck := unfolded_check q hq c.toNat hn
  simp only [lowerIn_dropWhile hfirst, Char.ofNat_toNat] at hcheck
  obtain ⟨hne, hd, hsteady, hsteady', hlo, hlower, hvariant, hvariant', hunfolded, hignorable,
    hcased⟩ := hcheck
  rw [lowerIn_dropWhile hlo] at hlower
  rw [inRanges_dropWhile hlo, inRanges_dropWhile hfirst] at hignorable hcased
  have hfold : foldChar c = c := by simp only [foldChar, hvariant, h, if_true]
  exact ⟨hne, hd, hsteady, hsteady', hfold, hlower,
    (foldChar_of_none hvariant' hunfolded).trans hlower, hignorable, hcased⟩

/-- Lowered, `İ` is these two characters, and folding keeps one for one. -/
theorem comeApart_dotted (before after : List Char) :
    ComeApart before ('İ' :: after) ('i' :: '\u0307' :: after) := by
  have hletter : IsSteady 'i' := by decide
  have hdot : IsSteady '\u0307' := by decide
  have hmeets (cs : List Char) : meetsCased ('i' :: cs) = true :=
    meetsCased_cons_of_isCased (by decide) (by decide)
  have hmeets' (cs : List Char) : meetsCased ('İ' :: cs) = true :=
    meetsCased_cons_of_isCased (by decide) (by decide)
  have hbehind : meetsCased ('\u0307' :: 'i' :: before) = meetsCased ('İ' :: before) := by
    rw [meetsCased_cons_of_isCaseIgnorable (by decide), hmeets, hmeets']
  refine .inr ⟨fun h => ?_, ?_, by rw [hmeets, hmeets']⟩
  · simpa using congrArg List.length h
  · rw [hletter.lowerAfter_cons, hdot.lowerAfter_cons, lowerAfter_congr hbehind]
    rfl

/-- A small sigma stays as it is at the end of a word. -/
theorem comeApart_sigma (hbefore : meetsCased before) (hafter : meetsCased after = false) :
    ComeApart before ('Σ' :: after) ('σ' :: after) := by
  have hsmall : IsSteady 'σ' := by decide
  have hfold : foldChar 'σ' = foldChar 'Σ' := by decide
  refine .inl ⟨by rw [List.map_cons, List.map_cons, hfold], fun h => ?_⟩
  rw [hsmall.lowerAfter_cons, lowerAfter_cons, lowerAt, if_neg (by decide), if_pos rfl, hbefore,
    hafter] at h
  exact absurd (List.cons.inj h).1 (by decide)

/-- A variant and its letter have the same folding, and both stay as they are when lowered. -/
theorem comeApart_variant {n : Nat} (h : foldVariants.lookup c.toNat = some n) :
    'Z' < Char.ofNat n ∧ ComeApart before (c :: after) (.ofNat n :: after) := by
  obtain ⟨front, rest, hvariants, -⟩ := List.lookup_eq_some_iff.mp h
  have hmem : (c.toNat, n) ∈ foldVariants := by simp [hvariants]
  have hcheck := foldVariants_check _ hmem
  simp only [Char.ofNat_toNat] at hcheck
  obtain ⟨hne, hletter, hsteady, hsteady', hfold, hlower, hlower'⟩ := hcheck
  have hfold' : foldChar c = .ofNat n := by rw [foldChar, h]
  refine ⟨hletter, .inl ⟨by rw [List.map_cons, List.map_cons, hfold, hfold'], fun h => hne ?_⟩⟩
  rw [hsteady'.lowerAfter_cons, hsteady.lowerAfter_cons, hlower, hlower'] at h
  exact (List.cons.inj h).1.symm

/-- A capital without a folding is lowered to its letter, which has a folding of its own. -/
theorem comeApart_unfolded (h : inRanges c.toNat unfoldedRanges) :
    'Z' < lowerChar c ∧ ComeApart before (c :: after) (lowerChar c :: after) := by
  obtain ⟨hne, hletter, hsteady, hsteady', hfold, hlower, hfold', hignorable, hcased⟩ :=
    unfolded_apart h
  have hmeets (cs : List Char) : meetsCased (lowerChar c :: cs) = meetsCased (c :: cs) := by
    rw [meetsCased_cons, meetsCased_cons, hignorable, hcased]
  refine ⟨hletter, .inr ⟨fun h => hne ?_, ?_, hmeets after⟩⟩
  · rw [List.map_cons, List.map_cons, hfold, hfold'] at h
    exact (List.cons.inj h).1.symm
  · rw [hsteady'.lowerAfter_cons, hsteady.lowerAfter_cons, hlower, lowerAfter_congr (hmeets before)]

/-- Where lowering and folding are apart, letters can be put that come apart from what is there. -/
theorem IsApart.exists_comeApart (h : IsApart before c after) :
    ∃ ds, (∀ d ∈ ds, 'Z' < d) ∧ ComeApart before (c :: after) (ds ++ after) := by
  obtain rfl | ⟨rfl, hbefore, hafter⟩ | hvariant | hunfolded := h
  · exact ⟨['i', '\u0307'], by simp, comeApart_dotted before after⟩
  · exact ⟨['σ'], by simp, comeApart_sigma hbefore hafter⟩
  · obtain ⟨n, hn⟩ := Option.isSome_iff_exists.mp hvariant
    obtain ⟨hletter, hapart⟩ := comeApart_variant hn
    exact ⟨[.ofNat n], by simpa using hletter, hapart⟩
  · obtain ⟨hletter, hapart⟩ := comeApart_unfolded hunfolded
    exact ⟨[lowerChar c], by simpa using hletter, hapart⟩

/-- A text that is not plain comes apart from another one, in which all that is new are letters. -/
theorem exists_comeApart (h : ¬ IsPlain before cs) :
    ∃ ds, (∀ d ∈ ds, d ∈ cs ∨ 'Z' < d) ∧ ComeApart before cs ds := by
  induction cs generalizing before with
  | nil => exact absurd trivial h
  | cons c cs ih =>
    by_cases hc : IsApart before c cs
    · obtain ⟨ds, hds, hapart⟩ := hc.exists_comeApart
      refine ⟨ds ++ cs, fun d hd => ?_, hapart⟩
      obtain hd | hd := List.mem_append.mp hd
      · exact .inr (hds d hd)
      · exact .inl (List.mem_cons_of_mem c hd)
    · obtain ⟨ds, hds, hapart⟩ := ih fun hplain => h ⟨hc, hplain⟩
      refine ⟨c :: ds, fun d hd => ?_, hapart.cons⟩
      obtain rfl | hd := List.mem_cons.mp hd
      · exact .inl List.mem_cons_self
      · exact (hds d hd).imp_left (List.mem_cons_of_mem c)

end TableFilter.Text
