import Mathlib.Data.List.Nodup
import TableFilter.FilterBar.Basic

/-!
# The order of the active filters

The filters that take part in the predicate of a bar are arranged by the display index of their
column, and by their position in the bar where columns share an index. The sorting of the bar looks
at the display index alone; it is stable, and the filters come to it in the order of their
positions.
-/

namespace TableFilter

section Stable

variable {α : Type} {le : α → α → Bool}

/-- The members that are equivalent to a given one stay in their order. -/
theorem filter_mergeSort (trans : ∀ a b c, le a b → le b c → le a c)
    (total : ∀ a b, le a b || le b a) (l : List α) (a : α) :
    (l.mergeSort le).filter (fun x => le a x && le x a) = l.filter fun x => le a x && le x a := by
  have hpairwise : (l.filter fun x => le a x && le x a).Pairwise (le · ·) := by
    apply List.pairwise_of_forall_mem_list
    intro x hx y hy
    have hx' := (List.mem_filter.mp hx).2
    have hy' := (List.mem_filter.mp hy).2
    rw [Bool.and_eq_true] at hx' hy'
    exact trans x a y hx'.2 hy'.1
  have hsub := (List.sublist_mergeSort trans total hpairwise List.filter_sublist).filter
    fun x => le a x && le x a
  simp only [List.filter_filter, Bool.and_self] at hsub
  have hlen := ((List.mergeSort_perm l le).filter fun x => le a x && le x a).length_eq
  exact (hsub.eq_of_length hlen.symm).symm

/-- Sorting keeps a relation between earlier and later members where it does not decide itself. -/
theorem pairwise_mergeSort_of_pairwise (trans : ∀ a b c, le a b → le b c → le a c)
    (total : ∀ a b, le a b || le b a) {r : α → α → Prop} {l : List α} (h : l.Pairwise r) :
    (l.mergeSort le).Pairwise fun a b => le a b ∧ (le b a → r a b) := by
  rw [List.pairwise_iff_forall_sublist]
  intro a b hab
  have hle : le a b :=
    List.pairwise_iff_forall_sublist.mp (List.pairwise_mergeSort trans total l) hab
  refine ⟨hle, fun hge => ?_⟩
  have hrefl : le a a := by simpa using total a a
  have hsub := hab.filter fun x => le a x && le x a
  rw [filter_mergeSort trans total] at hsub
  have hpair : [a, b].filter (fun x => le a x && le x a) = [a, b] := by
    simp [hrefl, hle, hge]
  rw [hpair] at hsub
  exact List.pairwise_iff_forall_sublist.mp h (hsub.trans List.filter_sublist)

end Stable

structure Placed where
  displayIndex : Nat
  position : Nat
  binding : Binding

namespace Placed

def Before (a b : Placed) : Prop :=
  a.displayIndex < b.displayIndex ∨ a.displayIndex = b.displayIndex ∧ a.position < b.position

end Placed

namespace FilterBar

/-- The list has every active filter with a visible column once, in the order of display. -/
structure Arranges (bar : FilterBar) (placed : List Placed) : Prop where
  sorted : placed.Pairwise Placed.Before
  mem_iff : ∀ p, p ∈ placed ↔ bar.bindings[p.position]? = some p.binding ∧
    p.binding.filter.isActive ∧ ∃ c ∈ bar.view.columns,
      c.name = p.binding.column ∧ c.visible ∧ c.displayIndex = p.displayIndex

variable (bar : FilterBar)

def placed? (b : Binding) (position : Nat) : Option Placed := do
  let c ← bar.view.column? b.column
  if c.visible && b.filter.isActive then some ⟨c.displayIndex, position, b⟩ else none

def placedInBar : List Placed :=
  bar.bindings.zipIdx.filterMap fun (b, position) => bar.placed? b position

def arranged : List Placed :=
  bar.placedInBar.mergeSort fun a b => a.displayIndex ≤ b.displayIndex

variable {bar}

theorem column?_eq_some (hnodup : (bar.view.columns.map (·.name)).Nodup) {name : String}
    {c : Column} : bar.view.column? name = some c ↔ c ∈ bar.view.columns ∧ c.name = name := by
  constructor
  · intro h
    exact ⟨List.mem_of_find?_eq_some h, by simpa using List.find?_some h⟩
  · rintro ⟨hc, rfl⟩
    cases h : bar.view.column? c.name with
    | none =>
      have hne := List.find?_eq_none.mp h c hc
      simp at hne
    | some c' =>
      have hc' := List.mem_of_find?_eq_some h
      have hname : c'.name = c.name := by simpa using List.find?_some h
      rw [List.inj_on_of_nodup_map hnodup hc' hc hname]

theorem placed?_eq_some {b : Binding} {position : Nat} {p : Placed} :
    bar.placed? b position = some p ↔ p.position = position ∧ p.binding = b ∧ b.filter.isActive ∧
      ∃ c, bar.view.column? b.column = some c ∧ c.visible ∧ c.displayIndex = p.displayIndex := by
  obtain ⟨displayIndex, position', binding⟩ := p
  unfold placed?
  cases bar.view.column? b.column with
  | none => simp
  | some c =>
    simp only [Option.bind_eq_bind, Option.bind_some, Option.ite_none_right_eq_some,
      Bool.and_eq_true, Option.some.injEq, Placed.mk.injEq, exists_eq_left']
    constructor
    · rintro ⟨⟨hv, ha⟩, hd, rfl, rfl⟩
      exact ⟨rfl, rfl, ha, hv, hd⟩
    · rintro ⟨rfl, rfl, ha, hv, hd⟩
      exact ⟨⟨hv, ha⟩, hd, rfl, rfl⟩

theorem mem_placedInBar {p : Placed} :
    p ∈ bar.placedInBar ↔ bar.bindings[p.position]? = some p.binding ∧
      p.binding.filter.isActive ∧ ∃ c, bar.view.column? p.binding.column = some c ∧ c.visible ∧
        c.displayIndex = p.displayIndex := by
  rw [placedInBar, List.mem_filterMap]
  constructor
  · rintro ⟨⟨b, position⟩, hb, hp⟩
    obtain ⟨rfl, rfl, ha, hc⟩ := placed?_eq_some.mp hp
    exact ⟨List.mem_zipIdx_iff_getElem?.mp hb, ha, hc⟩
  · rintro ⟨hb, ha, hc⟩
    exact ⟨(p.binding, p.position), List.mem_zipIdx_iff_getElem?.mpr hb,
      placed?_eq_some.mpr ⟨rfl, rfl, ha, hc⟩⟩

theorem pairwise_placedInBar : bar.placedInBar.Pairwise fun p q => p.position < q.position := by
  have hz : bar.bindings.zipIdx.Pairwise fun a b => a.2 < b.2 := by
    rw [← List.pairwise_map, List.zipIdx_map_snd]
    exact List.pairwise_lt_range'
  refine hz.filterMap _ fun a b hab p hp q hq => ?_
  obtain ⟨hp', -⟩ := placed?_eq_some.mp hp
  obtain ⟨hq', -⟩ := placed?_eq_some.mp hq
  omega

/-- The sorting of the bar arranges the filters as they are shown. -/
theorem arranges_arranged (hnodup : (bar.view.columns.map (·.name)).Nodup) :
    bar.Arranges bar.arranged where
  sorted := by
    have hs : bar.arranged.Pairwise fun a b => decide (a.displayIndex ≤ b.displayIndex) ∧
        (decide (b.displayIndex ≤ a.displayIndex) → a.position < b.position) :=
      pairwise_mergeSort_of_pairwise (fun a b c => by simpa using Nat.le_trans)
        (fun a b => by simp; omega) bar.pairwise_placedInBar
    refine hs.imp fun {a b} h => ?_
    obtain ⟨hle, hpos⟩ := h
    simp only [decide_eq_true_eq] at hle hpos
    by_cases heq : b.displayIndex ≤ a.displayIndex
    · exact .inr ⟨by omega, hpos heq⟩
    · exact .inl (by omega)
  mem_iff p := by
    rw [arranged, List.mem_mergeSort, mem_placedInBar]
    simp only [column?_eq_some hnodup, and_assoc]

theorem active_eq_map :
    bar.active = bar.placedInBar.map fun p => (p.displayIndex, p.binding.fragment) := by
  have hb : bar.bindings = bar.bindings.zipIdx.map Prod.fst :=
    (List.zipIdx_map_fst 0 bar.bindings).symm
  have hplaced : ∀ (b : Binding) (position : Nat) (c : Column),
      (if c.visible && b.filter.isActive then some (c.displayIndex, b.fragment) else none) =
        (if c.visible && b.filter.isActive then some (⟨c.displayIndex, position, b⟩ : Placed)
          else none).map fun p => (p.displayIndex, p.binding.fragment) := by
    intro b position c
    split <;> rfl
  rw [active, placedInBar, List.map_filterMap]
  conv_lhs => rw [hb]
  rw [List.filterMap_map]
  congr 1
  funext ⟨b, position⟩
  simp only [Function.comp_apply, placed?, Option.bind_eq_bind, Option.map_bind]
  exact congrArg _ (funext fun c => hplaced b position c)

theorem fragments_eq_map : bar.fragments = bar.arranged.map fun p => p.binding.fragment := by
  have hm := List.map_mergeSort (r := fun a b : Placed => decide (a.displayIndex ≤ b.displayIndex))
    (s := fun a b : Nat × String => decide (a.1 ≤ b.1))
    (f := fun p => (p.displayIndex, p.binding.fragment)) (l := bar.placedInBar)
    fun _ _ _ _ => rfl
  rw [fragments, active_eq_map, ← hm, List.map_map]
  rfl

end FilterBar
end TableFilter
