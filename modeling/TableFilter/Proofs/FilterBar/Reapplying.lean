import TableFilter.Proofs.Filter.Surviving
import TableFilter.Proofs.FilterBar.Snapshots

/-!
# Filters are given back to the bar that has them

A bar that is given what its filters write restores every filter from its own predicate. Filters
without criteria stay without, those that were disposed of stay as they are, and so do those that do
not recognise what they have written. The others take their criteria anew. All of them write the
same as before, and the same predicate is composed, if and only if the criteria survive this.
-/

namespace TableFilter

open Literal

namespace Filter

variable {f : Filter}

theorem put_of_disposed (h : f.widget.disposed) (input : Input) : (f.put input).1 = f := by
  simp [put, Widget.put, Widget.accepts, h]

theorem putSome_of_disposed (h : f.widget.disposed) (input : Option Input) :
    (f.putSome input).1 = f := by
  cases input with
  | none => rfl
  | some input => exact put_of_disposed h input

theorem isActive_clear_of_inactive (h : f.isActive = false) : f.clear.1.isActive = false := by
  cases hd : f.widget.disposed with
  | false => exact isActive_clear hd
  | true => rwa [clear, putSome_of_disposed hd]

end Filter

namespace Binding

variable {b : Binding}

/-- If the filter has criteria and can take others, what it takes from its own predicate writes that
predicate. -/
def Survives (b : Binding) : Prop :=
  b.filter.isActive → b.filter.widget.disposed = false → b.filter.strategy.Survives b.filter.input

theorem fragment_restore_self_iff (hn : b.column ≠ "") :
    (b.restore b.fragment).fragment = b.fragment ↔ b.Survives := by
  by_cases hactive : b.filter.isActive
  case neg =>
    have hempty : b.fragment = "" := if_neg hactive
    have hclear := Filter.isActive_clear_of_inactive (Bool.eq_false_iff.mpr hactive)
    rw [hempty, restore, if_pos rfl]
    exact iff_of_true (if_neg (Bool.eq_false_iff.mp hclear)) fun h => absurd h hactive
  have hne := fragment_ne_empty hn hactive
  rw [Survives, imp_iff_right hactive]
  cases hd : b.filter.widget.disposed with
  | true =>
    have hkept : b.restore b.fragment = b := by
      rw [restore, if_neg hne, Filter.setFilter, Filter.putSome_of_disposed hd]
    rw [hkept]
    exact iff_of_true rfl fun h => Bool.noConfusion h
  | false =>
    rw [imp_iff_right rfl, Strategy.survives_iff hn hactive, ← fragment_eq]
    cases hr : b.filter.strategy.restore? b.fragment with
    | none =>
      rw [restore_of_none hne hr]
      simp
    | some input =>
      rw [fragment_restore_of_some hd hne hr]
      simp

end Binding

namespace FilterBar

variable {bar : FilterBar}

/-- Every filter is given its own predicate. -/
theorem bindings_setFilters_filters (bar : FilterBar) :
    (bar.setFilters bar.filters).bindings = bar.bindings.map fun b => b.restore b.fragment := by
  have hrecompute : (bar.setFilters bar.filters).bindings = (bar.restore bar.filters).bindings :=
    (alike_recompute _).bindings
  rw [hrecompute, bindings_restore, filters, List.length_map, List.drop_length, List.append_nil,
    List.zipWith_map_right, List.zipWith_self]

theorem filters_setFilters_iff (hn : ∀ b ∈ bar.bindings, b.column ≠ "") :
    (bar.setFilters bar.filters).filters = bar.filters ↔ ∀ b ∈ bar.bindings, b.Survives := by
  have hmap : (bar.setFilters bar.filters).filters =
      bar.bindings.map fun b => (b.restore b.fragment).fragment := by
    rw [filters, bindings_setFilters_filters, List.map_map]
    rfl
  rw [hmap, filters, List.map_inj_left]
  exact forall₂_congr fun b hb => Binding.fragment_restore_self_iff (hn b hb)

theorem map_column_setFilters (bar : FilterBar) :
    (bar.setFilters bar.filters).bindings.map (·.column) = bar.bindings.map (·.column) := by
  rw [bindings_setFilters_filters, List.map_map]
  exact List.map_congr_left fun b _ => b.column_restore b.fragment

def ageView : View := .memory { table := ⟨"people"⟩, columns := [.ofName "age" .number] }

def boundedBar (low high : String) : FilterBar :=
  { ofSettings ageView {} with
    bindings := [⟨"age", "age", ⟨.numeric true,
      { input := .operands "<x<" low high, listener := some 0 }⟩⟩]
    queue := [⟨.changed, 0⟩] }.process

theorem edit_boundedBar (low high : String) : (ofSettings ageView {}).edit "age"
    [.setNumeric (some .between) (some low) (some high)] = .ok (boundedBar low high) := by
  have ha := alike_ofSettings ageView {}
  have hbindings : (ofSettings ageView {}).bindings =
      [⟨"age", "age", ⟨.numeric true,
        { input := .operands "=" "" "", listener := some 0 }⟩⟩] := ha.bindings
  have hqueue : (ofSettings ageView {}).queue = [] := ha.queue
  simp only [edit, editDirectly, filter?, hbindings, hqueue]
  rfl

theorem bindings_boundedBar (low high : String) : (boundedBar low high).bindings =
    [⟨"age", "age", ⟨.numeric true, { input := .operands "<x<" low high, listener := some 0 }⟩⟩] :=
  (alike_process _).bindings

/-- Giving a bar what its filters write leaves what they write and what is composed of it as it is,
if and only if the criteria of all filters survive that. -/
theorem own_filters_survive (hn : ∀ b ∈ bar.bindings, b.column ≠ "") :
    ((bar.setFilters bar.filters).filters = bar.filters ↔ ∀ b ∈ bar.bindings, b.Survives) ∧
      ((bar.setFilters bar.filters).filters = bar.filters →
        (bar.setFilters bar.filters).compose = bar.compose) := by
  refine ⟨filters_setFilters_iff hn, fun hfilters => ?_⟩
  have ha : Alike (bar.setFilters bar.filters) (bar.restore bar.filters) := alike_recompute _
  have hsettings : SameSettings (bar.setFilters bar.filters) bar :=
    (sameSettings_recompute _).trans ⟨rfl, rfl, rfl, rfl, rfl, rfl⟩
  have hbound := bar.map_column_setFilters
  have hn' : ∀ b ∈ (bar.setFilters bar.filters).bindings, b.column ≠ "" := by
    intro b hb
    have hmem := List.mem_map_of_mem (f := (·.column)) hb
    rw [hbound] at hmem
    obtain ⟨old, hold, heq⟩ := List.mem_map.mp hmem
    rw [← heq]
    exact hn old hold
  exact compose_congr hsettings ha.table ha.columns hn' hn hbound hfilters

/-- A range with two bounds stays. -/
theorem own_filters_survive_range :
    (boundedBar "1" "5").filters = ["[age] >= 1 AND [age] <= 5"] ∧
      ((boundedBar "1" "5").setFilters (boundedBar "1" "5").filters).filters =
        ["[age] >= 1 AND [age] <= 5"] ∧
      ((boundedBar "1" "5").setFilters (boundedBar "1" "5").filters).compose =
        (boundedBar "1" "5").compose := by
  have hbindings := bindings_boundedBar "1" "5"
  have hfilters : (boundedBar "1" "5").filters = ["[age] >= 1 AND [age] <= 5"] := by
    rw [filters, hbindings]
    decide
  have hnamed : ∀ b ∈ (boundedBar "1" "5").bindings, b.column ≠ "" := by
    rw [hbindings]
    decide
  obtain ⟨hiff, hcompose⟩ := own_filters_survive hnamed
  have hsame := hiff.mpr <| by
    intro b hb _ _
    rw [hbindings] at hb
    rw [List.mem_singleton.mp hb]
    rintro - low high hlow hhigh
    obtain rfl : _ = low := Option.some.inj hlow
    obtain rfl : _ = high := Option.some.inj hhigh
    decide
  exact ⟨hfilters, hsame.trans hfilters, hcompose hsame⟩

/-- A range from the least to the greatest number is lost to the bar that has it. -/
theorem widest_range_is_lost : ∃ bar : FilterBar,
    (ofSettings ageView {}).edit "age" [.setNumeric (some .between)
      (some "-79228162514264337593543950335") (some "79228162514264337593543950335")] = .ok bar ∧
    (∀ b ∈ bar.bindings, b.column ≠ "") ∧
    bar.filters =
      ["[age] >= -79228162514264337593543950335 AND [age] <= 79228162514264337593543950335"] ∧
    (bar.setFilters bar.filters).filters = [""] := by
  have hbindings :=
    bindings_boundedBar "-79228162514264337593543950335" "79228162514264337593543950335"
  refine ⟨_, edit_boundedBar _ _, ?_, ?_, ?_⟩
  · rw [hbindings]
    decide
  · rw [filters, hbindings]
    decide +kernel
  · rw [filters, bindings_setFilters_filters, hbindings]
    decide +kernel

end FilterBar
end TableFilter
