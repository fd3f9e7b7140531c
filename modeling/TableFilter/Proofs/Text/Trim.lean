import Mathlib.Data.List.DropRight
import TableFilter.Text.Blank

/-!
# Trimming

A trimmed text neither begins nor ends with a blank character, and trimming leaves such a text
alone. A text is blank when nothing is left of it.
-/

namespace TableFilter.Text

theorem trimChars_eq_rdropWhile (cs : List Char) :
    trimChars cs = (cs.dropWhile isBlank).rdropWhile isBlank := rfl

def IsTrimmed (cs : List Char) : Prop :=
  (∀ c ∈ cs.head?, isBlank c = false) ∧ ∀ c ∈ cs.getLast?, isBlank c = false

theorem IsTrimmed.of_forall {cs : List Char} (h : ∀ c ∈ cs, isBlank c = false) : IsTrimmed cs :=
  ⟨fun c hc => h c (List.mem_of_head? hc), fun c hc => h c (List.mem_of_getLast? hc)⟩

theorem IsTrimmed.trimChars_eq {cs : List Char} (h : IsTrimmed cs) : trimChars cs = cs := by
  have hd : cs.dropWhile isBlank = cs := by
    cases cs with
    | nil => rfl
    | cons c cs => rw [List.dropWhile_cons_of_neg]; simp [h.1 c rfl]
  rw [trimChars_eq_rdropWhile, hd, List.rdropWhile_eq_self_iff]
  intro hne hb
  have hl := h.2 _ (List.getLast?_eq_some_getLast hne)
  rw [hl] at hb
  cases hb

/-- What stands between two trimmed texts may begin and end with blanks. -/
theorem IsTrimmed.around {cs ds : List Char} (h : IsTrimmed cs) (hcs : cs ≠ []) (h' : IsTrimmed ds)
    (hds : ds ≠ []) (ms : List Char) : IsTrimmed (cs ++ ms ++ ds) := by
  constructor
  · intro c hc
    obtain ⟨a, as, rfl⟩ := List.exists_cons_of_ne_nil hcs
    exact h.1 c hc
  · intro c hc
    rw [List.getLast?_append_of_ne_nil _ hds] at hc
    exact h'.2 c hc

theorem IsTrimmed.of_ends {cs : List Char} {c d : Char} (hc : cs.head? = some c)
    (hcb : isBlank c = false) (hd : cs.getLast? = some d) (hdb : isBlank d = false) :
    IsTrimmed cs := by
  constructor
  · intro c' h
    rw [hc] at h
    cases h
    exact hcb
  · intro d' h
    rw [hd] at h
    cases h
    exact hdb

theorem IsTrimmed.enclosed {c d : Char} (hc : isBlank c = false) (hd : isBlank d = false)
    (ms : List Char) : IsTrimmed (c :: (ms ++ [d])) :=
  .of_ends rfl hc (by rw [← List.cons_append, List.getLast?_concat]) hd

theorem isBlank_of_head?_dropWhile {cs : List Char} {c : Char}
    (h : c ∈ (cs.dropWhile isBlank).head?) : isBlank c = false := by
  have hc := List.head?_dropWhile_not isBlank cs
  rw [h] at hc
  simpa using hc

theorem isTrimmed_trimChars (cs : List Char) : IsTrimmed (trimChars cs) := by
  constructor
  · intro c hc
    obtain ⟨t, ht⟩ := List.rdropWhile_prefix isBlank (cs.dropWhile isBlank)
    have hc' : c ∈ (cs.dropWhile isBlank).head? := by
      rw [trimChars_eq_rdropWhile] at hc
      rw [← ht, List.head?_append, hc]
      rfl
    exact isBlank_of_head?_dropWhile hc'
  · intro c hc
    have hne : trimChars cs ≠ [] := by
      intro h
      rw [h] at hc
      cases hc
    have hl : (trimChars cs).getLast hne = c := by
      rw [List.getLast?_eq_some_getLast hne] at hc
      exact Option.some.inj hc
    have hb := List.rdropWhile_last_not isBlank _ hne
    rw [← hl]
    exact Bool.eq_false_iff.mpr hb

end TableFilter.Text
