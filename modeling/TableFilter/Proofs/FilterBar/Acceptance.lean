import TableFilter.FilterBar.Operation
import TableFilter.Proofs.FilterBar.Composition
import TableFilter.Proofs.View.Accept

/-!
# Tables accept what filters write

Without a base filter and a custom filter, the predicate of a bar mentions columns of its table
only, and so the table accepts it, whatever was entered into the inputs. A table over a data frame
has to describe columns that the frame has: a description that was given another name makes a
filter whose predicate is refused.
-/

namespace TableFilter

open Text Literal

theorem Expr.mentions_foldl_join (c : Connective) (e : Expr) (es : List Expr) :
    (es.foldl (.join c) e).mentions = e.mentions ++ es.flatMap mentions := by
  induction es generalizing e with
  | nil => simp
  | cons f es ih => rw [List.foldl_cons, ih, mentions, List.flatMap_cons, List.append_assoc]

theorem Connective.mem_mentions_of_joinAll {c : Connective} {es : List Expr} {e : Expr}
    (he : c.joinAll es = some e) (name : String) :
    name ∈ e.mentions ↔ ∃ f ∈ es, name ∈ f.mentions := by
  cases es with
  | nil => cases he
  | cons f es =>
    rw [← Option.some.inj he, Expr.mentions_foldl_join, ← List.flatMap_cons, List.mem_flatMap]

namespace FilterBar

variable {bar : FilterBar}

theorem composed?_none_none (bar : FilterBar) (es : List Expr) :
    bar.composed? es none none = bar.operator.joinAll es := by
  cases es <;> rfl

/-- What column filters alone compose is accepted if the table knows all their columns, and only
then. -/
theorem exists_setPredicate_compose (hnames : ∀ c ∈ bar.view.columns, c.name ≠ "")
    (hbase : isBlankText bar.baseInForce) (hcustom : isBlankText bar.customFilter) :
    (∃ view, bar.view.setPredicate bar.compose = .ok view) ↔
      ∀ p ∈ bar.arranged, bar.view.Knows p.binding.column := by
  have hs := standsFor_compose (standsFor_exprs hnames) (standsFor_none.mpr hbase)
    (standsFor_none.mpr hcustom)
  rw [composed?_none_none] at hs
  have hmentions : ∀ p ∈ bar.arranged, ∀ name,
      name ∈ p.binding.expr.mentions ↔ name = p.binding.column := by
    intro p hp name
    rw [← Expr.mem_columns, (expr_of_mem_arranged hnames hp).2, List.mem_singleton]
  rw [View.exists_setPredicate]
  constructor
  · rintro ⟨o, ho, hall⟩ p hp
    rw [ho.unique hs] at hall
    have hne : bar.exprs ≠ [] := by
      rw [exprs, ne_eq, List.map_eq_nil_iff]
      exact List.ne_nil_of_mem hp
    obtain ⟨e, he⟩ : ∃ e, bar.operator.joinAll bar.exprs = some e := by
      obtain ⟨f, fs, hfs⟩ := List.exists_cons_of_ne_nil hne
      exact ⟨_, by rw [hfs, Connective.joinAll]⟩
    refine hall e he _ ((Connective.mem_mentions_of_joinAll he _).mpr ?_)
    exact ⟨_, List.mem_map_of_mem hp, (hmentions p hp _).mpr rfl⟩
  · intro hall
    refine ⟨_, hs, fun e he name hname => ?_⟩
    obtain ⟨f, hf, hname⟩ := (Connective.mem_mentions_of_joinAll he name).mp hname
    obtain ⟨p, hp, rfl⟩ := List.mem_map.mp hf
    rw [(hmentions p hp name).mp hname]
    exact hall p hp

/-- A table knows the columns of the filters that take part, unless it is a data frame that lacks
one of them. -/
theorem forall_knows_arranged :
    (∀ p ∈ bar.arranged, bar.view.Knows p.binding.column) ↔
      ∀ v, bar.view = .frame v → ∀ b ∈ bar.bindings, b.filter.isActive →
        ∀ c, bar.view.column? b.column = some c → c.visible →
          (v.frame.column? b.column).isSome := by
  constructor
  · intro hall v hv b hb hactive c hc hvisible
    obtain ⟨i, hi⟩ := List.mem_iff_getElem?.mp hb
    have hp : (⟨c.displayIndex, i, b⟩ : Placed) ∈ bar.arranged :=
      List.mem_mergeSort.mpr (mem_placedInBar.mpr ⟨hi, hactive, c, hc, hvisible, rfl⟩)
    have hk := hall _ hp
    rw [hv] at hk
    exact hk.2
  · intro hframe p hp
    obtain ⟨hb, hactive, c, hc, hvisible, -⟩ := mem_placedInBar.mp (List.mem_mergeSort.mp hp)
    obtain ⟨c', -, hmem, hname⟩ := column?_of_mem_arranged hp
    cases hv : bar.view with
    | memory v =>
      rw [hv] at hmem
      exact ⟨c', hmem, hname⟩
    | frame v =>
      have hf := hframe v hv _ (List.mem_of_getElem? hb) hactive c hc hvisible
      rw [hv] at hmem
      exact ⟨⟨c', hmem, hname⟩, hf⟩

/-- Every column filter writes nothing or a predicate over its column that can be read. A table
accepts what column filters alone compose, unless it is a data frame that lacks the column of a
filter that takes part. -/
theorem column_filters_accepted :
    (∀ (s : Strategy) (input : Input) (name : String), name ≠ "" →
      (s.fragment input (columnRef name) = "" ↔ s.isActive input = false) ∧
      (s.isActive input → ∃ e, Expr.ofText (s.fragment input (columnRef name)) = .ok e ∧
        e.columns = [name])) ∧
    ∀ bar : FilterBar, (∀ c ∈ bar.view.columns, c.name ≠ "") →
      isBlankText bar.baseInForce → isBlankText bar.customFilter →
      ((∃ view, bar.view.setPredicate bar.compose = .ok view) ↔
        ∀ v, bar.view = .frame v → ∀ b ∈ bar.bindings, b.filter.isActive →
          ∀ c, bar.view.column? b.column = some c → c.visible →
            (v.frame.column? b.column).isSome) := by
  refine ⟨fun s input name hn => ⟨⟨fun h => ?_, fun h => ?_⟩, fun h => ?_⟩,
    fun bar hnames hbase hcustom => ?_⟩
  · by_contra ha
    obtain ⟨e, he, -⟩ := Strategy.readsOver_fragment hn (Bool.not_eq_false _ ▸ ha)
    exact he.ne_empty h
  · exact Strategy.fragment_of_not_isActive h _
  · obtain ⟨e, he, hcolumns⟩ := Strategy.readsOver_fragment hn h
    exact ⟨e, Expr.ofText_of_reads he, hcolumns⟩
  · rw [exists_setPredicate_compose hnames hbase hcustom]
    exact forall_knows_arranged

theorem column_filters_accepted_people :
    (∃ e, Expr.ofText (Strategy.text.fragment (.text "O'N") (columnRef "na]me")) = .ok e ∧
      e.columns = ["na]me"]) ∧
    ∃ view, peopleBar.view.setPredicate
      { peopleBar with baseEnabled := false, customFilter := " " }.compose = .ok view :=
  ⟨(column_filters_accepted.1 .text (.text "O'N") "na]me" (by decide)).2 rfl,
    (column_filters_accepted.2 { peopleBar with baseEnabled := false, customFilter := " " }
      (by decide) rfl rfl).mpr fun _ hv => by cases hv⟩

/-- A bar over a data frame whose only column was described by another name before it was bound. -/
def renamedBar : FilterBar :=
  let frame : Frame := ⟨1, [⟨"name", .text, [.text "alice"]⟩], by decide, by decide⟩
  let bar := ofSettings (.frame (.ofFrame ⟨"people"⟩ frame)) { refreshMode := .off }
  { bar with view := bar.view.setColumns [.ofName "sender" .text] }.syncColumns

/-- A filter on a column that the frame does not have is refused, although the bar is in step with
the descriptions of the columns. -/
theorem renamed_column_refused : ∃ bar,
    renamedBar.edit "sender" [.setText "ali"] = .ok bar ∧ bar.isInStep ∧
      (∀ c ∈ bar.view.columns, c.name ≠ "") ∧ isBlankText bar.baseInForce ∧
      isBlankText bar.customFilter ∧ ∀ view, bar.view.setPredicate bar.compose ≠ .ok view := by
  refine ⟨_, rfl, rfl, by decide, rfl, rfl, fun view h => ?_⟩
  have hknows := (exists_setPredicate_compose (by decide) rfl rfl).mp ⟨view, h⟩
  have hk := hknows ⟨0, 0, _⟩
    (List.mem_mergeSort.mpr (mem_placedInBar.mpr ⟨rfl, rfl, _, rfl, rfl, rfl⟩))
  cases hk.2

end FilterBar
end TableFilter
