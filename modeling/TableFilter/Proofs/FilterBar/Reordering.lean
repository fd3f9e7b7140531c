import TableFilter.Proofs.FilterBar.Serving

/-!
# The order of the columns is cosmetic

Columns that are shown in another order or under other names put the same filters in another order.
The predicate becomes another text, and is satisfied by the same rows, since truths can be joined in
any order. So the table shows the same rows, provided that it has shown the rows that satisfy its
predicate. A table over a data frame does not if its case policy has changed: then the new order
brings the policy to bear.
-/

namespace TableFilter

open Predicate

namespace FilterBar

variable {bar a b : FilterBar} {columns : List Column}

/-- A row satisfies the composed predicate if the parts are true of it when they are joined. -/
theorem selects_compose (hnames : ∀ c ∈ bar.view.columns, c.name ≠ "")
    (hbase : IsPart bar.baseInForce) (hcustom : IsPart bar.customFilter) (caseSensitive : Bool)
    (row : Row) : selects caseSensitive row bar.compose =
      (Option.merge Connective.and.kleene
        (Option.merge bar.baseOperator.kleene
          (bar.operator.kleeneAll (bar.fragments.map (truth caseSensitive row)))
          (partTruth? caseSensitive row bar.baseInForce))
        (partTruth? caseSensitive row bar.customFilter)).all (· == some true) := by
  have hes := standsFor_exprs hnames
  obtain ⟨base, hb⟩ := hbase.exists_standsFor
  obtain ⟨custom, hc⟩ := hcustom.exists_standsFor
  rw [selects_of_standsFor (standsFor_compose hes hb hc), map_truth_of_forall₂ _ _ hes,
    partTruth?_of_standsFor _ _ hb, partTruth?_of_standsFor _ _ hc, ← truth_composed?,
    Option.all_map]
  rfl

def written? (bar : FilterBar) (b : Binding) : Option String :=
  if (bar.view.column? b.column).any (·.visible) && b.filter.isActive then some b.fragment else none

/-- Sorting aside, the predicates are those of the filters that take part. -/
theorem fragments_perm (bar : FilterBar) :
    bar.fragments.Perm (bar.bindings.map bar.written?).reduceOption := by
  have hactive : bar.active.map (·.2) = (bar.bindings.map bar.written?).reduceOption := by
    rw [active, List.map_filterMap, List.reduceOption, List.filterMap_map]
    refine List.filterMap_congr fun b _ => ?_
    cases hc : bar.view.column? b.column with
    | none => simp [written?, hc]
    | some c =>
      simp only [Function.comp_apply, written?, hc, Option.bind_eq_bind, Option.bind_some,
        Option.any_some, id_eq]
      split <;> rfl
  rw [← hactive]
  exact (List.mergeSort_perm _ _).map _

/-- The bars have the same filters on columns with the same names of which the same ones are
visible, and join them with the same parts. -/
structure SameParts (a b : FilterBar) : Prop where
  parts : b.bindings.map b.written? = a.bindings.map a.written?
  names : b.view.columns.map (·.name) = a.view.columns.map (·.name)
  operator : b.operator = a.operator
  baseOperator : b.baseOperator = a.baseOperator
  baseInForce : b.baseInForce = a.baseInForce
  customFilter : b.customFilter = a.customFilter

/-- The same rows satisfy what the bars compose. -/
theorem SameParts.selects_eq (h : SameParts a b) (hnames : ∀ c ∈ a.view.columns, c.name ≠ "")
    (hbase : IsPart a.baseInForce) (hcustom : IsPart a.customFilter) (caseSensitive : Bool)
    (row : Row) : selects caseSensitive row b.compose = selects caseSensitive row a.compose := by
  have hnames' : ∀ c ∈ b.view.columns, c.name ≠ "" := by
    intro c hc
    obtain ⟨d, hd, hname⟩ := List.mem_map.mp (h.names ▸ List.mem_map_of_mem hc)
    exact hname ▸ hnames d hd
  have hperm : b.fragments.Perm a.fragments := by
    have hb := b.fragments_perm
    rw [h.parts] at hb
    exact hb.trans a.fragments_perm.symm
  rw [selects_compose hnames' (h.baseInForce ▸ hbase) (h.customFilter ▸ hcustom),
    selects_compose hnames hbase hcustom, h.operator, h.baseOperator, h.baseInForce, h.customFilter,
    Connective.kleeneAll_perm _ (hperm.map _)]

def renamed (bar : FilterBar) (columns : List Column) : FilterBar :=
  { bar with
    view := bar.view.setColumns columns
    bindings := List.zipWith Binding.rename bar.bindings columns }

def SameVisible (columns columns' : List Column) : Prop :=
  columns.map (fun c => (c.name, c.visible)) = columns'.map fun c => (c.name, c.visible)

theorem SameVisible.names {columns' : List Column} (h : SameVisible columns columns') :
    columns.map (·.name) = columns'.map (·.name) := by
  have hfst := congrArg (List.map Prod.fst) h
  rwa [List.map_map, List.map_map] at hfst

theorem SameVisible.any_visible {v w : View} (h : SameVisible v.columns w.columns) (name : String) :
    (v.column? name).any (·.visible) = (w.column? name).any (·.visible) := by
  have hfind (u : View) : (u.column? name).any (·.visible) =
      ((u.columns.map fun c => (c.name, c.visible)).find? (·.1 = name)).any (·.2) := by
    rw [List.find?_map, Option.any_map]
    rfl
  rw [hfind, hfind, h]

theorem length_of_sameVisible (hstep : bar.isInStep) (h : SameVisible columns bar.view.columns) :
    bar.bindings.length = columns.length := by
  have hlength := congrArg List.length h.names
  rw [List.length_map, List.length_map] at hlength
  rw [length_of_isInStep hstep, hlength]

theorem sameParts_renamed (hstep : bar.isInStep) (h : SameVisible columns bar.view.columns) :
    SameParts bar (bar.renamed columns) := by
  have hcolumns : (bar.renamed columns).view.columns = columns := View.columns_setColumns _ _
  have htable : (bar.renamed columns).view.table = bar.view.table := View.table_setColumns _ _
  have hvisible : SameVisible (bar.renamed columns).view.columns bar.view.columns := by
    rw [hcolumns]
    exact h
  have hwritten : (bar.renamed columns).written? = bar.written? := by
    funext b
    rw [written?, written?, hvisible.any_visible]
  refine ⟨?_, by rw [hcolumns, h.names], rfl, rfl, ?_, rfl⟩
  · rw [hwritten]
    exact map_rename (fun _ _ => rfl) (length_of_sameVisible hstep h)
  · rw [baseInForce, baseInForce, baseFilter, baseFilter, htable]
    rfl

/-- A recompute leaves the table alone or hands it a predicate that it accepts. -/
theorem view_recompute_cases (bar : FilterBar) : bar.recompute.view = bar.view ∨
    bar.view.setPredicate bar.compose = .ok bar.recompute.view := by
  by_cases h : bar.HandsOver .recompute
  · have hact : bar.recompute = (bar.push bar.compose).remember := act_eq_push h
    rw [hact, view_remember]
    rcases bar.view_push_cases bar.compose with hset | ⟨-, hview⟩
    · exact .inr hset
    · exact .inl hview
  · exact .inl (act_of_not_handsOver h).1

/-- What can happen to a bar while nobody gives it a table that shows other rows than those that
satisfy its predicate: every operation, other descriptions of the columns under the same names, and
changes of the table, the memory and the reports from outside. -/
inductive Trusts : FilterBar → FilterBar → Prop where
  | perform {bar b : FilterBar} (op : Operation) : (∀ view, op = .setView view → view.IsTruthful) →
      bar.perform op = .ok b → Trusts bar b
  | describe (bar : FilterBar) (columns : List Column) :
      columns.map (·.name) = bar.view.columns.map (·.name) →
      Trusts bar { bar with view := bar.view.setColumns columns }
  | outside (bar : FilterBar) (view : View) (memory : TableMemory) (reporter : Reporter) :
      view.IsTruthful → Trusts bar { bar with view, memory, reporter }

theorem isTruthful_run (h : bar.view.IsTruthful) (hr : Relation.ReflTransGen Trusts bar b) :
    b.view.IsTruthful := by
  induction hr with
  | refl => exact h
  | tail _ hs ih =>
    cases hs with
    | perform op hop hb => exact isTruthful_perform ih hop hb
    | describe columns hnames => exact ih.setColumns hnames
    | outside view memory reporter hview => exact hview

theorem isTruthful_ofSettings {view : View} (h : view.IsTruthful) (s : FilterSettings)
    (overrides : List (String × FilterKind)) : (ofSettings view s overrides).view.IsTruthful := by
  have hop : ∀ view, Operation.rebuild = .setView view → view.IsTruthful := nofun
  exact isTruthful_perform h hop rfl

theorem withColumns_eq_renamed (hstep : bar.isInStep)
    (hnames : columns.map (·.name) = bar.view.columns.map (·.name)) :
    bar.withColumns columns = (bar.renamed columns).recompute := by
  have hcolumns : (bar.view.setColumns columns).columns = columns := View.columns_setColumns _ _
  have hstep' : { bar with view := bar.view.setColumns columns }.isInStep := by
    rw [isInStep, hcolumns, hnames]
    exact hstep
  rw [withColumns, syncColumns, if_pos hstep', renamed, hcolumns]

/-- If only the places, the widths and the shown names of columns change, the filters stay, and the
table is left alone or shows the rows that satisfy the predicate that it had. So it shows the same
rows if it was truthful. A table in memory is, whatever was done to it, and any table is in every
run that has left it truthful from outside. -/
theorem column_order_is_cosmetic (hnames : ∀ c ∈ bar.view.columns, c.name ≠ "")
    (hbase : IsPart bar.baseInForce) (hcustom : IsPart bar.customFilter) (hstep : bar.isInStep)
    (hpredicate : bar.view.predicate = bar.compose)
    (hcolumns : SameVisible columns bar.view.columns) :
    (bar.withColumns columns).filters = bar.filters ∧
      ((bar.withColumns columns).view.marks = bar.view.marks ∨
        (bar.withColumns columns).view.marks = bar.view.satisfied bar.view.predicate) ∧
      (bar.view.IsTruthful → (bar.withColumns columns).view.marks = bar.view.marks) ∧
      (∀ v g, bar.view = .memory v → MemoryView.Reach v g →
        (bar.withColumns columns).view.marks = bar.view.marks) ∧
      ∀ view s overrides, view.IsTruthful →
        Relation.ReflTransGen Trusts (ofSettings view s overrides) bar →
        (bar.withColumns columns).view.marks = bar.view.marks := by
  have hparts := sameParts_renamed hstep hcolumns
  have hmarks : (bar.withColumns columns).view.marks = bar.view.marks ∨
      (bar.withColumns columns).view.marks = bar.view.satisfied bar.view.predicate := by
    rw [withColumns_eq_renamed hstep hcolumns.names]
    rcases (bar.renamed columns).view_recompute_cases with hview | hset
    · rw [hview]
      exact .inl (View.marks_setColumns _ _)
    · right
      have hsatisfied : bar.view.satisfied (bar.renamed columns).compose =
          bar.view.satisfied bar.compose :=
        List.map_congr_left fun i _ => hparts.selects_eq hnames hbase hcustom _ _
      rw [View.marks_of_setPredicate hset, hpredicate, ← hsatisfied]
      exact View.satisfied_setColumns hcolumns.names _
  have htruthful (h : bar.view.IsTruthful) :
      (bar.withColumns columns).view.marks = bar.view.marks := by
    rcases hmarks with hsame | hsatisfied
    · exact hsame
    · exact hsatisfied.trans h.symm
  refine ⟨?_, hmarks, htruthful, fun v g hv hreach => htruthful ?_,
    fun view s overrides hview hr => htruthful ?_⟩
  · rw [withColumns_eq_renamed hstep hcolumns.names, filters, (alike_recompute _).bindings]
    exact map_rename (fun _ _ => rfl) (length_of_sameVisible hstep hcolumns)
  · rw [hv]
    exact MemoryView.isTruthful_of_reach hreach
  · exact isTruthful_run (isTruthful_ofSettings hview s overrides) hr

theorem fragments_of_active_pair {p q : Nat × String} (h : bar.active = [p, q]) :
    bar.fragments = if p.1 ≤ q.1 then [p.2, q.2] else [q.2, p.2] := by
  have hsort : bar.active.mergeSort (fun p q => p.1 ≤ q.1) =
      if p.1 ≤ q.1 then [p, q] else [q, p] := by
    rw [h]
    simp [List.mergeSort, List.MergeSort.Internal.splitInTwo, List.merge]
  rw [fragments, hsort]
  split <;> rfl

def adultsFrame : Frame :=
  ⟨1, [⟨"name", .text, [.text "Ann"]⟩, ⟨"adult", .bool, [.bool true]⟩], by decide, by decide⟩

def adultsView : FrameView := .ofFrame ⟨"people"⟩ adultsFrame

def adultsReordered : List Column :=
  [{ Column.ofName "name" .text with displayIndex := 5 },
    { Column.ofName "adult" .boolean with displayIndex := 1 }]

def adultsBar : FilterBar :=
  (unsettled (.frame adultsView) {}).restore ["[name] LIKE 'a*'", "[adult] = true"]

theorem compose_adultsBar :
    adultsBar.compose = "([name] LIKE 'a*') AND ([adult] = true)" := by
  have hactive : adultsBar.active = [(0, "[name] LIKE 'a*'"), (1, "[adult] = true")] := by decide
  rw [compose_eq, fragments_of_active_pair hactive]
  decide

def beginsWithA : Expr := .like (.column "name") (.literal (.text "a*"))

theorem reads_beginsWithA : Reads .comparison "[name] LIKE 'a*'" beginsWithA := by
  have hn : "name" ≠ "" := by decide
  exact (Reads.columnRef hn).like (.quote "a*")

theorem reads_isAdult : Reads .comparison "[adult] = true" MemoryView.isAdult := by
  have hn : "adult" ≠ "" := by decide
  exact (Reads.columnRef hn).equal (.boolText true)

theorem reads_both {l m : String} {e f : Expr} (hl : Reads .comparison l e)
    (hm : Reads .comparison m f) : Reads .disjunction
      (inParentheses l ++ Connective.and.joiner ++ inParentheses m) (.join .and e f) := by
  have hleft := hl.disjunction_of_comparison.inParentheses.chain_of_operand .and
  exact (hleft.chain hm.disjunction_of_comparison.inParentheses).disjunction_of_chain

theorem reads_adultsBar :
    Reads .disjunction adultsBar.compose (.join .and beginsWithA MemoryView.isAdult) := by
  rw [compose_adultsBar]
  exact reads_both reads_beginsWithA reads_isAdult

theorem exists_setPredicate_frame {v : FrameView} {p : String} {e : Expr}
    (h : Reads .disjunction p e)
    (hknown : ∀ name ∈ e.mentions, (∃ c ∈ v.columns, c.name = name) ∧
      (v.frame.column? name).isSome) : ∃ w, v.setPredicate p = .ok w := by
  obtain ⟨view, hview⟩ := View.exists_setPredicate_of_reads (v := .frame v) h hknown
  obtain ⟨w, hw, -⟩ := map_eq_ok.mp hview
  exact ⟨w, hw⟩

/-- The only row is judged by the case policy. -/
theorem judged_adults {v : FrameView} {p : String} {e : Expr} (hframe : v.frame = adultsFrame)
    (h : Reads .disjunction p e)
    (he : ∀ caseSensitive, e.matchesRow caseSensitive (adultsFrame.row 0) = !caseSensitive) :
    (View.frame v).satisfied p = [!v.caseSensitive] := by
  have hrange : List.range adultsFrame.height = [0] := rfl
  change (List.range v.frame.height).map (fun i => selects v.caseSensitive (v.frame.row i) p) = _
  rw [hframe, hrange, List.map_singleton, selects_of_standsFor (.of_reads h), shows,
    Option.all_some, he]

theorem view_push_of_accepted {view : View} {p : String} (h : bar.view.setPredicate p = .ok view) :
    (bar.push p).view = view := by
  simp only [push, emit, h]

theorem matches_adults (caseSensitive : Bool) :
    (Expr.join .and beginsWithA MemoryView.isAdult).matchesRow caseSensitive (adultsFrame.row 0) =
      !caseSensitive := by
  cases caseSensitive <;> decide

theorem matches_adults_reordered (caseSensitive : Bool) :
    (Expr.join .and MemoryView.isAdult beginsWithA).matchesRow caseSensitive (adultsFrame.row 0) =
      !caseSensitive := by
  cases caseSensitive <;> decide

theorem exists_setPredicate_adults : ∃ w, adultsView.setPredicate adultsBar.compose = .ok w :=
  exists_setPredicate_frame reads_adultsBar (by decide)

/-- The case policy of the table changes after it has accepted what both filters compose. -/
def strictBar : FilterBar :=
  { adultsBar.renew with view := adultsBar.renew.view.withCase true }

section Adults

variable {w : FrameView} (hw : adultsView.setPredicate adultsBar.compose = .ok w)

include hw

theorem view_renew_adultsBar : adultsBar.renew.view = .frame w := by
  have hlast : adultsBar.lastApplied ≠ some adultsBar.compose := by
    rw [compose_adultsBar]
    decide
  rw [renew_eq_push rfl rfl hlast, view_remember]
  exact view_push_of_accepted (View.setPredicate_frame hw)

theorem accepts_adultsBar :
    (View.frame adultsView).Accepts adultsBar.compose adultsBar.renew.view := by
  rw [view_renew_adultsBar hw]
  exact View.accepts_of_setPredicate (View.setPredicate_frame hw)

theorem marks_renew_adultsBar : adultsBar.renew.view.marks = [true] := by
  rw [view_renew_adultsBar hw, View.marks_of_setPredicate (View.setPredicate_frame hw)]
  exact judged_adults rfl reads_adultsBar matches_adults

theorem view_strictBar : strictBar.view = .frame (w.withCase true) := by
  rw [strictBar, view_renew_adultsBar hw]
  rfl

theorem alike_strictBar : Alike strictBar adultsBar := by
  have hview := view_strictBar hw
  have ha := View.accepts_of_setPredicate (View.setPredicate_frame hw)
  exact { adultsBar.alike_renew with
    columns := hview ▸ ha.columns
    table := hview ▸ ha.table }

theorem isInStep_strictBar : strictBar.isInStep := by
  have ha := alike_strictBar hw
  rw [isInStep, ha.bindings, ha.columns]
  decide

theorem alike_renamed_strictBar :
    Alike (strictBar.renamed adultsReordered) (adultsBar.renamed adultsReordered) := by
  have h := alike_strictBar hw
  exact { h with
    columns := View.columns_setColumns _ _
    table := (View.table_setColumns _ _).trans (h.table.trans (View.table_setColumns _ _).symm)
    bindings := congrArg (List.zipWith Binding.rename · adultsReordered) h.bindings }

theorem compose_renamed_strictBar : (strictBar.renamed adultsReordered).compose =
    "([adult] = true) AND ([name] LIKE 'a*')" := by
  have hactive : (adultsBar.renamed adultsReordered).active =
      [(5, "[name] LIKE 'a*'"), (1, "[adult] = true")] := by decide
  rw [(alike_renamed_strictBar hw).compose_eq, compose_eq, fragments_of_active_pair hactive]
  decide

/-- The predicate is handed over anew, in the other order. -/
theorem marks_withColumns_strictBar :
    (strictBar.withColumns adultsReordered).view.marks = [false] := by
  let changed := strictBar.renamed adultsReordered
  have ha := alike_renamed_strictBar hw
  have hcompose := compose_renamed_strictBar hw
  let described : FrameView := { w.withCase true with columns := adultsReordered }
  have hview : changed.view = .frame described :=
    congrArg (View.setColumns adultsReordered) (view_strictBar hw)
  have hframe : described.frame = adultsFrame := (FrameView.marks_of_setPredicate hw).1
  have hreads : Reads .disjunction changed.compose (.join .and MemoryView.isAdult beginsWithA) := by
    rw [hcompose]
    exact reads_both reads_isAdult reads_beginsWithA
  have hknown : ∀ name ∈ (Expr.join .and MemoryView.isAdult beginsWithA).mentions,
      (∃ c ∈ adultsReordered, c.name = name) ∧ (adultsFrame.column? name).isSome := by decide
  rw [← hframe] at hknown
  obtain ⟨u, hu⟩ := exists_setPredicate_frame (v := described) hreads hknown
  have hset : changed.view.setPredicate changed.compose = .ok (.frame u) := by
    rw [hview]
    exact View.setPredicate_frame hu
  have hhands : changed.HandsOver .recompute := by
    have hlast : changed.lastApplied = some adultsBar.compose := lastApplied_renew rfl rfl
    refine ⟨ha.suspended, ha.isIdle_eq, .inr ⟨rfl, ?_, ?_⟩⟩
    · exact ha.refreshMode ▸ (by decide)
    · rw [hlast, compose_adultsBar, hcompose]
      decide
  have hrecompute : changed.recompute = (changed.push changed.compose).remember :=
    act_eq_push hhands
  rw [withColumns_eq_renamed, hrecompute, view_remember, view_push_of_accepted hset,
    View.marks_of_setPredicate hset, hview]
  · exact judged_adults hframe hreads matches_adults_reordered
  · exact isInStep_strictBar hw
  · rw [(alike_strictBar hw).columns]
    decide

end Adults

theorem ofSettings_adults :
    ofSettings (.frame adultsView) {} = unsettled (.frame adultsView) {} :=
  ofSettings_eq_unsettled (compose_of_inactive (by decide)) (remember_of_disabled rfl)

theorem setFilters_adults : (ofSettings (.frame adultsView) {}).setFilters
    ["[name] LIKE 'a*'", "[adult] = true"] = adultsBar.renew := by
  rw [setFilters_ofSettings (by decide), ofSettings_adults]
  rfl

theorem column_order_is_cosmetic_adults :
    (adultsBar.renew.withColumns adultsReordered).view.marks = adultsBar.renew.view.marks := by
  obtain ⟨w, hw⟩ := exists_setPredicate_adults
  have ha := adultsBar.alike_renew
  have hpredicate := (accepts_adultsBar hw).predicate.trans ha.compose_eq.symm
  have htruthful : (View.frame adultsView).IsTruthful := FrameView.isTruthful_of_reach .new
  have hrun : Relation.ReflTransGen Trusts (ofSettings (.frame adultsView) {} []) adultsBar.renew :=
    .single (.perform (.setFilters _) nofun (congrArg Except.ok setFilters_adults))
  have hblank : IsPart "" := .inl rfl
  refine (column_order_is_cosmetic ?_ ?_ (ha.customFilter ▸ hblank) ?_ hpredicate ?_).2.2.2.2 _ {} []
    htruthful hrun
  · exact ha.columns ▸ (by decide)
  · rw [baseInForce, baseFilter, ha.baseEnabled, ha.baseFilters, ha.table]
    exact .inl (by decide)
  · rw [isInStep, ha.bindings, ha.columns]
    decide
  · rw [SameVisible, ha.columns]
    decide

/-- Columns in another order make a row disappear that the table should not have shown before. -/
theorem column_order_exposes_case_policy :
    Relation.ReflTransGen Occurs (ofSettings (.frame adultsView) {}) strictBar ∧
      strictBar.refreshMode ≠ .off ∧ strictBar.suspended = 0 ∧
      (∀ c ∈ strictBar.view.columns, c.name ≠ "") ∧
      (strictBar.view.columns.map (·.name)).Nodup ∧
      IsPart strictBar.baseInForce ∧ IsPart strictBar.customFilter ∧
      strictBar.isInStep ∧ strictBar.view.predicate = strictBar.compose ∧
      adultsReordered.map (fun c => (c.name, c.kind, c.visible)) =
        strictBar.view.columns.map (fun c => (c.name, c.kind, c.visible)) ∧
      strictBar.view.marks = [true] ∧
      (strictBar.withColumns adultsReordered).view.marks = [false] := by
  obtain ⟨w, hw⟩ := exists_setPredicate_adults
  have ha := alike_strictBar hw
  have hview := view_strictBar hw
  have hmarks := marks_renew_adultsBar hw
  rw [view_renew_adultsBar hw] at hmarks
  have haccepts := accepts_adultsBar hw
  rw [view_renew_adultsBar hw] at haccepts
  have hreach : Relation.ReflTransGen Occurs (ofSettings (.frame adultsView) {}) strictBar :=
    .tail (.single (.perform (.setFilters _) (congrArg Except.ok setFilters_adults)))
      (.outside adultsBar.renew (adultsBar.renew.view.withCase true) _ _)
  have hblank : IsPart "" := .inl rfl
  refine ⟨hreach, ?_, ha.suspended, ?_, ?_, ?_, ha.customFilter ▸ hblank,
    isInStep_strictBar hw, ?_, ?_, ?_, marks_withColumns_strictBar hw⟩
  · exact ha.refreshMode ▸ (by decide)
  · exact ha.columns ▸ (by decide)
  · exact ha.columns ▸ (by decide)
  · rw [baseInForce, baseFilter, ha.baseEnabled, ha.baseFilters, ha.table]
    exact .inl (by decide)
  · rw [ha.compose_eq, hview]
    exact haccepts.predicate
  · rw [ha.columns]
    decide
  · rw [hview]
    exact hmarks

end FilterBar
end TableFilter
