import TableFilter.Proofs.FilterBar.Coherence
import TableFilter.Proofs.FilterBar.Columns
import TableFilter.Proofs.FilterBar.Notices

/-!
# Bindings mirror the columns

When a bar binds a table, there is one filter for each column, in the order of the columns, under
the names of the column, and of the kind that the factory assigns to it. A bar that follows a
change of the columns binds them anew if their names are other ones. Otherwise it takes over the
shown names and keeps the filters, whose kinds are those of the last time that the columns were
bound: the kind of the values of a column may have become another one since.
-/

namespace TableFilter

namespace FilterFactory

variable (f : FilterFactory) (scanned : View) (c : Column)

/-- The kind of filter that a column gets: that of its override or of its values, but a filter that
does nothing where values would have to be offered that cannot be scanned or are too many. -/
def assigned : FilterKind :=
  match f.kindFor c, scanned.distinctValues f.distinctCap c.name with
  | .distinct, .ok (some _) => .distinct
  | .distinct, _ => .empty
  | kind, _ => kind

theorem kind_create : (f.create c scanned).1.kind = f.assigned scanned c := by
  unfold create assigned
  cases f.kindFor c with
  | distinct =>
    unfold distinct
    cases scanned.distinctValues f.distinctCap c.name with
    | error => rfl
    | ok d => cases d <;> rfl
  | _ => rfl

end FilterFactory

namespace Binding

def names (b : Binding) : String × String := (b.column, b.displayName)

theorem names_restore (b : Binding) (predicate : String) : (b.restore predicate).names = b.names := by
  unfold restore
  split <;> rfl

end Binding

namespace FilterBar

variable {bar a b : FilterBar}

/-- There is one filter for each column, in the same order, under the names of the column and of the
kind assigned to it. Values were scanned in the given table. -/
structure Mirrors (bar : FilterBar) (scanned : View) : Prop where
  names : bar.bindings.map Binding.names =
    bar.view.columns.map fun c => (c.name, c.displayName)
  kinds : bar.bindings.map Binding.kind = bar.view.columns.map (bar.factory.assigned scanned)

theorem kinds_of_labels (h : b.labels = a.labels) :
    b.bindings.map Binding.kind = a.bindings.map Binding.kind := by
  have hsnd := congrArg (List.map Prod.snd) h
  rwa [labels, labels, List.map_map, List.map_map] at hsnd

theorem factory_rebuild (bar : FilterBar) : bar.rebuild.factory = bar.factory := by
  have hrebound : bar.rebound.factory = bar.factory := by
    rw [rebound, reinstate]
    split <;> rfl
  exact bar.rebound.factory_recompute.trans hrebound

theorem mirrors_rebuild (bar : FilterBar) : bar.rebuild.Mirrors bar.view := by
  have hbindings : bar.rebuild.bindings = bar.rebound.bindings := (alike_recompute _).bindings
  have hlabels : bar.rebound.labels = bar.unbind.bind.labels := by
    rw [rebound, reinstate]
    split
    · exact labels_of_keeps (keeps_restore _ _)
    · rfl
  constructor
  · rw [hbindings, bar.sameTable_rebuild.columns, map_rebound Binding.names_restore]
    exact map_bind fun _ _ => rfl
  · rw [hbindings, bar.sameTable_rebuild.columns, bar.factory_rebuild, kinds_of_labels hlabels]
    exact map_bind fun c _ => bar.factory.kind_create bar.view c

/-- The shown names of columns with the same names are taken over. -/
theorem map_names_rename {bindings : List Binding} {columns : List Column}
    (h : bindings.map (·.column) = columns.map (·.name)) :
    (List.zipWith Binding.rename bindings columns).map Binding.names =
      columns.map fun c => (c.name, c.displayName) := by
  induction bindings generalizing columns with
  | nil =>
    rw [List.map_nil, eq_comm, List.map_eq_nil_iff] at h
    rw [h]
    rfl
  | cons b bs ih =>
    cases columns with
    | nil => cases h
    | cons c cs =>
      obtain ⟨hname, hrest⟩ := List.cons.inj h
      rw [List.zipWith_cons_cons, List.map_cons, List.map_cons, ih hrest]
      exact congrArg (· :: _) (Prod.ext hname rfl)

structure FollowsNames (bar b : FilterBar) : Prop where
  table : b.view.SameTable bar.view
  names : b.bindings.map Binding.names =
    bar.view.columns.map fun c => (c.name, c.displayName)
  filters : b.bindings.map (·.filter) = bar.bindings.map (·.filter)
  labels : b.labels = bar.labels
  factory : b.factory = bar.factory

theorem followsNames_syncColumns (h : bar.isInStep) : FollowsNames bar bar.syncColumns := by
  have hkeeps := (keeps_rename h).recompute
  have hlength := length_of_isInStep h
  let renamed : FilterBar :=
    { bar with bindings := List.zipWith Binding.rename bar.bindings bar.view.columns }
  have hbindings : renamed.recompute.bindings = renamed.bindings := (alike_recompute _).bindings
  rw [syncColumns, if_pos h]
  refine ⟨hkeeps.table, ?_, ?_, labels_of_keeps hkeeps, hkeeps.factory⟩
  · rw [hbindings]
    exact map_names_rename (beq_iff_eq.mp h)
  · rw [hbindings]
    exact map_rename (fun _ _ => rfl) hlength

/-- The kinds are still those assigned if the columns have the same names and kinds of values. -/
theorem Mirrors.of_follows {v : View} (h : a.Mirrors v) (hb : FollowsNames bar b)
    (hfactory : bar.factory = a.factory) (hlabels : bar.labels = a.labels)
    (hkinds : bar.view.columns.map (fun c => (c.name, c.kind)) =
      a.view.columns.map fun c => (c.name, c.kind)) : b.Mirrors v := by
  constructor
  · rw [hb.names, hb.table.columns]
  · -- The shown name, the place and the width of a column do not count.
    have hassigned : a.factory.assigned v =
        (fun q => a.factory.assigned v (.ofName q.1 q.2)) ∘ fun c => (c.name, c.kind) := rfl
    rw [kinds_of_labels (hb.labels.trans hlabels), h.kinds, hb.table.columns, hb.factory, hfactory,
      hassigned, ← List.map_map, ← List.map_map, hkinds]

/-- The filters of a bar are those that were bound at some point of the run, at which there was one
for each column. -/
theorem exists_bound {start : FilterBar} (hstart : ∃ c : FilterBar, start = c.rebuild)
    (hr : Relation.ReflTransGen Occurs start bar) :
    ∃ c : FilterBar, Relation.ReflTransGen Occurs start c.rebuild ∧
      Relation.ReflTransGen Occurs c.rebuild bar ∧ bar.factory = c.rebuild.factory ∧
      bar.labels = c.rebuild.labels := by
  induction hr with
  | refl =>
    obtain ⟨c, rfl⟩ := hstart
    exact ⟨c, .refl, .refl, rfl, rfl⟩
  | tail hr hs ih =>
    obtain ⟨c, hbefore, hafter, hfactory, hlabels⟩ := ih
    cases hs with
    | outside view memory reporter =>
      exact ⟨c, hbefore, hafter.tail (.outside _ view memory reporter), hfactory, hlabels⟩
    | perform op hb =>
      rcases keeps_or_rebinds hb with hkeeps | ⟨d, hd, rfl⟩
      · exact ⟨c, hbefore, hafter.tail (.perform op hb), hkeeps.factory.trans hfactory,
          (labels_of_keeps hkeeps).trans hlabels⟩
      · exact ⟨d, hr.tail (.perform op hb), .refl, rfl, rfl⟩

/-- A bar that binds a table has one filter for each column, under the names of the column and of
the kind that is assigned to it: when it is rebuilt, when it is given a table or other data, and
when it follows a change of the names. If it follows a change of anything else it takes over the
shown names and keeps the filters. Their kinds are those that were assigned when the bar has last
bound columns, and so those assigned now unless the kinds of the values have changed since. -/
theorem bindings_mirror_columns {view : View} {s : FilterSettings}
    {overrides : List (String × FilterKind)} {bar : FilterBar}
    (hr : Relation.ReflTransGen Occurs (ofSettings view s overrides) bar) (now : View) :
    let changed : FilterBar := { bar with view := now }
    (∀ b : FilterBar, b = changed.rebuild ∨ b = changed.dataSourceChanged ∨ b = bar.setView now ∨
        b = changed.syncColumns ∧ changed.isInStep = false →
      b.view.SameTable now ∧ b.factory = bar.factory ∧ b.Mirrors now) ∧
    (changed.isInStep → FollowsNames changed changed.syncColumns ∧
      ∃ c : FilterBar, Relation.ReflTransGen Occurs (ofSettings view s overrides) c.rebuild ∧
        Relation.ReflTransGen Occurs c.rebuild bar ∧ c.rebuild.Mirrors c.view ∧
        c.rebuild.factory = bar.factory ∧ changed.syncColumns.labels = c.rebuild.labels ∧
        (now.columns.map (fun c => (c.name, c.kind)) =
            c.rebuild.view.columns.map (fun c => (c.name, c.kind)) →
          changed.syncColumns.Mirrors c.view)) := by
  intro changed
  have hrebuild (c : FilterBar) (hview : c.view = now) (hfactory : c.factory = bar.factory) :
      c.rebuild.view.SameTable now ∧ c.rebuild.factory = bar.factory ∧ c.rebuild.Mirrors now := by
    rw [← hview]
    exact ⟨c.sameTable_rebuild, c.factory_rebuild.trans hfactory, c.mirrors_rebuild⟩
  refine ⟨?_, fun hstep => ?_⟩
  · rintro b (rfl | rfl | rfl | ⟨rfl, hstep⟩)
    · exact hrebuild changed rfl rfl
    · exact hrebuild { changed with lastApplied := some "" } rfl rfl
    · exact hrebuild { bar with view := now, lastApplied := some "" } rfl rfl
    · have hsync : changed.syncColumns = changed.rebuild := if_neg (by simp [hstep])
      rw [hsync]
      exact hrebuild changed rfl rfl
  · have hfollows := followsNames_syncColumns hstep
    obtain ⟨c, hbefore, hafter, hfactory, hlabels⟩ := exists_bound ⟨_, rfl⟩ hr
    exact ⟨hfollows, c, hbefore, hafter, c.mirrors_rebuild, hfactory.symm,
      hfollows.labels.trans hlabels,
      fun hkinds => c.mirrors_rebuild.of_follows hfollows hfactory hlabels hkinds⟩

/-- A bar is given another table, and it follows another name and another title of its column. -/
theorem bindings_mirror_columns_people :
    let bar := (ofSettings peopleView {}).setOperator .or
    let renamed := peopleView.setColumns [.ofName "nick" .text]
    let retitled := peopleView.setColumns
      [{ Column.ofName "name" .text with displayName := "Person", displayIndex := 4 }]
    (bar.setView townsView).Mirrors townsView ∧
      { bar with view := renamed }.syncColumns.Mirrors renamed ∧
      { bar with view := retitled }.syncColumns.bindings.map Binding.names = [("name", "Person")] ∧
      { bar with view := retitled }.syncColumns.bindings.map Binding.filter =
        bar.bindings.map Binding.filter := by
  intro bar renamed retitled
  have hr : Relation.ReflTransGen Occurs (ofSettings peopleView {}) bar :=
    .single (.perform (.setOperator .or) rfl)
  have htowns := (bindings_mirror_columns hr townsView).1 _ (.inr (.inr (.inl rfl)))
  have hrenamed := (bindings_mirror_columns hr renamed).1 _
    (.inr (.inr (.inr ⟨rfl, by decide +kernel⟩)))
  have hretitled := ((bindings_mirror_columns hr retitled).2 (by decide +kernel)).1
  exact ⟨htowns.2.2, hrenamed.2.2, hretitled.names, hretitled.filters⟩

/-- A bar that follows a column whose values become numbers keeps the filter for texts. -/
theorem changed_kind_is_not_followed :
    ¬ ((ofSettings peopleView {}).withColumns [.ofName "name" .number]).Mirrors
      (peopleView.setColumns [.ofName "name" .number]) := by
  intro h
  have hkinds := h.kinds
  have hpeople : (ofSettings peopleView {}).bindings = (unsettled peopleView {}).bindings :=
    alike_people.bindings
  let changed : FilterBar := { ofSettings peopleView {} with
    view := (ofSettings peopleView {}).view.setColumns [.ofName "name" .number] }
  have hstep : changed.isInStep := by
    rw [isInStep, beq_iff_eq, View.columns_setColumns]
    exact (congrArg (List.map (·.column)) hpeople).trans rfl
  have hfollows := followsNames_syncColumns hstep
  have hlabels : changed.syncColumns.labels = (unsettled peopleView {}).labels :=
    hfollows.labels.trans (congrArg (List.map Binding.label) hpeople)
  have hfactory : changed.syncColumns.factory = .ofSettings {} :=
    hfollows.factory.trans (factory_rebuild _)
  rw [withColumns, kinds_of_labels hlabels, hfactory, hfollows.table.columns,
    View.columns_setColumns] at hkinds
  exact absurd hkinds (by decide)

end FilterBar
end TableFilter
