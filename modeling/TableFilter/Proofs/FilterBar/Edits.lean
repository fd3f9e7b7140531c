import TableFilter.Proofs.Filter.Listening
import TableFilter.Proofs.FilterBar.Cache

/-!
# No edit is lost

A bar that recomputes at every change of an input has the composed predicate in force whenever no
update is under way and no event waits. Between two such states the difference is covered: an update
is under way, whose end recomputes, or the event of a change waits. Events that are dropped are
dropped right before a recompute.
-/

namespace TableFilter

/-- Whether an operation leaves the refresh mode, the table and the listeners of the inputs alone.
-/
def Operation.keepsListening : Operation → Bool
  | .edit _ edits | .editDirectly _ edits => edits.all Edit.isCriteria
  | .setRefreshMode _ | .dataSourceChanged | .setView _ => false
  | _ => true

/-- Whether an operation handles the events that wait, its own included. -/
def Operation.handlesEvents : Operation → Bool
  | .edit _ _ | .commit _ | .leave _ | .process => true
  | _ => false

namespace FilterBar

variable {bar b : FilterBar}

def AllLive (bindings : List Binding) : Prop := ∀ b ∈ bindings, b.filter.widget.IsLive

/-- What is read off a filter that was found is read off the one that replaces it. -/
theorem filterMap_replaceFilter {α : Type} {column : String} {f g : Filter}
    {read : Binding → Option α} (hread : ∀ b : Binding, b.filter = f →
      read { b with filter := g } = read b) {bindings : List Binding}
    (hf : (bindings.find? (·.column = column)).map (·.filter) = some f) :
    (replaceFilter column g bindings).filterMap read = bindings.filterMap read := by
  induction bindings with
  | nil => rfl
  | cons b bs ih =>
    by_cases h : b.column = column
    · have hb : b.filter = f := by simpa [h] using hf
      simp only [replaceFilter, if_pos h, List.filterMap_cons, hread b hb]
    · have hbs : (bs.find? (·.column = column)).map (·.filter) = some f := by simpa [h] using hf
      simp only [replaceFilter, if_neg h, List.filterMap_cons, ih hbs]

theorem replaceFilter_ne_nil {column : String} {f : Filter} {bindings : List Binding}
    (h : bindings ≠ []) : replaceFilter column f bindings ≠ [] := by
  cases bindings with
  | nil => exact absurd rfl h
  | cons b bs =>
    rw [replaceFilter]
    split <;> exact List.cons_ne_nil _ _

theorem forall_replaceFilter {P : Filter → Prop} {bindings : List Binding}
    (h : ∀ b ∈ bindings, P b.filter) {f : Filter} (hf : P f) (column : String) :
    ∀ b ∈ replaceFilter column f bindings, P b.filter := by
  induction bindings with
  | nil => exact h
  | cons b bs ih =>
    have hbs : ∀ c ∈ bs, P c.filter := fun c hc => h c (List.mem_cons_of_mem b hc)
    rw [replaceFilter]
    split
    · exact List.forall_mem_cons.mpr ⟨hf, hbs⟩
    · exact List.forall_mem_cons.mpr ⟨h b List.mem_cons_self, ih hbs⟩

theorem holds_filter? {P : Filter → Prop} (h : ∀ b ∈ bar.bindings, P b.filter)
    {column : String} {f : Filter} (hf : bar.filter? column = some f) : P f := by
  obtain ⟨b, hb, rfl⟩ := Option.map_eq_some_iff.mp hf
  exact h b (List.mem_of_find?_eq_some hb)

/-- A filter that writes the same predicate composes to the same one. -/
theorem compose_replaceFilter {column : String} {f g : Filter} (hf : bar.filter? column = some f)
    (hs : Filter.SameCriteria f g) (queue : List WidgetEvent) :
    { bar with bindings := replaceFilter column g bar.bindings, queue }.compose = bar.compose := by
  have hactive : { bar with bindings := replaceFilter column g bar.bindings, queue }.active =
      bar.active := by
    refine filterMap_replaceFilter (fun b hb => ?_) hf
    simp only [Binding.fragment, Binding.ref, hs.isActive, hs.fragment, hb]
  simp only [compose, fragments, hactive, baseFilter]

/-- Restoring a filter, which clears it at times, is an edit of its criteria. -/
theorem told_restore {b : Binding} (h : b.filter.widget.IsHeard) (predicate : String) :
    ∃ events, Filter.Told b.filter (b.restore predicate).filter events := by
  unfold Binding.restore
  split
  · exact ⟨_, Filter.told_clear h⟩
  · exact ⟨_, Filter.told_setFilter h predicate⟩

theorem forall_zipWith {α : Type} {P : Filter → Prop} {change : Binding → α → Binding}
    {bindings : List Binding} (h : ∀ b ∈ bindings, P b.filter)
    (hchange : ∀ b a, P b.filter → P (change b a).filter) (l : List α) :
    ∀ b ∈ List.zipWith change bindings l, P b.filter := by
  intro b hb
  rw [← List.map_uncurry_zip_eq_zipWith] at hb
  obtain ⟨⟨old, a⟩, hold, rfl⟩ := List.mem_map.mp hb
  exact hchange old a (h old (List.of_mem_zip hold).1)

/-- What edits of the criteria leave alone is left alone by restoring all filters. -/
theorem forall_restore {P : Filter → Prop} (h : ∀ b ∈ bar.bindings, P b.filter)
    (hrestore : ∀ (b : Binding) (predicate : String), P b.filter →
      P (b.restore predicate).filter) (predicates : List String) :
    ∀ b ∈ (bar.restore predicates).bindings, P b.filter := by
  intro b hb
  rcases List.mem_append.mp hb with hb | hb
  · exact forall_zipWith h hrestore predicates b hb
  · exact h b (List.mem_of_mem_drop hb)

theorem AllLive.restore (h : AllLive bar.bindings) (predicates : List String) :
    AllLive (bar.restore predicates).bindings := by
  refine forall_restore (P := fun f => f.widget.IsLive) h (fun b predicate hb => ?_) predicates
  obtain ⟨events, htold⟩ := told_restore hb.isHeard predicate
  exact htold.isLive hb

theorem length_restore (bar : FilterBar) (predicates : List String) :
    (bar.restore predicates).bindings.length = bar.bindings.length := by
  simp only [bindings_restore, List.length_append, List.length_zipWith, List.length_drop]
  omega

theorem live_bindColumn (bar : FilterBar) (c : Column) (position : Nat) :
    (bar.bindColumn c position).filter.widget.IsLive := ⟨rfl, rfl⟩

theorem allLive_bind (bar : FilterBar) : AllLive bar.bind.bindings := by
  intro b hb
  obtain ⟨⟨c, position⟩, -, rfl⟩ := List.mem_map.mp hb
  exact bar.live_bindColumn c position

theorem length_of_isInStep (h : bar.isInStep) : bar.bindings.length = bar.view.columns.length := by
  have hlength := congrArg List.length (beq_iff_eq.mp h)
  rwa [List.length_map, List.length_map] at hlength

/-- A bar with filters always has something to compose a predicate of. -/
theorem isIdle_of_bound (h : bar.bindings ≠ []) : bar.isIdle = false := by
  rw [isIdle, List.isEmpty_eq_false_iff.mpr h, Bool.false_and]

structure Attentive (bar : FilterBar) : Prop where
  columns : bar.view.columns ≠ []
  bound : bar.bindings ≠ []
  live : AllLive bar.bindings
  mode : bar.refreshMode = .onInput
  honest : bar.CacheHonest

/-- An update is under way, or the composed predicate is in force. -/
def Settled (bar : FilterBar) : Prop := 0 < bar.suspended ∨ bar.InForce

/-- Whatever the table does not know yet is going to be handed over. -/
def Covered (bar : FilterBar) : Prop := (∃ e ∈ bar.queue, e.kind = .changed) ∨ bar.Settled

theorem Settled.of_eq (h : bar.Settled) (hsuspended : b.suspended = bar.suspended)
    (hview : b.view = bar.view) (hcompose : b.compose = bar.compose) : b.Settled := by
  rw [Settled, InForce, hsuspended, hview, hcompose]
  exact h

namespace Attentive

theorem of_alike (h : bar.Attentive) (ha : Alike b bar) (hb : b.CacheHonest) : b.Attentive where
  columns := ha.columns ▸ h.columns
  bound := ha.bindings ▸ h.bound
  live := ha.bindings ▸ h.live
  mode := ha.refreshMode.trans h.mode
  honest := hb

theorem isIdle_eq (h : bar.Attentive) : bar.isIdle = false := isIdle_of_bound h.bound

theorem settled_renew (h : bar.Attentive) : bar.renew.Settled := by
  rcases Nat.eq_zero_or_pos bar.suspended with hsuspended | hsuspended
  · exact .inr (inForce_renew h.honest hsuspended h.isIdle_eq)
  · exact .inl (bar.alike_renew.suspended ▸ hsuspended)

theorem recompute (h : bar.Attentive) : bar.recompute.Attentive :=
  h.of_alike bar.alike_recompute h.honest.recompute

theorem settled_recompute (h : bar.Attentive) : bar.recompute.Settled := by
  have hmode : bar.refreshMode ≠ .off := by
    rw [h.mode]
    decide
  rw [FilterBar.recompute, if_neg hmode]
  exact h.settled_renew

theorem refresh (h : bar.Attentive) : bar.refresh.Attentive :=
  h.of_alike bar.alike_refresh bar.honest_refresh

theorem settled_refresh (h : bar.Attentive) : bar.refresh.Settled := by
  have hforget : { bar with lastApplied := none }.Attentive :=
    ⟨h.columns, h.bound, h.live, h.mode, .of_none rfl⟩
  exact hforget.settled_renew

/-- Every change is recomputed, and nothing else is. -/
theorem handle_eq (h : bar.Attentive) (e : WidgetEvent) :
    bar.handle e = if e.kind = .changed then bar.recompute else bar := by
  rw [FilterBar.handle, h.mode]
  cases e.kind <;> rfl

theorem handle (h : bar.Attentive) (e : WidgetEvent) : (bar.handle e).Attentive := by
  rw [h.handle_eq]
  split
  · exact h.recompute
  · exact h

theorem settled_handle (h : bar.Attentive) {e : WidgetEvent}
    (he : e.kind = .changed ∨ bar.Settled) : (bar.handle e).Settled := by
  rw [h.handle_eq]
  split
  · exact h.settled_recompute
  · rename_i hkind
    exact he.resolve_left hkind

theorem foldl_handle (h : bar.Attentive) (events : List WidgetEvent) :
    (events.foldl FilterBar.handle bar).Attentive := by
  induction events generalizing bar with
  | nil => exact h
  | cons e events ih => exact ih (h.handle e)

/-- Once settled, a bar stays settled; one change among the events settles it. -/
theorem settled_foldl_handle (h : bar.Attentive) {events : List WidgetEvent}
    (he : (∃ e ∈ events, e.kind = .changed) ∨ bar.Settled) :
    (events.foldl FilterBar.handle bar).Settled := by
  -- The bar changes with every event, so that the induction is for all attentive bars.
  induction events generalizing bar with
  | nil =>
    obtain ⟨e, he, -⟩ | hs := he
    · exact absurd he List.not_mem_nil
    · exact hs
  | cons e events ih =>
    apply ih (h.handle e)
    obtain ⟨e', he', hkind⟩ | hs := he
    · rcases List.mem_cons.mp he' with rfl | hrest
      · exact .inr (h.settled_handle (.inl hkind))
      · exact .inl ⟨e', hrest, hkind⟩
    · exact .inr (h.settled_handle (.inr hs))

theorem process (h : bar.Attentive) : bar.process.Attentive := by
  have hq : { bar with queue := [] }.Attentive :=
    ⟨h.columns, h.bound, h.live, h.mode, h.honest.of_eq rfl rfl⟩
  exact hq.foldl_handle bar.queue

theorem settled_process (h : bar.Attentive) (hc : bar.Covered) : bar.process.Settled := by
  have hq : { bar with queue := [] }.Attentive :=
    ⟨h.columns, h.bound, h.live, h.mode, h.honest.of_eq rfl rfl⟩
  exact hq.settled_foldl_handle (hc.imp_right fun hs => hs.of_eq rfl rfl rfl)

theorem editDirectly (h : bar.Attentive) {column : String} {edits : List Edit}
    (he : edits.all Edit.isCriteria) (hb : bar.editDirectly column edits = .ok b) :
    b.Attentive := by
  obtain ⟨f, hf, rfl⟩ := editDirectly_eq_ok hb
  have hlive : f.widget.IsLive := holds_filter? (P := fun f => f.widget.IsLive) h.live hf
  have hedited := (Filter.told_editAll hlive.isHeard he).isLive hlive
  exact ⟨h.columns, replaceFilter_ne_nil h.bound,
    forall_replaceFilter (P := fun f => f.widget.IsLive) h.live hedited column, h.mode,
    h.honest.of_eq rfl rfl⟩

theorem covered_editDirectly (h : bar.Attentive) (hc : bar.Covered) {column : String}
    {edits : List Edit} (he : edits.all Edit.isCriteria)
    (hb : bar.editDirectly column edits = .ok b) : b.Covered := by
  obtain ⟨f, hf, rfl⟩ := editDirectly_eq_ok hb
  have hlive : f.widget.IsLive := holds_filter? (P := fun f => f.widget.IsLive) h.live hf
  obtain ⟨e, hold, hkind⟩ | hs := hc
  · exact .inl ⟨e, List.mem_append_left _ hold, hkind⟩
  -- A silent edit composes to the same predicate, so that nothing has to be handed over.
  · rcases (Filter.told_editAll hlive.isHeard he).told with hsame | ⟨e, hnew, hkind⟩
    · exact .inr (hs.of_eq rfl rfl (compose_replaceFilter hf hsame _))
    · exact .inl ⟨e, List.mem_append_right _ hnew, hkind⟩

theorem edit (h : bar.Attentive) {column : String} {edits : List Edit}
    (he : edits.all Edit.isCriteria) (hb : bar.edit column edits = .ok b) : b.Attentive := by
  obtain ⟨edited, hedited, rfl⟩ := edit_eq_ok hb
  exact (h.editDirectly he hedited).process

theorem settled_edit (h : bar.Attentive) (hc : bar.Covered) {column : String} {edits : List Edit}
    (he : edits.all Edit.isCriteria) (hb : bar.edit column edits = .ok b) : b.Settled := by
  obtain ⟨edited, hedited, rfl⟩ := edit_eq_ok hb
  exact (h.editDirectly he hedited).settled_process (h.covered_editDirectly hc he hedited)

/-- Binding needs no filters to begin with. -/
theorem of_bind (hcolumns : bar.view.columns ≠ []) (hmode : bar.refreshMode = .onInput)
    (hhonest : bar.CacheHonest) : bar.unbind.bind.Attentive where
  columns := hcolumns
  bound := fun hnil => hcolumns (List.zipIdx_eq_nil_iff.mp (List.map_eq_nil_iff.mp hnil))
  live := allLive_bind _
  mode := hmode
  honest := hhonest.of_eq rfl rfl

theorem restore (h : bar.Attentive) (predicates : List String) :
    (bar.restore predicates).Attentive where
  columns := h.columns
  bound := by
    have hpos := List.length_pos_iff.mpr h.bound
    exact List.length_pos_iff.mp (bar.length_restore predicates ▸ hpos)
  live := h.live.restore predicates
  mode := h.mode
  honest := h.honest.of_eq rfl rfl

theorem of_rebound (hcolumns : bar.view.columns ≠ []) (hmode : bar.refreshMode = .onInput)
    (hhonest : bar.CacheHonest) : bar.rebound.Attentive := by
  have hbind := of_bind hcolumns hmode hhonest
  rw [FilterBar.rebound, reinstate]
  split
  · exact hbind.restore _
  · exact hbind

theorem clear (h : bar.Attentive) :
    { bar with bindings := bar.bindings.map Binding.clear, queue := [] }.Attentive where
  columns := h.columns
  bound := fun hnil => h.bound (List.map_eq_nil_iff.mp hnil)
  live := by
    intro b hb
    obtain ⟨old, hold, rfl⟩ := List.mem_map.mp hb
    exact (Filter.told_clear (h.live old hold).isHeard).isLive (h.live old hold)
  mode := h.mode
  honest := h.honest.of_eq rfl rfl

theorem rename (h : bar.Attentive) :
    { bar with
      bindings := List.zipWith Binding.rename bar.bindings bar.view.columns }.Attentive where
  columns := h.columns
  bound := fun hnil => (List.zipWith_eq_nil_iff.mp hnil).elim h.bound h.columns
  live := by
    have hrename : ∀ (b : Binding) (c : Column), b.filter.widget.IsLive →
        (b.rename c).filter.widget.IsLive := fun _ _ hb => hb
    exact forall_zipWith (P := fun f => f.widget.IsLive) h.live hrename bar.view.columns
  mode := h.mode
  honest := h.honest.of_eq rfl rfl

end Attentive

/-- The bar hears of every change, and nothing that it composes is left behind. -/
structure Current (bar : FilterBar) : Prop where
  attentive : bar.Attentive
  covered : bar.Covered

namespace Current

theorem of_recompute (h : bar.Attentive) : bar.recompute.Current :=
  ⟨h.recompute, .inr h.settled_recompute⟩

/-- The settings that a predicate is composed of, and how many updates are under way, are free. -/
theorem recompute_of_eq (h : bar.Attentive) (hview : b.view = bar.view)
    (hbindings : b.bindings = bar.bindings) (hmode : b.refreshMode = bar.refreshMode)
    (hlast : b.lastApplied = bar.lastApplied) : b.recompute.Current :=
  of_recompute ⟨hview ▸ h.columns, hbindings ▸ h.bound, hbindings ▸ h.live, hmode.trans h.mode,
    h.honest.of_eq hview hlast⟩

theorem of_rebuild (hcolumns : bar.view.columns ≠ []) (hmode : bar.refreshMode = .onInput)
    (hhonest : bar.CacheHonest) : bar.rebuild.Current :=
  of_recompute (.of_rebound hcolumns hmode hhonest)

theorem rebuild (h : bar.Attentive) : bar.rebuild.Current :=
  of_rebuild h.columns h.mode h.honest

theorem handle (h : bar.Current) (e : WidgetEvent) : (bar.handle e).Current := by
  refine ⟨h.attentive.handle e, ?_⟩
  rw [h.attentive.handle_eq]
  split
  · exact .inr h.attentive.settled_recompute
  · exact h.covered

theorem edit (h : bar.Current) {column : String} {edits : List Edit}
    (he : edits.all Edit.isCriteria) (hb : bar.edit column edits = .ok b) : b.Current :=
  ⟨h.attentive.edit he hb, .inr (h.attentive.settled_edit h.covered he hb)⟩

theorem syncColumns (h : bar.Attentive) : bar.syncColumns.Current := by
  unfold FilterBar.syncColumns
  split
  · exact of_recompute h.rename
  · exact rebuild h

theorem beginUpdate (h : bar.Attentive) : bar.beginUpdate.Current :=
  ⟨⟨h.columns, h.bound, h.live, h.mode, h.honest.of_eq rfl rfl⟩, .inr (.inl (Nat.succ_pos _))⟩

theorem endUpdate (h : bar.Attentive) : bar.endUpdate.Current := by
  simp only [FilterBar.endUpdate]
  split
  · exact recompute_of_eq h rfl rfl rfl rfl
  · rename_i hsuspended
    exact ⟨⟨h.columns, h.bound, h.live, h.mode, h.honest.of_eq rfl rfl⟩,
      .inr (.inl (Nat.pos_of_ne_zero hsuspended))⟩

theorem perform (h : bar.Current) {op : Operation} (hop : op.keepsListening)
    (hb : bar.perform op = .ok b) : b.Current := by
  have ha := h.attentive
  cases op with
  | edit column edits => exact h.edit hop hb
  | editDirectly column edits =>
    exact ⟨ha.editDirectly hop hb, ha.covered_editDirectly h.covered hop hb⟩
  | commit column => exact h.edit rfl hb
  | leave column => exact h.edit rfl hb
  | setRefreshMode mode => cases hop
  | dataSourceChanged => cases hop
  | setView view => cases hop
  | process =>
    cases hb
    exact ⟨ha.process, .inr (ha.settled_process h.covered)⟩
  | handle e =>
    cases hb
    exact h.handle e
  | refresh =>
    cases hb
    exact ⟨ha.refresh, .inr ha.settled_refresh⟩
  | rebuild =>
    cases hb
    exact rebuild ha
  | syncColumns =>
    cases hb
    exact syncColumns ha
  | setFilters predicates =>
    cases hb
    exact of_recompute (ha.restore predicates)
  | clearFilters =>
    cases hb
    exact of_recompute ha.clear
  | beginUpdate =>
    cases hb
    exact beginUpdate ha
  | endUpdate =>
    cases hb
    exact endUpdate ha
  | setKeepFilters keep =>
    cases hb
    exact ⟨⟨ha.columns, ha.bound, ha.live, ha.mode, ha.honest.of_eq rfl rfl⟩,
      h.covered.imp_right fun hs => hs.of_eq rfl rfl rfl⟩
  | _ =>
    cases hb
    exact recompute_of_eq ha rfl rfl rfl rfl

end Current

def Attends (bar b : FilterBar) : Prop :=
  ∃ op : Operation, op.keepsListening ∧ bar.perform op = .ok b

theorem Current.run (h : bar.Current) (hr : Relation.ReflTransGen Attends bar b) : b.Current := by
  induction hr with
  | refl => exact h
  | tail _ hstep ih =>
    obtain ⟨op, hop, hb⟩ := hstep
    exact ih.perform hop hb

/-- Once no update is under way and no event waits, nothing is left that could be handed over. -/
theorem Current.inForce (h : bar.Current) (hsuspended : bar.suspended = 0) (hqueue : bar.queue = []) :
    bar.InForce := by
  obtain ⟨e, he, -⟩ | hupdate | hforce := h.covered
  · rw [hqueue] at he
    exact absurd he List.not_mem_nil
  · exact absurd hsuspended hupdate.ne'
  · exact hforce

theorem queue_handle (bar : FilterBar) (e : WidgetEvent) : (bar.handle e).queue = bar.queue := by
  unfold FilterBar.handle
  split
  · rfl
  · exact bar.alike_recompute.queue
  · exact bar.alike_refresh.queue

theorem queue_process (bar : FilterBar) : bar.process.queue = [] := by
  have hfold (events : List WidgetEvent) (b : FilterBar) :
      (events.foldl FilterBar.handle b).queue = b.queue := by
    induction events generalizing b with
    | nil => rfl
    | cons e events ih => exact (ih (b.handle e)).trans (b.queue_handle e)
  exact hfold bar.queue { bar with queue := [] }

/-- No event waits after an edit, after the input is committed or left, and after waiting events
have been handled. -/
theorem queue_perform {op : Operation} (hop : op.handlesEvents) (hb : bar.perform op = .ok b) :
    b.queue = [] := by
  have hedit {column : String} {edits : List Edit} (hb : bar.edit column edits = .ok b) :
      b.queue = [] := by
    obtain ⟨edited, -, rfl⟩ := edit_eq_ok hb
    exact edited.queue_process
  cases op with
  | edit column edits => exact hedit hb
  | commit column => exact hedit hb
  | leave column => exact hedit hb
  | process =>
    cases hb
    exact bar.queue_process
  | _ => cases hop

/-- So the composed predicate is in force or refused right after them, outside of updates. -/
theorem Current.inForce_perform (h : bar.Current) {op : Operation} (hop : op.handlesEvents)
    (hlistening : op.keepsListening) (hb : bar.perform op = .ok b) (hsuspended : b.suspended = 0) :
    b.InForce :=
  (h.perform hlistening hb).inForce hsuspended (queue_perform hop hb)

theorem current_ofSettings {view : View} {s : FilterSettings} (hcolumns : view.columns ≠ [])
    (hview : view.predicate = "") (hmode : s.refreshMode = .onInput)
    (overrides : List (String × FilterKind)) : (ofSettings view s overrides).Current := by
  apply Current.of_rebuild hcolumns hmode
  intro p hp
  cases hp
  exact .inl hview

/-- Wherever operations and edits in any order lead, as soon as no update is under way and no event
waits, the composed predicate is in force or refused. -/
theorem no_edit_lost {view : View} {s : FilterSettings} {overrides : List (String × FilterKind)}
    {bar : FilterBar} (hcolumns : view.columns ≠ []) (hview : view.predicate = "")
    (hmode : s.refreshMode = .onInput)
    (hr : Relation.ReflTransGen Attends (ofSettings view s overrides) bar)
    (hsuspended : bar.suspended = 0) (hqueue : bar.queue = []) :
    bar.view.predicate = bar.compose ∨ bar.view.Rejects bar.compose :=
  ((current_ofSettings hcolumns hview hmode overrides).run hr).inForce hsuspended hqueue

def peopleView : View := .memory { table := ⟨"people"⟩, columns := [.ofName "name" .text] }

/-- The event of an edit during an update is dropped at its end, and yet the edit is in force. -/
theorem no_edit_lost_update : ∃ bar,
    (ofSettings peopleView {}).beginUpdate.editDirectly "name" [.setText "ann"] = .ok bar ∧
      (bar.endUpdate.view.predicate = bar.endUpdate.compose ∨
        bar.endUpdate.view.Rejects bar.endUpdate.compose) := by
  have hbound : (ofSettings peopleView {}).bindings =
      [⟨"name", "name", ⟨.text, { input := .text "", listener := some 0 }⟩⟩] :=
    (alike_recompute _).bindings
  have hsuspended : (ofSettings peopleView {}).suspended = 0 := (alike_recompute _).suspended
  have hfilter : (ofSettings peopleView {}).beginUpdate.filter? "name" =
      some ⟨.text, { input := .text "", listener := some 0 }⟩ := by
    rw [filter?, beginUpdate, hbound]
    rfl
  obtain ⟨bar, hedit, hone⟩ : ∃ bar, (ofSettings peopleView {}).beginUpdate.editDirectly "name"
      [.setText "ann"] = .ok bar ∧ bar.suspended = 1 := by
    rw [editDirectly, hfilter]
    exact ⟨_, rfl, by rw [beginUpdate, hsuspended]⟩
  have hend : bar.endUpdate = { bar with suspended := 0, queue := [] }.recompute := by
    simp only [endUpdate, hone, Nat.sub_self, if_true]
  have hbegin := Relation.ReflTransGen.single (r := Attends) (a := ofSettings peopleView {})
    ⟨.beginUpdate, rfl, rfl⟩
  refine ⟨bar, hedit, no_edit_lost (by decide) rfl rfl
    ((hbegin.tail ⟨.editDirectly "name" [.setText "ann"], rfl, hedit⟩).tail
      ⟨.endUpdate, rfl, rfl⟩) ?_ ?_⟩
  · rw [hend]
    exact (alike_recompute _).suspended
  · rw [hend]
    exact (alike_recompute _).queue

end FilterBar
end TableFilter
