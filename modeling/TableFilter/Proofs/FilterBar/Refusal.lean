import TableFilter.Proofs.FilterBar.Columns
import TableFilter.Proofs.FilterBar.Renewals
import TableFilter.Proofs.View.Marks

/-!
# Refused predicates

A table that refuses a predicate stays as it is, and so does everything else except for what the bar
takes for the last predicate: listeners hear that the predicate was about to be handed over, the log
and the user are told as much as they asked for, and nothing is remembered. As the bar keeps the
refused predicate in mind, it does not hand it over and report it again until another one is
composed, a refresh is forced, or the table shows other data.

That nothing is remembered relies on the table accepting the predicate that it has in force. Tables
do so as long as their columns keep their names.
-/

namespace TableFilter

open Text

namespace View

variable {v v' : View} {p : String}

def IsCurrent (v : View) : Prop := ¬ v.Rejects v.predicate

theorem isCurrent_of_blank (h : v.predicate = "") : v.IsCurrent := by
  rw [IsCurrent, h]
  exact v.not_rejects_empty

theorem IsCurrent.of_knows (h : v.IsCurrent) (hpredicate : v'.predicate = v.predicate)
    (hknows : ∀ name, v'.Knows name ↔ v.Knows name) : v'.IsCurrent := by
  rw [IsCurrent, rejects_iff, not_not, exists_setPredicate] at h ⊢
  simpa only [hpredicate, hknows] using h

theorem Rejects.exists_error (h : v.Rejects p) : ∃ e, v.setPredicate p = .error e := by
  cases hs : v.setPredicate p with
  | ok view => exact absurd hs (h view)
  | error e => exact ⟨e, rfl⟩

theorem isCurrent_of_setPredicate (h : v.setPredicate p = .ok v') : v'.IsCurrent := by
  have ha := accepts_of_setPredicate h
  rw [IsCurrent, ha.predicate, ha.rejects_iff]
  exact fun hrejects => hrejects v' h

theorem setPredicate_memory {w w' : MemoryView} (h : w.setPredicate p = .ok w') :
    (memory w).setPredicate p = .ok (memory w') := by
  rw [setPredicate, h]
  rfl

theorem setPredicate_frame {w w' : FrameView} (h : w.setPredicate p = .ok w') :
    (frame w).setPredicate p = .ok (frame w') := by
  rw [setPredicate, h]
  rfl

end View

theorem MemoryView.isCurrent_of_reach {v : MemoryView} {g : Given} (h : Reach v g) :
    (View.memory v).IsCurrent := by
  induction h with
  | new | setTable => exact View.isCurrent_of_blank rfl
  | withRows | pushRow | withCase =>
    rename_i ih
    exact ih.of_knows rfl fun _ => Iff.rfl
  | describe columns _ hnames ih =>
    refine ih.of_knows rfl fun name => ?_
    have hmem := congrArg (name ∈ ·) hnames
    simpa [View.Knows] using hmem
  | accept _ hp ih =>
    exact View.isCurrent_of_setPredicate (View.setPredicate_memory (attempt_eq_none.mp hp))
  | refuse _ hp ih =>
    rw [(attempt_eq_some.mp hp).2]
    exact ih

theorem FrameView.isCurrent_of_reach {table : TableId} {frame : Frame} {v : FrameView}
    {judged : Bool} (h : Reach table frame v judged) : (View.frame v).IsCurrent := by
  induction h with
  | new => exact View.isCurrent_of_blank rfl
  | withCase _ _ ih => exact ih.of_knows rfl fun _ => Iff.rfl
  | accept _ hp ih =>
    exact View.isCurrent_of_setPredicate (View.setPredicate_frame (attempt_eq_none.mp hp))
  | refuse _ hp ih =>
    rw [(attempt_eq_some.mp hp).2]
    exact ih

namespace Operation

/-- An operation that puts another table in the place of the present one brings one that accepts the
predicate that it has in force. -/
def BringsCurrent : Operation → Prop
  | .setView view => view.IsCurrent
  | _ => True

theorem bringsCurrent_of_keepsView {op : Operation} (h : op.keepsView) : op.BringsCurrent := by
  cases op with
  | setView view => cases h
  | _ => trivial

end Operation

namespace FilterBar

variable {bar b c : FilterBar} {op : Operation} {a : RefreshAction} {actions : List RefreshAction}
  {p : String} {e : FilterError}

/-- What can happen to a bar as long as its table accepts the predicate in force: what leaves the
table to the bar, other data, another table, and any change of the table from outside. -/
inductive Happens : FilterBar → FilterBar → Prop where
  | step {bar b : FilterBar} : Step bar b → Happens bar b
  | dataSourceChanged (bar : FilterBar) : Happens bar bar.dataSourceChanged
  | setView (bar : FilterBar) (view : View) : view.IsCurrent → Happens bar (bar.setView view)
  | outside (bar : FilterBar) (view : View) : view.IsCurrent → Happens bar { bar with view }

theorem isCurrent_push (h : bar.view.IsCurrent) (p : String) : (bar.push p).view.IsCurrent := by
  cases hs : bar.view.setPredicate p with
  | ok view =>
    simp only [push, emit, hs]
    exact View.isCurrent_of_setPredicate hs
  | error e =>
    simp only [push, emit, hs]
    exact h

theorem isCurrent_act (h : bar.view.IsCurrent) (a : RefreshAction) :
    (bar.act a).view.IsCurrent := by
  by_cases hhands : bar.HandsOver a
  · rw [act_eq_push hhands, view_remember]
    exact isCurrent_push h _
  · rw [(act_of_not_handsOver hhands).1]
    exact h

theorem isCurrent_actAll (h : bar.view.IsCurrent) (actions : List RefreshAction) :
    (bar.actAll actions).view.IsCurrent :=
  actAll_induction (P := fun b => b.view.IsCurrent) h (fun _ a hb => isCurrent_act hb a) actions

theorem isCurrent_prepare (h : bar.view.IsCurrent) (hop : op.BringsCurrent)
    (hb : bar.prepare op = .ok (b, actions)) : b.view.IsCurrent := by
  cases op with
  | dataSourceChanged =>
    cases hb
    rw [view_rebound]
    exact h
  | setView view =>
    cases hb
    rw [view_rebound]
    exact hop
  | _ =>
    rw [(keepsTable_of_prepare rfl hb).view]
    exact h

theorem isCurrent_perform (h : bar.view.IsCurrent) (hop : op.BringsCurrent)
    (hb : bar.perform op = .ok b) : b.view.IsCurrent := by
  rw [perform_eq_prepare] at hb
  obtain ⟨⟨prepared, actions⟩, hprepare, rfl⟩ := map_eq_ok.mp hb
  exact isCurrent_actAll (isCurrent_prepare h hop hprepare) actions

theorem isCurrent_step (h : bar.view.IsCurrent) (hs : Step bar b) : b.view.IsCurrent := by
  cases hs with
  | perform op hop hb => exact isCurrent_perform h (Operation.bringsCurrent_of_keepsView hop) hb
  | alter | memorize | report => exact h

theorem isCurrent_run (h : bar.view.IsCurrent) (hr : Relation.ReflTransGen Happens bar b) :
    b.view.IsCurrent := by
  induction hr with
  | refl => exact h
  | tail _ hs ih =>
    cases hs with
    | step hstep => exact isCurrent_step ih hstep
    | dataSourceChanged =>
      have hop : Operation.dataSourceChanged.BringsCurrent := trivial
      exact isCurrent_perform ih hop rfl
    | setView view hview =>
      have hop : (Operation.setView view).BringsCurrent := hview
      exact isCurrent_perform ih hop rfl
    | outside view hview => exact hview

theorem isCurrent_ofSettings {view : View} (h : view.IsCurrent) (s : FilterSettings)
    (overrides : List (String × FilterKind)) : (ofSettings view s overrides).view.IsCurrent := by
  apply isCurrent_act _ .recompute
  change (rebound _).view.IsCurrent
  rw [view_rebound]
  exact h

theorem report_eq (bar : FilterBar) (e : FilterError) : bar.report e =
    (if bar.reporter.log.isOff then [] else [.logged (bar.reporter.log.format e)]) ++
      if bar.reporter.notify.isOff then [] else [.notified (bar.reporter.notify.format e)] := by
  rw [report, ErrorModes.report?, ErrorModes.report?]
  congr 1 <;> split <;> rfl

theorem push_of_refused (h : bar.view.setPredicate p = .error e) : bar.push p =
    { bar with lastApplied := some p, trace := bar.trace ++ .before p :: bar.report e } := by
  simp only [push, emit, h, List.append_assoc]
  rfl

theorem act_of_refused (hcurrent : bar.view.IsCurrent) (hhands : bar.HandsOver a)
    (hrefused : bar.view.setPredicate bar.compose = .error e) : bar.act a =
      { bar with
        lastApplied := some bar.compose
        trace := bar.trace ++ .before bar.compose :: bar.report e } := by
  rw [act_eq_push hhands, push_of_refused hrefused]
  apply if_neg
  intro hforce
  apply hcurrent
  rw [show bar.view.predicate = bar.compose from hforce]
  intro view hview
  rw [hrefused] at hview
  cases hview

/-- A table whose columns were changed may refuse the predicate that it has in force, and then the
filters are remembered all the same. -/
theorem snapshot?_act_of_stale (hhands : bar.HandsOver a) (hmemory : bar.memory.enabled)
    (hforce : bar.view.predicate = bar.compose)
    (hrefused : bar.view.setPredicate bar.compose = .error e) :
    (bar.act a).memory.snapshot? bar.view.table = some ⟨bar.view.table, bar.filters⟩ := by
  rw [act_eq_push hhands, push_of_refused hrefused, remember_eq_record]
  · exact TableMemory.snapshot?_record_self hmemory
  · exact hforce

/-- The operation leads from one bar to another with recomputes of which none is forced and all
compose `p`, and keeps the table. -/
def Repeats (p : String) (op : Operation) (bar c : FilterBar) : Prop :=
  op.keepsView ∧ ∃ b actions, bar.prepare op = .ok (b, actions) ∧ .force ∉ actions ∧
    (.recompute ∈ actions → b.compose = p) ∧ c = b.actAll actions

/-- What can happen to a bar without another predicate being composed: such operations, and whatever
is done from outside to the table, the filters, the memory and the reports, for nobody but the bar
knows the predicate that it takes for the last one. -/
inductive Rests (p : String) : FilterBar → FilterBar → Prop where
  | perform {bar c : FilterBar} (op : Operation) : Repeats p op bar c → Rests p bar c
  | outside {bar c : FilterBar} : c.lastApplied = bar.lastApplied → Rests p bar c

/-- Recomputes that compose the predicate handed over last hand nothing over. -/
theorem actAll_of_repeated (hlast : bar.lastApplied = some p) (hforce : .force ∉ actions)
    (hcompose : .recompute ∈ actions → bar.compose = p) :
    (bar.actAll actions).view = bar.view ∧ (bar.actAll actions).trace = bar.trace ∧
      (bar.actAll actions).lastApplied = some p := by
  induction actions generalizing bar with
  | nil => exact ⟨rfl, rfl, hlast⟩
  | cons a actions ih =>
    obtain ⟨ha, hforce⟩ := not_or.mp (mt List.mem_cons.mpr hforce)
    have hhands : ¬ bar.HandsOver a := by
      rintro ⟨-, -, rfl | ⟨rfl, -, hnew⟩⟩
      · exact ha rfl
      · exact hnew (hlast.trans (congrArg some (hcompose List.mem_cons_self).symm))
    obtain ⟨hview, htrace, hkept⟩ := act_of_not_handsOver hhands
    have hrest := ih ((hkept (Ne.symm ha)).trans hlast) hforce fun hmem =>
      (bar.alike_act a).compose_eq.trans (hcompose (List.mem_cons_of_mem a hmem))
    exact ⟨hrest.1.trans hview, hrest.2.1.trans htrace, hrest.2.2⟩

theorem Repeats.spec (h : Repeats p op bar c) (hlast : bar.lastApplied = some p) :
    bar.perform op = .ok c ∧ c.view = bar.view ∧ c.lastApplied = some p ∧
      (c.trace = bar.trace ∨ c.trace = bar.rebound.trace) := by
  obtain ⟨hop, b, actions, hb, hforce, hcompose, rfl⟩ := h
  have hkeeps := keepsTable_of_prepare hop hb
  obtain ⟨hview, htrace, hkept⟩ :=
    actAll_of_repeated (hkeeps.lastApplied.trans hlast) hforce hcompose
  refine ⟨perform_of_prepare hb, hview.trans hkeeps.view, hkept, ?_⟩
  rw [htrace]
  exact hkeeps.trace

theorem lastApplied_run (hlast : bar.lastApplied = some p)
    (hr : Relation.ReflTransGen (Rests p) bar c) : c.lastApplied = some p := by
  induction hr with
  | refl => exact hlast
  | tail _ hs ih =>
    cases hs with
    | perform op hop => exact (hop.spec ih).2.2.1
    | outside hkept => exact hkept.trans ih

theorem remember_of_disabled (h : bar.memory.enabled = false) : bar.remember = bar := by
  have hrecord : bar.memory.record bar.view.table bar.filters = bar.memory := by
    rw [TableMemory.record, h]
    rfl
  unfold remember
  split
  · rw [hrecord]
  · rfl

/-- A bar that composes nothing at first is left as it is by its first recompute. -/
theorem ofSettings_eq_unsettled {view : View} {s : FilterSettings}
    (hcompose : (unsettled view s).compose = "")
    (hremember : (unsettled view s).remember = unsettled view s) :
    ofSettings view s = unsettled view s := by
  have hlast : (unsettled view s).lastApplied = some "" := lastApplied_rebound _
  have hrenew := @renew_of_not_ready (unsettled view s) fun ⟨_, _, hnew⟩ =>
    hnew (hlast.trans (congrArg some hcompose.symm))
  rw [hremember, or_self] at hrenew
  change (unsettled view s).recompute = unsettled view s
  rw [recompute, hrenew, ite_self]

theorem ofSettings_people : ofSettings peopleView {} = unsettled peopleView {} :=
  ofSettings_eq_unsettled (compose_of_inactive (by decide)) (remember_of_disabled rfl)

/-- With the default reports the user is told that a predicate was refused, and nothing else. -/
theorem report_of_default (h : bar.reporter = {}) (e : FilterError) :
    bar.report e = [.notified "Invalid filter specified."] := by
  rw [report, h]
  rfl

theorem nickBar_eq : nickBar =
    { unsettled peopleView {} with baseFilters := [(⟨"people"⟩, "[nick] = 'ann'")] } := by
  rw [nickBar, ofSettings_people]

theorem reporter_nickBar : nickBar.reporter = {} := by
  rw [nickBar_eq]
  rfl

theorem isCurrent_people : peopleView.IsCurrent :=
  MemoryView.isCurrent_of_reach (.new ⟨"people"⟩ [.ofName "name" .text])

theorem prepare_people : (ofSettings peopleView {}).prepare (.setBaseFilter "[nick] = 'ann'") =
    .ok (nickBar, [.recompute]) := by
  rw [nickBar_eq, ofSettings_people]
  rfl

theorem handsOver_nickBar : nickBar.HandsOver .recompute := by
  have hlast : nickBar.lastApplied = some "" := by
    rw [nickBar_eq]
    rfl
  refine ⟨alike_nickBar.suspended, alike_nickBar.isIdle_eq, .inr ⟨rfl, ?_, ?_⟩⟩
  · rw [alike_nickBar.refreshMode]
    decide
  · rw [hlast, compose_nickBar]
    decide

def refusedBar : FilterBar :=
  { nickBar with
    lastApplied := some "[nick] = 'ann'"
    trace := nickBar.trace ++ [.before "[nick] = 'ann'", .notified "Invalid filter specified."] }

theorem act_nickBar : nickBar.act .recompute = refusedBar := by
  obtain ⟨e, he⟩ := rejects_nick.exists_error
  have hview : nickBar.view = peopleView := view_people
  rw [act_of_refused (hview ▸ isCurrent_people) handsOver_nickBar (compose_nickBar ▸ hview ▸ he),
    compose_nickBar, report_of_default reporter_nickBar]
  rfl

def refreshedBar : FilterBar := { refusedBar with lastApplied := some "" }.rebound

theorem refreshedBar_eq : refreshedBar = rebound { unsettled peopleView {} with
    baseFilters := [(⟨"people"⟩, "[nick] = 'ann'")], trace := refusedBar.trace } := by
  rw [refreshedBar, refusedBar, nickBar_eq]
  rfl

theorem compose_refreshedBar : refreshedBar.compose = "[nick] = 'ann'" := by
  rw [refreshedBar_eq, compose_of_inactive (by decide)]
  decide

theorem handsOver_refreshedBar : refreshedBar.HandsOver .recompute := by
  rw [HandsOver, compose_refreshedBar, refreshedBar_eq]
  exact ⟨rfl, rfl, .inr ⟨rfl, by decide, by decide⟩⟩

theorem trace_recompute_refreshedBar : refreshedBar.recompute.trace = refreshedBar.trace ++
    [.before "[nick] = 'ann'", .notified "Invalid filter specified."] := by
  obtain ⟨e, he⟩ := rejects_nick.exists_error
  have hview : refreshedBar.view = peopleView := by
    rw [refreshedBar_eq]
    rfl
  have hreporter : refreshedBar.reporter = {} := by
    rw [refreshedBar_eq]
    rfl
  have hact := act_of_refused (hview ▸ isCurrent_people) handsOver_refreshedBar
    (compose_refreshedBar ▸ hview ▸ he)
  rw [compose_refreshedBar, report_of_default hreporter] at hact
  exact congrArg trace hact

def annView : View :=
  .memory {
    table := ⟨"people"⟩
    columns := [.ofName "name" .text]
    predicate := "[name] = 'ann'"
    expr := some (.compare .eq (.column "name") (.literal (.text "ann")))
    applied := 1 }

theorem setPredicate_ann : peopleView.setPredicate "[name] = 'ann'" = .ok annView := by
  apply View.setPredicate_memory
  refine MemoryView.setPredicate_eq_ok.mpr ⟨_, compile_eq_ok.mpr ⟨.of_reads reads_ann, ?_⟩, rfl⟩
  simp [Expr.mentions, Column.ofName]

def staleView : View := annView.setColumns [.ofName "nick" .text]

theorem rejects_stale : staleView.Rejects "[name] = 'ann'" := by
  rw [View.rejects_iff, View.exists_setPredicate]
  rintro ⟨o, ho, hknown⟩
  rw [ho.unique (.of_reads reads_ann)] at hknown
  obtain ⟨c, hc, hname⟩ := hknown _ rfl "name" (List.mem_singleton_self _)
  rw [List.mem_singleton.mp hc] at hname
  exact absurd hname (by decide)

def staleBar : FilterBar :=
  { unsettled staleView { keepFilters := true } with
    baseFilters := [(⟨"people"⟩, "[name] = 'ann'")] }

theorem compose_staleBar : staleBar.compose = "[name] = 'ann'" := by
  rw [compose_of_inactive (by decide)]
  decide

theorem ofSettings_stale : ofSettings staleView { keepFilters := true } =
    unsettled staleView { keepFilters := true } := by
  have hcompose : (unsettled staleView { keepFilters := true }).compose = "" :=
    compose_of_inactive (by decide)
  apply ofSettings_eq_unsettled hcompose
  apply if_neg
  rw [hcompose]
  decide

theorem handsOver_staleBar : staleBar.HandsOver .recompute := by
  refine ⟨rfl, rfl, .inr ⟨rfl, by decide, ?_⟩⟩
  rw [compose_staleBar]
  decide

/-- When the table refuses a predicate, the operation succeeds all the same, and the bar only keeps
the predicate in mind. Listeners are told once that it was about to be handed over, and the log and
the user get one report each, unless they asked for none. Afterwards operations do not touch the
table and report nothing, until another predicate is composed, a refresh is forced, or the table
shows other data. -/
theorem refusal_spoils_nothing {view : View} {s : FilterSettings}
    {overrides : List (String × FilterKind)} (hview : view.IsCurrent)
    (hr : Relation.ReflTransGen Happens (ofSettings view s overrides) bar)
    (hop : op.BringsCurrent) (earlier later : List RefreshAction) (a : RefreshAction)
    (hb : bar.prepare op = .ok (b, earlier ++ a :: later))
    (hhands : (b.actAll earlier).HandsOver a)
    (hrefused : (b.actAll earlier).view.setPredicate (b.actAll earlier).compose = .error e) :
    let before := b.actAll earlier
    let refused := before.act a
    let after := refused.actAll later
    bar.perform op = .ok after ∧
    refused = { before with
      lastApplied := some before.compose
      trace := before.trace ++ .before before.compose ::
        ((if before.reporter.log.isOff then [] else [.logged (before.reporter.log.format e)]) ++
          if before.reporter.notify.isOff then []
          else [.notified (before.reporter.notify.format e)]) } ∧
    (.force ∉ later → (after.view = refused.view ∧ after.trace = refused.trace) ∧
      ∀ c d next, Relation.ReflTransGen (Rests before.compose) after c →
        Repeats before.compose next c d → c.perform next = .ok d ∧ d.view = c.view ∧
          (d.trace = c.trace ∨ d.trace = c.rebound.trace)) := by
  intro before refused after
  have hbar := isCurrent_run (isCurrent_ofSettings hview s overrides) hr
  have hcurrent : before.view.IsCurrent := isCurrent_actAll (isCurrent_prepare hbar hop hb) earlier
  have heq : refused = { before with
      lastApplied := some before.compose
      trace := before.trace ++ .before before.compose :: before.report e } :=
    act_of_refused hcurrent hhands hrefused
  have hlast : refused.lastApplied = some before.compose := by rw [heq]
  have hcompose : refused.compose = before.compose := (before.alike_act a).compose_eq
  refine ⟨?_, ?_, fun hforce => ?_⟩
  · rw [perform_of_prepare hb, actAll_append]
    rfl
  · rw [heq, report_eq]
  · obtain ⟨hkeptView, hkeptTrace, hkept⟩ := actAll_of_repeated hlast hforce fun _ => hcompose
    refine ⟨⟨hkeptView, hkeptTrace⟩, fun c d next hc hd => ?_⟩
    have hspec := hd.spec (lastApplied_run hkept hc)
    exact ⟨hspec.1, hspec.2.1, hspec.2.2.2⟩

/-- The column is missing, so that the base filter is refused, and joining the filters in another
way afterwards does nothing. -/
theorem refusal_spoils_nothing_nick : ∃ d,
    (ofSettings peopleView {}).perform (.setBaseFilter "[nick] = 'ann'") = .ok refusedBar ∧
      refusedBar.perform (.setOperator .or) = .ok d ∧ d.view = refusedBar.view ∧
        (d.trace = refusedBar.trace ∨ d.trace = refusedBar.rebound.trace) := by
  obtain ⟨e, he⟩ := rejects_nick.exists_error
  have hview : nickBar.view = peopleView := view_people
  have hrefused : nickBar.view.setPredicate nickBar.compose = .error e := by
    rw [compose_nickBar, hview]
    exact he
  have hop : (Operation.setBaseFilter "[nick] = 'ann'").BringsCurrent := trivial
  obtain ⟨hperform, -, hlater⟩ := refusal_spoils_nothing isCurrent_people .refl hop [] [] .recompute
    prepare_people handsOver_nickBar hrefused
  have hor : { refusedBar with operator := .or }.compose = "[nick] = 'ann'" := by
    have ha : Alike { refusedBar with operator := .or } { unsettled peopleView {} with
        baseFilters := [(⟨"people"⟩, "[nick] = 'ann'")], operator := .or } :=
      { act_nickBar ▸ (nickBar.alike_act .recompute).trans alike_nickBar with operator := rfl }
    rw [ha.compose_eq, compose_of_inactive (by decide)]
    decide
  have hrepeats : Repeats nickBar.compose (.setOperator .or) refusedBar
      (refusedBar.setOperator .or) :=
    ⟨rfl, _, _, rfl, by decide, fun _ => hor.trans compose_nickBar.symm, rfl⟩
  rw [show (nickBar.actAll []).act .recompute = refusedBar from act_nickBar] at hperform hlater
  exact ⟨_, hperform, (hlater List.not_mem_nil).2 _ _ _ .refl hrepeats⟩

/-- A refused predicate is handed over and reported again when the table shows other data. And a
table whose columns were renamed before the bar was bound to it may refuse the predicate that it has
in force; then the filters are remembered with it. -/
theorem refusal_leaves_traces :
    ((ofSettings peopleView {}).perform (.setBaseFilter "[nick] = 'ann'") = .ok refusedBar ∧
      refusedBar.view.Rejects refusedBar.compose ∧
      ∃ b, refusedBar.prepare .dataSourceChanged = .ok (b, [.recompute]) ∧
        b.compose = refusedBar.compose ∧ b.recompute.trace = b.trace ++
          [.before refusedBar.compose, .notified "Invalid filter specified."]) ∧
    peopleView.setPredicate "[name] = 'ann'" = .ok annView ∧
    ∃ c, (ofSettings staleView { keepFilters := true }).perform (.setBaseFilter "[name] = 'ann'") =
        .ok c ∧ c.view.Rejects c.compose ∧
      (ofSettings staleView { keepFilters := true }).memory.snapshot? ⟨"people"⟩ = none ∧
      c.memory.snapshot? ⟨"people"⟩ = some ⟨⟨"people"⟩, [""]⟩ := by
  refine ⟨?_, setPredicate_ann, ?_⟩
  · have hcompose : refusedBar.compose = "[nick] = 'ann'" := compose_nickBar
    have hview : refusedBar.view = peopleView := view_people
    have hperform := perform_of_prepare prepare_people
    rw [show nickBar.actAll [.recompute] = refusedBar from act_nickBar] at hperform
    rw [hcompose, hview]
    exact ⟨hperform, rejects_nick, refreshedBar, rfl, compose_refreshedBar,
      trace_recompute_refreshedBar⟩
  · have hrejects : staleBar.view.Rejects staleBar.compose := compose_staleBar ▸ rejects_stale
    obtain ⟨e, he⟩ := hrejects.exists_error
    have hcompose : (staleBar.act .recompute).compose = "[name] = 'ann'" :=
      (staleBar.alike_act .recompute).compose_eq.trans compose_staleBar
    rw [ofSettings_stale]
    refine ⟨staleBar.act .recompute, rfl, ?_, rfl, ?_⟩
    · rw [hcompose, act_eq_push handsOver_staleBar, view_remember, push_of_refused he]
      exact rejects_stale
    · refine (snapshot?_act_of_stale handsOver_staleBar rfl ?_ he).trans ?_
      · rw [compose_staleBar]
        rfl
      · decide

end FilterBar
end TableFilter
