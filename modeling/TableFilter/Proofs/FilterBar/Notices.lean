import TableFilter.Proofs.FilterBar.Origins
import TableFilter.Proofs.FilterBar.Refusal

/-!
# What listeners hear

Listeners hear of predicates and of filters. Every operation first tells which filters were given up
and which were bound, and then hands predicates over, each of which is accepted or refused. So
whoever listens knows which predicate is in force, how often one was accepted, and which filters the
bar has.
-/

namespace TableFilter

/-- Whether listeners hear of it. The log and the user are told of refusals in another way. -/
def Notice.isEvent : Notice → Bool
  | .logged _ | .notified _ => false
  | _ => true

namespace Notice

def accepted? : Notice → Option String
  | .after p => some p
  | _ => none

def ofBound (label : String × FilterKind) : Notice := .bound label.1 label.2

def ofUnbound (label : String × FilterKind) : Notice := .unbound label.1 label.2

def IsHandover (n : Notice) : Prop := ∃ p, n = .before p ∨ n = .after p

end Notice

def acceptedIn (notices : List Notice) : List String := notices.filterMap Notice.accepted?

/-- A predicate is told to be accepted only right after it was told to be handed over. -/
def WellPaired (notices : List Notice) : Prop :=
  ∀ xs p ys, notices = xs ++ .after p :: ys → xs.getLast? = some (.before p)

/-- The filters that a listener knows of, after another notice; none if one is given up that the
listener does not know. -/
def follow (labels : List (String × FilterKind)) : Notice → Option (List (String × FilterKind))
  | .unbound column kind =>
    if (column, kind) ∈ labels then some (labels.erase (column, kind)) else none
  | .bound column kind => some (labels ++ [(column, kind)])
  | _ => some labels

theorem wellPaired_append {xs ys : List Notice} (hx : WellPaired xs) (hy : WellPaired ys) :
    WellPaired (xs ++ ys) := by
  intro us p vs h
  rcases List.append_eq_append_iff.mp h with ⟨ws, rfl, hws⟩ | ⟨ws, rfl, hws⟩
  · rw [List.getLast?_append, hy ws p vs hws, Option.some_or]
  · cases ws with
    | nil => simpa using hy [] p vs hws.symm
    | cons w ws =>
      obtain ⟨rfl, -⟩ := List.cons.inj hws
      exact hx us p ws rfl

theorem wellPaired_of_forall {xs : List Notice} (h : ∀ p, .after p ∉ xs) : WellPaired xs := by
  rintro us p vs rfl
  exact absurd (List.mem_append_right us List.mem_cons_self) (h p)

theorem wellPaired_pair (p : String) : WellPaired [.before p, .after p] := by
  intro us q vs h
  match us, h with
  | [_], h =>
    cases h
    rfl
  | [], h => cases h
  | _ :: _ :: us, h => exact absurd (List.cons.inj (List.cons.inj h).2).2 (by simp)

theorem follow_ofUnbound (labels : List (String × FilterKind)) :
    (labels.map Notice.ofUnbound).foldlM follow labels = some [] := by
  induction labels with
  | nil => rfl
  | cons label labels ih =>
    have hfirst : follow (label :: labels) (.ofUnbound label) = some labels := by
      rw [Notice.ofUnbound, follow, if_pos List.mem_cons_self, List.erase_cons_head]
    rw [List.map_cons, List.foldlM_cons, hfirst]
    exact ih

theorem follow_ofBound (known labels : List (String × FilterKind)) :
    (labels.map Notice.ofBound).foldlM follow known = some (known ++ labels) := by
  induction labels generalizing known with
  | nil => rw [List.append_nil]; rfl
  | cons label labels ih =>
    rw [List.map_cons, List.foldlM_cons]
    refine (ih (known ++ [label])).trans ?_
    rw [List.append_assoc, List.singleton_append]

def Binding.label (b : Binding) : String × FilterKind := (b.column, b.kind)

theorem Strategy.kind_withRange (between : Bool) (s : Strategy) :
    (s.withRange between).kind = s.kind := by
  cases s <;> rfl

def View.applied? : View → Option Nat
  | memory v => some v.applied
  | frame _ => none

theorem View.applied?_of_setPredicate {v w : View} {p : String} (h : v.setPredicate p = .ok w) :
    w.applied? = v.applied?.map (· + 1) := by
  cases v with
  | memory v =>
    obtain ⟨w, hw, rfl⟩ := map_eq_ok.mp h
    obtain ⟨o, -, rfl⟩ := MemoryView.setPredicate_eq_ok.mp hw
    rfl
  | frame v =>
    obtain ⟨w, -, rfl⟩ := map_eq_ok.mp h
    rfl

/-- Predicates are handed to the first table one after the other, which turns into the second, and
listeners hear the notices. -/
inductive Handovers : View → List Notice → View → Prop where
  | none (v : View) : Handovers v [] v
  | accepted {u v w : View} {p : String} {rest : List Notice} : u.setPredicate p = .ok v →
      Handovers v rest w → Handovers u (.before p :: .after p :: rest) w
  | refused {v w : View} {p : String} {rest : List Notice} : v.Rejects p →
      Handovers v rest w → Handovers v (.before p :: rest) w

namespace Handovers

variable {u v w : View} {xs ys : List Notice}

theorem trans (h : Handovers u xs v) (h' : Handovers v ys w) : Handovers u (xs ++ ys) w := by
  induction h with
  | none => exact h'
  | accepted hp _ ih => exact .accepted hp (ih h')
  | refused hp _ ih => exact .refused hp (ih h')

theorem isHandover (h : Handovers v xs w) : ∀ n ∈ xs, n.IsHandover := by
  induction h with
  | none => exact nofun
  | accepted _ _ ih =>
    exact List.forall_mem_cons.mpr ⟨⟨_, .inl rfl⟩, List.forall_mem_cons.mpr ⟨⟨_, .inr rfl⟩, ih⟩⟩
  | refused _ _ ih => exact List.forall_mem_cons.mpr ⟨⟨_, .inl rfl⟩, ih⟩

theorem sameTable (h : Handovers v xs w) : w.SameTable v := by
  induction h with
  | none => exact .refl _
  | accepted hp _ ih => exact ih.trans (View.sameTable_of_setPredicate hp)
  | refused _ _ ih => exact ih

/-- What every accepted predicate preserves is preserved. -/
theorem preserves {P : View → Prop} (hP : ∀ v w p, v.setPredicate p = .ok w → P v → P w)
    (h : Handovers v xs w) (hv : P v) : P w := by
  induction h with
  | none => exact hv
  | accepted hp _ ih => exact ih (hP _ _ _ hp hv)
  | refused _ _ ih => exact ih hv

theorem predicate_eq (h : Handovers v xs w) :
    w.predicate = (acceptedIn xs).getLast?.getD v.predicate := by
  induction h with
  | none => rfl
  | @accepted _ _ _ p rest hp _ ih =>
    have hcons : acceptedIn (.before p :: .after p :: rest) = p :: acceptedIn rest := rfl
    rw [ih, hcons, List.getLast?_cons, (View.accepts_of_setPredicate hp).predicate]
    rfl
  | refused _ _ ih => exact ih

theorem applied?_eq (h : Handovers v xs w) :
    w.applied? = v.applied?.map (· + (acceptedIn xs).length) := by
  induction h with
  | none => simp [acceptedIn]
  | @accepted _ _ _ p rest hp _ ih =>
    have hcons : acceptedIn (.before p :: .after p :: rest) = p :: acceptedIn rest := rfl
    rw [ih, hcons, View.applied?_of_setPredicate hp, Option.map_map, List.length_cons]
    congr 1
    funext n
    simp only [Function.comp_apply]
    omega
  | refused _ _ ih => exact ih

theorem wellPaired (h : Handovers v xs w) : WellPaired xs := by
  induction h with
  | none => exact wellPaired_of_forall (by simp)
  | accepted _ _ ih => exact wellPaired_append (wellPaired_pair _) ih
  | @refused _ _ p rest _ _ ih =>
    have hone : WellPaired [.before p] := wellPaired_of_forall (by simp)
    exact wellPaired_append hone ih

/-- What was handed over and is not told to be accepted is refused by the table, also in the end. -/
theorem rejects (h : Handovers v xs w) {us vs : List Notice} {p : String}
    (hxs : xs = us ++ .before p :: vs) (hvs : vs.head? ≠ some (.after p)) : w.Rejects p := by
  induction h generalizing us with
  | none => simp at hxs
  | @accepted _ _ _ q rest _ _ ih =>
    match us, hxs with
    | [], hxs =>
      obtain ⟨hq, rfl⟩ := List.cons.inj hxs
      cases hq
      exact absurd rfl hvs
    | [_], hxs =>
      obtain ⟨-, hrest⟩ := List.cons.inj hxs
      cases (List.cons.inj hrest).1
    | _ :: _ :: us, hxs => exact ih (List.cons.inj (List.cons.inj hxs).2).2
  | @refused v w q rest hq hrest ih =>
    match us, hxs with
    | [], hxs =>
      obtain ⟨hqp, rfl⟩ := List.cons.inj hxs
      cases hqp
      exact (hrest.sameTable.rejects_iff p).mpr hq
    | _ :: us, hxs => exact ih (List.cons.inj hxs).2

end Handovers

def Operation.target (v : View) : Operation → View
  | .setView view => view
  | _ => v

theorem Operation.target_of_ne {op : Operation} (h : ∀ view, op ≠ .setView view) (v : View) :
    op.target v = v := by
  cases op with
  | setView view => exact absurd rfl (h view)
  | _ => rfl

namespace FilterBar

variable {bar a b c d : FilterBar} {op : Operation}

def events (bar : FilterBar) : List Notice := bar.trace.filter Notice.isEvent

def labels (bar : FilterBar) : List (String × FilterKind) := bar.bindings.map Binding.label

theorem events_report (bar : FilterBar) (e : FilterError) :
    (bar.report e).filter Notice.isEvent = [] := by
  rw [List.filter_eq_nil_iff]
  intro n hn
  rcases List.mem_append.mp hn with hn | hn
  · obtain ⟨text, -, rfl⟩ := List.mem_map.mp hn
    exact Bool.false_ne_true
  · obtain ⟨text, -, rfl⟩ := List.mem_map.mp hn
    exact Bool.false_ne_true

/-- What listeners hear when a predicate is handed over. -/
theorem events_push (bar : FilterBar) (p : String) :
    ((bar.push p).events = bar.events ++ [.before p, .after p] ∧
      bar.view.setPredicate p = .ok (bar.push p).view) ∨
    ((bar.push p).events = bar.events ++ [.before p] ∧ bar.view.Rejects p ∧
      (bar.push p).view = bar.view) := by
  cases hs : bar.view.setPredicate p with
  | ok view => exact .inl (by simp [push, emit, hs, events, Notice.isEvent])
  | error e =>
    have hrejects : bar.view.Rejects p := fun view hview => by
      rw [hs] at hview
      cases hview
    rw [push_of_refused hs]
    refine .inr ⟨?_, hrejects, rfl⟩
    rw [events, events, List.filter_append, List.filter_cons, events_report]
    rfl

/-- The table takes a predicate over, or refuses it and stays as it is. -/
theorem view_push_cases (bar : FilterBar) (p : String) :
    bar.view.setPredicate p = .ok (bar.push p).view ∨
      bar.view.Rejects p ∧ (bar.push p).view = bar.view := by
  rcases bar.events_push p with ⟨-, hview⟩ | ⟨-, hrejects, hview⟩
  · exact .inl hview
  · exact .inr ⟨hrejects, hview⟩

theorem handovers_push (bar : FilterBar) (p : String) :
    ∃ heard, (bar.push p).events = bar.events ++ heard ∧
      Handovers bar.view heard (bar.push p).view := by
  rcases bar.events_push p with ⟨hevents, hview⟩ | ⟨hevents, hrejects, hview⟩
  · exact ⟨_, hevents, .accepted hview (.none _)⟩
  · exact ⟨_, hevents, .refused hrejects (hview ▸ .none _)⟩

theorem handovers_act (bar : FilterBar) (action : RefreshAction) :
    ∃ heard, (bar.act action).events = bar.events ++ heard ∧
      Handovers bar.view heard (bar.act action).view := by
  by_cases hhands : bar.HandsOver action
  · rw [act_eq_push hhands, events, trace_remember, view_remember]
    exact bar.handovers_push bar.compose
  · obtain ⟨hview, htrace, -⟩ := act_of_not_handsOver hhands
    rw [events, htrace, hview]
    exact ⟨[], (List.append_nil _).symm, .none _⟩

theorem handovers_actAll (bar : FilterBar) (actions : List RefreshAction) :
    ∃ heard, (bar.actAll actions).events = bar.events ++ heard ∧
      Handovers bar.view heard (bar.actAll actions).view := by
  induction actions generalizing bar with
  | nil => exact ⟨[], (List.append_nil _).symm, .none _⟩
  | cons action actions ih =>
    obtain ⟨first, hfirst, hview⟩ := bar.handovers_act action
    obtain ⟨rest, hrest, hviews⟩ := ih (bar.act action)
    refine ⟨first ++ rest, ?_, hview.trans hviews⟩
    rw [← List.append_assoc, ← hfirst]
    exact hrest

theorem labels_of_alike (h : Alike a b) : a.labels = b.labels := by
  rw [labels, labels, h.bindings]

/-- The label of a filter does not depend on its criteria and on the offer of a range. -/
theorem labels_of_keeps (h : KeepsFilters a b) : b.labels = a.labels := by
  have hlabel (bar : FilterBar) : bar.labels =
      (bar.bindings.map (Binding.origin false)).map fun o => (o.1, o.2.kind) := by
    rw [List.map_map]
    refine List.map_congr_left fun b _ => ?_
    exact Prod.ext rfl (Strategy.kind_withRange false b.filter.strategy).symm
  rw [hlabel, hlabel, h.origins]

def rebinding (old new : List (String × FilterKind)) : List Notice :=
  old.map Notice.ofUnbound ++ new.map Notice.ofBound

theorem follow_rebinding (old new : List (String × FilterKind)) :
    (rebinding old new).foldlM follow old = some new := by
  rw [rebinding, List.foldlM_append, follow_ofUnbound]
  exact follow_ofBound [] new

theorem events_unbind (bar : FilterBar) :
    bar.unbind.events = bar.events ++ bar.labels.map Notice.ofUnbound := by
  simp only [events, unbind, emit, labels, List.filter_append, List.map_map]
  congr 1
  rw [List.filter_eq_self.mpr]
  · rfl
  · intro n hn
    obtain ⟨b, -, rfl⟩ := List.mem_map.mp hn
    rfl

theorem events_bind (bar : FilterBar) :
    bar.bind.events = bar.events ++ bar.bind.labels.map Notice.ofBound := by
  simp only [events, bind, emit, labels, List.filter_append, List.map_map]
  congr 1
  rw [List.filter_eq_nil_iff.mpr, List.nil_append, List.filter_eq_self.mpr]
  · rfl
  · intro n hn
    obtain ⟨b, -, rfl⟩ := List.mem_map.mp hn
    rfl
  · intro n hn
    obtain ⟨text, -, rfl⟩ := List.mem_map.mp hn
    exact Bool.false_ne_true

/-- What is remembered of a table gives the new filters their criteria and tells nobody. -/
theorem events_rebound (bar : FilterBar) :
    bar.rebound.events = bar.events ++ rebinding bar.labels bar.rebound.labels := by
  have hreinstate : bar.rebound.events = bar.unbind.bind.events ∧
      bar.rebound.labels = bar.unbind.bind.labels := by
    rw [rebound, reinstate]
    split
    · exact ⟨rfl, labels_of_keeps (keeps_restore _ _)⟩
    · exact ⟨rfl, rfl⟩
  rw [hreinstate.1, hreinstate.2, events_bind, events_unbind, rebinding, List.append_assoc]

/-- What listeners hear of filters when those with the old labels give way to those with the new
ones: nothing if they stay, and otherwise of all of them. -/
def Announces (old : List (String × FilterKind)) (told : List Notice)
    (new : List (String × FilterKind)) : Prop :=
  told = [] ∧ new = old ∨ told = rebinding old new

structure Prepares (v : View) (bar b : FilterBar) : Prop where
  view : b.view = v
  announced : ∃ told, b.events = bar.events ++ told ∧ Announces bar.labels told b.labels

theorem Prepares.of_keeps (hk : KeepsFilters bar b) (hview : b.view = bar.view)
    (htrace : b.trace = bar.trace) : Prepares bar.view bar b := by
  refine ⟨hview, [], ?_, .inl ⟨rfl, labels_of_keeps hk⟩⟩
  rw [events, events, htrace, List.append_nil]

theorem Prepares.of_eq (hview : b.view = bar.view) (htrace : b.trace = bar.trace)
    (hbindings : b.bindings = bar.bindings) : Prepares bar.view bar b := by
  refine ⟨hview, [], ?_, .inl ⟨rfl, ?_⟩⟩
  · rw [events, events, htrace, List.append_nil]
  · rw [labels, labels, hbindings]

/-- The bar was given another table or forgot the last predicate before its filters were bound
anew. -/
theorem prepares_rebound (hbindings : c.bindings = bar.bindings) (htrace : c.trace = bar.trace) :
    Prepares c.view bar c.rebound := by
  refine ⟨c.view_rebound, rebinding bar.labels c.rebound.labels, ?_, .inr rfl⟩
  have hlabels : c.labels = bar.labels := by rw [labels, labels, hbindings]
  rw [events_rebound, hlabels]
  simp only [events, htrace]

theorem prepares_dequeue {column : String} {edits : List Edit} {actions : List RefreshAction}
    (h : (bar.editDirectly column edits).map dequeue = .ok (b, actions)) :
    Prepares bar.view bar b := by
  obtain ⟨edited, hedited, hb⟩ := map_eq_ok.mp h
  have hk := keeps_editDirectly hedited
  obtain ⟨f, -, rfl⟩ := editDirectly_eq_ok hedited
  cases hb
  exact .of_keeps (hk.trans (.of_eq rfl rfl rfl)) rfl rfl

theorem prepares_of_prepare {actions : List RefreshAction}
    (h : bar.prepare op = .ok (b, actions)) : Prepares (op.target bar.view) bar b := by
  cases op with
  | edit column edits => exact prepares_dequeue h
  | commit column => exact prepares_dequeue h
  | leave column => exact prepares_dequeue h
  | editDirectly column edits =>
    obtain ⟨edited, hedited, hb⟩ := map_eq_ok.mp h
    have hk := keeps_editDirectly hedited
    obtain ⟨f, -, rfl⟩ := editDirectly_eq_ok hedited
    cases hb
    exact .of_keeps hk rfl rfl
  | setFilters predicates =>
    cases h
    exact .of_keeps (keeps_restore bar predicates) rfl rfl
  | clearFilters =>
    cases h
    exact .of_keeps bar.keeps_clear rfl rfl
  | rebuild =>
    cases h
    exact prepares_rebound rfl rfl
  | dataSourceChanged =>
    cases h
    exact prepares_rebound (c := { bar with lastApplied := some "" }) rfl rfl
  | setView view =>
    cases h
    exact prepares_rebound (c := { bar with view, lastApplied := some "" }) rfl rfl
  | syncColumns =>
    rw [prepare] at h
    split at h
    case isTrue hstep =>
      cases h
      exact .of_keeps (keeps_rename hstep) rfl rfl
    case isFalse =>
      cases h
      exact prepares_rebound rfl rfl
  | endUpdate =>
    rw [prepare] at h
    split at h <;> cases h <;> exact .of_eq rfl rfl rfl
  | _ =>
    cases h
    exact .of_eq rfl rfl rfl

structure Tells (v : View) (bar b : FilterBar) (announced handed : List Notice) : Prop where
  events : b.events = bar.events ++ (announced ++ handed)
  announces : Announces bar.labels announced b.labels
  handovers : Handovers v handed b.view

theorem tells_of_prepares {v : View} (h : Prepares v bar b) (actions : List RefreshAction) :
    ∃ announced handed, Tells v bar (b.actAll actions) announced handed := by
  obtain ⟨hview, announced, hannounced, hlabels⟩ := h
  obtain ⟨handed, hhanded, hviews⟩ := b.handovers_actAll actions
  refine ⟨announced, handed, ?_, ?_, hview ▸ hviews⟩
  · rw [hhanded, hannounced, List.append_assoc]
  · rw [labels_of_alike (b.alike_actAll actions)]
    exact hlabels

theorem tells_of_perform (h : bar.perform op = .ok b) :
    ∃ announced handed, Tells (op.target bar.view) bar b announced handed := by
  rw [perform_eq_prepare] at h
  obtain ⟨⟨prepared, actions⟩, hprepare, rfl⟩ := map_eq_ok.mp h
  exact tells_of_prepares (prepares_of_prepare hprepare) actions

/-- What every accepted predicate preserves of the table is preserved by operations. -/
theorem view_perform {P : View → Prop} (hP : ∀ v w p, v.setPredicate p = .ok w → P v → P w)
    (h : bar.perform op = .ok b) (hv : P (op.target bar.view)) : P b.view := by
  obtain ⟨announced, handed, ht⟩ := tells_of_perform h
  exact ht.handovers.preserves hP hv

/-- What can happen to a bar: an operation, and any change of its table, its memory and its reports
from outside. -/
inductive Occurs : FilterBar → FilterBar → Prop where
  | perform {bar b : FilterBar} (op : Operation) : bar.perform op = .ok b → Occurs bar b
  | outside (bar : FilterBar) (view : View) (memory : TableMemory) (reporter : Reporter) :
      Occurs bar { bar with view, memory, reporter }

/-- What can happen while one table stays bound and nobody else hands it a predicate. -/
inductive Stays : FilterBar → FilterBar → Prop where
  | perform {bar b : FilterBar} (op : Operation) : (∀ view, op ≠ .setView view) →
      bar.perform op = .ok b → Stays bar b
  | outside (bar : FilterBar) (view : View) (memory : TableMemory) (reporter : Reporter) :
      view.predicate = bar.view.predicate → view.applied? = bar.view.applied? →
      Stays bar { bar with view, memory, reporter }

/-- The predicate was handed over by an operation of the run, at the place where it was heard, and
the table that is bound after that operation refuses it. -/
def RefusedWithin (a b : FilterBar) (earlier : List Notice) (p : String) : Prop :=
  ∃ c d op, Relation.ReflTransGen Occurs a c ∧ c.perform op = .ok d ∧
    Relation.ReflTransGen Occurs d b ∧ c.events <+: a.events ++ earlier ∧
    a.events ++ earlier ++ [.before p] <+: d.events ∧ d.view.Rejects p

structure Hears (a : FilterBar) (heard : List Notice) (b : FilterBar) : Prop where
  events : b.events = a.events ++ heard
  /-- A predicate is accepted right after it was about to be handed over. -/
  paired : WellPaired heard
  /-- A predicate that was about to be handed over and is not accepted was refused. -/
  refused : ∀ earlier p later, heard = earlier ++ .before p :: later →
    later.head? ≠ some (.after p) → RefusedWithin a b earlier p
  /-- A listener who knows the filters at first knows them in the end. -/
  followed : heard.foldlM follow a.labels = some b.labels

/-- The last predicate that was accepted is in force, the first one if there was none, and as many
were accepted as the table has counted. -/
def TellsTable (v : View) (heard : List Notice) (w : View) : Prop :=
  w.predicate = (acceptedIn heard).getLast?.getD v.predicate ∧
    w.applied? = v.applied?.map (· + (acceptedIn heard).length)

theorem Announces.follow {old new : List (String × FilterKind)} {told : List Notice}
    (h : Announces old told new) : told.foldlM TableFilter.follow old = some new := by
  obtain ⟨rfl, rfl⟩ | rfl := h
  · rfl
  · exact follow_rebinding old new

theorem Announces.not_isHandover {old new : List (String × FilterKind)} {told : List Notice}
    (h : Announces old told new) : ∀ n ∈ told, ¬ n.IsHandover := by
  obtain ⟨rfl, -⟩ | rfl := h
  · exact nofun
  · intro n hn
    rcases List.mem_append.mp hn with hn | hn
    all_goals
      obtain ⟨label, -, rfl⟩ := List.mem_map.mp hn
      rintro ⟨p, hp | hp⟩ <;> cases hp

theorem follow_handovers {labels : List (String × FilterKind)} {heard : List Notice}
    (h : ∀ n ∈ heard, n.IsHandover) : heard.foldlM follow labels = some labels := by
  induction heard with
  | nil => rfl
  | cons n heard ih =>
    obtain ⟨⟨p, hp⟩, hrest⟩ := List.forall_mem_cons.mp h
    have hn : follow labels n = some labels := by
      rcases hp with rfl | rfl <;> rfl
    rw [List.foldlM_cons, hn]
    exact ih hrest

namespace Tells

variable {v : View} {announced handed : List Notice}

theorem wellPaired (h : Tells v a b announced handed) : WellPaired (announced ++ handed) := by
  refine wellPaired_append (wellPaired_of_forall fun p hp => ?_) h.handovers.wellPaired
  exact h.announces.not_isHandover _ hp ⟨p, .inr rfl⟩

theorem followed (h : Tells v a b announced handed) :
    (announced ++ handed).foldlM follow a.labels = some b.labels := by
  rw [List.foldlM_append, h.announces.follow]
  exact follow_handovers h.handovers.isHandover

theorem rejects (h : Tells v a b announced handed) {earlier later : List Notice} {p : String}
    (hsplit : announced ++ handed = earlier ++ .before p :: later)
    (hlater : later.head? ≠ some (.after p)) : b.view.Rejects p := by
  rcases List.append_eq_append_iff.mp hsplit with ⟨us, -, hus⟩ | ⟨us, hus, hhanded⟩
  · exact h.handovers.rejects hus hlater
  · cases us with
    | nil =>
      have hnil : handed = [] ++ .before p :: later := hhanded.symm
      exact h.handovers.rejects hnil hlater
    | cons n us =>
      -- A predicate is not among the notices of filters.
      obtain ⟨rfl, -⟩ := List.cons.inj hhanded
      have hmem : .before p ∈ announced := hus ▸ List.mem_append_right _ List.mem_cons_self
      exact absurd ⟨p, .inl rfl⟩ (h.announces.not_isHandover _ hmem)

theorem acceptedIn_eq (h : Tells v a b announced handed) :
    acceptedIn (announced ++ handed) = acceptedIn handed := by
  have hnone : acceptedIn announced = [] := by
    rw [acceptedIn, List.filterMap_eq_nil_iff]
    intro n hn
    cases n with
    | after p => exact absurd ⟨p, .inr rfl⟩ (h.announces.not_isHandover _ hn)
    | _ => rfl
  rw [acceptedIn, List.filterMap_append]
  change acceptedIn announced ++ acceptedIn handed = _
  rw [hnone, List.nil_append]

theorem tellsTable (h : Tells v a b announced handed) :
    TellsTable v (announced ++ handed) b.view := by
  rw [TellsTable, h.acceptedIn_eq]
  exact ⟨h.handovers.predicate_eq, h.handovers.applied?_eq⟩

end Tells

theorem Hears.refl (a : FilterBar) : Hears a [] a where
  events := (List.append_nil _).symm
  paired := wellPaired_of_forall (by simp)
  refused := fun earlier p later h => absurd h (by simp)
  followed := rfl

/-- Another operation in the end. A refused predicate was handed over by it or before it. -/
theorem Hears.perform {heard announced handed : List Notice} (h : Hears a heard b)
    (hr : Relation.ReflTransGen Occurs a b) (hb : b.perform op = .ok c)
    (ht : Tells (op.target b.view) b c announced handed) :
    Hears a (heard ++ (announced ++ handed)) c where
  events := by rw [ht.events, h.events, List.append_assoc]
  paired := wellPaired_append h.paired ht.wellPaired
  refused := by
    intro earlier p later hsplit hlater
    rcases List.append_eq_append_iff.mp hsplit with ⟨us, rfl, hus⟩ | ⟨us, hheard, hus⟩
    · refine ⟨b, c, op, hr, hb, .refl, ⟨us, ?_⟩, ⟨later, ?_⟩, ht.rejects hus hlater⟩
      · rw [h.events, List.append_assoc]
      · simp only [ht.events, h.events, hus, List.append_assoc, List.singleton_append]
    · cases us with
      | nil =>
        rw [List.append_nil] at hheard
        have hall : announced ++ handed = [] ++ .before p :: later := hus.symm
        refine ⟨b, c, op, hr, hb, .refl, ⟨[], ?_⟩, ⟨later, ?_⟩, ht.rejects hall hlater⟩
        · rw [h.events, hheard, List.append_nil]
        · simp only [ht.events, h.events, hheard, hall, List.append_assoc, List.singleton_append,
            List.nil_append]
      | cons n us =>
        obtain ⟨rfl, rfl⟩ := List.cons.inj hus
        have hus : us.head? ≠ some (.after p) := by
          cases us with
          | nil => exact nofun
          | cons n us => exact hlater
        obtain ⟨c', d', op', hfrom, hop, hto, hbefore, hafter, hrejects⟩ :=
          h.refused earlier p us hheard hus
        exact ⟨c', d', op', hfrom, hop, hto.tail (.perform op hb), hbefore, hafter, hrejects⟩
  followed := by
    rw [List.foldlM_append, h.followed]
    exact ht.followed

theorem Hears.outside {heard : List Notice} (h : Hears a heard b) (view : View)
    (memory : TableMemory) (reporter : Reporter) :
    Hears a heard { b with view, memory, reporter } where
  events := h.events
  paired := h.paired
  refused := by
    intro earlier p later hsplit hlater
    obtain ⟨c, d, op, hfrom, hop, hto, hrest⟩ := h.refused earlier p later hsplit hlater
    exact ⟨c, d, op, hfrom, hop, hto.tail (.outside b view memory reporter), hrest⟩
  followed := h.followed

theorem exists_hears (hr : Relation.ReflTransGen Occurs a b) : ∃ heard, Hears a heard b := by
  induction hr with
  | refl => exact ⟨[], .refl a⟩
  | tail hr hs ih =>
    obtain ⟨heard, hheard⟩ := ih
    cases hs with
    | perform op hb =>
      obtain ⟨announced, handed, ht⟩ := tells_of_perform hb
      exact ⟨_, hheard.perform hr hb ht⟩
    | outside view memory reporter => exact ⟨heard, hheard.outside view memory reporter⟩

theorem TellsTable.trans {u v w : View} {xs ys : List Notice} (h : TellsTable u xs v)
    (h' : TellsTable v ys w) : TellsTable u (xs ++ ys) w := by
  have happend : acceptedIn (xs ++ ys) = acceptedIn xs ++ acceptedIn ys := List.filterMap_append
  constructor
  · rw [h'.1, h.1, happend, List.getLast?_append]
    cases (acceptedIn ys).getLast? <;> rfl
  · rw [h'.2, h.2, happend, List.length_append, Option.map_map]
    congr 1
    funext n
    exact Nat.add_assoc n _ _

theorem tellsTable_run (hr : Relation.ReflTransGen Stays a b) :
    ∃ since, b.events = a.events ++ since ∧ TellsTable a.view since b.view := by
  induction hr with
  | refl => exact ⟨[], (List.append_nil _).symm, rfl, by simp [acceptedIn]⟩
  | tail _ hs ih =>
    obtain ⟨since, hevents, htells⟩ := ih
    cases hs with
    | perform op hop hb =>
      obtain ⟨announced, handed, ht⟩ := tells_of_perform hb
      refine ⟨since ++ (announced ++ handed), ?_, htells.trans ?_⟩
      · rw [ht.events, hevents, List.append_assoc]
      · rw [Operation.target_of_ne hop] at ht
        exact ht.tellsTable
    | outside view memory reporter hpredicate happlied =>
      exact ⟨since, hevents, hpredicate.trans htells.1, happlied.trans htells.2⟩

/-- Listeners hear the truth. In every run a predicate is told to be accepted only right after it
was handed over, and otherwise it was refused; whoever keeps a list of the filters by what is told
of them never misses one and has those of the bar in the end. While one table stays bound, since
whatever moment and also since it was put in place, its predicate is the last one that was told to
be accepted, and it has accepted as many as were told. An operation tells of filters before it tells
of predicates, and all filters are given up before new ones are bound. A bar that is given up tells
of all filters that it had. -/
theorem listeners_hear_truth (hr : Relation.ReflTransGen Occurs a b) :
    (∃ heard, Hears a heard b) ∧
    (∀ s : FilterBar, Relation.ReflTransGen Stays s b →
      ∃ since, b.events = s.events ++ since ∧ TellsTable s.view since b.view) ∧
    (∀ (s : FilterBar) (view : View), Relation.ReflTransGen Stays (s.setView view) b →
      ∃ since, b.events = s.events ++ since ∧ TellsTable view since b.view) ∧
    (∀ (c d : FilterBar) (op : Operation), c.perform op = .ok d → ∃ announced handed,
      d.events = c.events ++ (announced ++ handed) ∧ Announces c.labels announced d.labels ∧
        ∀ n ∈ handed, n.IsHandover) ∧
    (∀ c : FilterBar, ∃ handed, c.rebuild.events = c.events ++
        (c.labels.map Notice.ofUnbound ++ c.rebuild.labels.map Notice.ofBound ++ handed) ∧
      ∀ n ∈ handed, n.IsHandover) ∧
    b.release.1 = b.view ∧
    b.release.2.filter Notice.isEvent = b.events ++ b.labels.map Notice.ofUnbound := by
  refine ⟨exists_hears hr, fun s hs => tellsTable_run hs, fun s view hs => ?_,
    fun c d op hd => ?_, fun c => ?_, rfl, b.events_unbind⟩
  · have hfirst : Stays { s with view } (s.setView view) :=
      .perform .dataSourceChanged (by simp) rfl
    exact tellsTable_run (.head hfirst hs)
  · obtain ⟨announced, handed, ht⟩ := tells_of_perform hd
    exact ⟨announced, handed, ht.events, ht.announces, ht.handovers.isHandover⟩
  · obtain ⟨handed, hhanded, hviews⟩ := c.rebound.handovers_actAll [.recompute]
    refine ⟨handed, ?_, hviews.isHandover⟩
    have hlabels : c.rebuild.labels = c.rebound.labels := labels_of_alike (alike_recompute _)
    have hevents : c.rebuild.events = c.rebound.events ++ handed := hhanded
    rw [hevents, hlabels, events_rebound, rebinding, List.append_assoc]

theorem performs_refusedBar : (ofSettings peopleView {}).perform (.setBaseFilter "[nick] = 'ann'") =
    .ok refusedBar := by
  have hperform := perform_of_prepare prepare_people
  rwa [show nickBar.actAll [.recompute] = refusedBar from act_nickBar] at hperform

theorem events_refusedBar : refusedBar.events =
    (ofSettings peopleView {}).events ++ [.before "[nick] = 'ann'"] := by
  have hevents : refusedBar.events = nickBar.events ++ [.before "[nick] = 'ann'"] := by
    rw [events, events, refusedBar, List.filter_append]
    rfl
  rw [hevents, nickBar_eq, ofSettings_people]
  rfl

/-- Of a base filter that names a missing column listeners hear that it is about to be handed over,
and no more. It is refused, and the table keeps its predicate. -/
theorem listeners_hear_truth_nick :
    (ofSettings peopleView {}).perform (.setBaseFilter "[nick] = 'ann'") = .ok refusedBar ∧
      Hears (ofSettings peopleView {}) [.before "[nick] = 'ann'"] refusedBar ∧
      RefusedWithin (ofSettings peopleView {}) refusedBar [] "[nick] = 'ann'" ∧
      TellsTable peopleView [.before "[nick] = 'ann'"] refusedBar.view := by
  have hstays : Stays (ofSettings peopleView {}) refusedBar :=
    .perform (.setBaseFilter "[nick] = 'ann'") nofun performs_refusedBar
  obtain ⟨⟨heard, hheard⟩, hsince, -⟩ :=
    listeners_hear_truth (.single (.perform (.setBaseFilter "[nick] = 'ann'") performs_refusedBar))
  have hevents := events_refusedBar
  rw [hheard.events, List.append_cancel_left_eq] at hevents
  subst hevents
  obtain ⟨since, hsince, htells⟩ := hsince _ (.single hstays)
  rw [events_refusedBar, List.append_cancel_left_eq] at hsince
  subst hsince
  have hview : (ofSettings peopleView {}).view = peopleView := by
    rw [ofSettings_people]
    rfl
  exact ⟨performs_refusedBar, hheard, hheard.refused [] _ [] rfl nofun, hview ▸ htells⟩

end FilterBar
end TableFilter
