import TableFilter.FilterBar.Operation

/-!
# Changed criteria are told

An input with a listener tells it about every change, and one that was disposed of does not change
any more. So an edit of the criteria of a filter either sends an event of a change or leaves the
predicate of the filter as it was, and it never touches the listener. Offering a range and taking it
away alone changes no predicate.
-/

namespace TableFilter

/-- Whether the edit is one of the criteria, or a key or loss of the focus, and so leaves the
listener of the input alone. -/
def Edit.isCriteria : Edit → Bool
  | .subscribe _ | .unsubscribe | .dispose => false
  | _ => true

structure Widget.IsLive (w : Widget) : Prop where
  listener : w.listener.isSome
  disposed : w.disposed = false

/-- Somebody hears of every change of the input, or it cannot be changed. -/
def Widget.IsHeard (w : Widget) : Prop := w.disposed = false → w.listener.isSome

theorem Widget.IsLive.isHeard {w : Widget} (h : w.IsLive) : w.IsHeard := fun _ => h.listener

namespace Filter

variable {f g : Filter}

structure SameCriteria (f g : Filter) : Prop where
  isActive : g.isActive = f.isActive
  fragment : ∀ ref, g.fragment ref = f.fragment ref

theorem SameCriteria.refl (f : Filter) : SameCriteria f f := ⟨rfl, fun _ => rfl⟩

theorem SameCriteria.trans {h : Filter} (hfg : SameCriteria f g) (hgh : SameCriteria g h) :
    SameCriteria f h :=
  ⟨hgh.isActive.trans hfg.isActive, fun ref => (hgh.fragment ref).trans (hfg.fragment ref)⟩

/-- An edit of the first filter leads to the second and to the events, which tell of every change of
the predicate. -/
structure Told (f g : Filter) (events : List WidgetEvent) : Prop where
  listener : g.widget.listener = f.widget.listener
  disposed : g.widget.disposed = f.widget.disposed
  told : SameCriteria f g ∨ ∃ e ∈ events, e.kind = .changed

namespace Told

variable {events more : List WidgetEvent}

theorem of_same (hs : SameCriteria f g) (hw : g.widget = f.widget) (events : List WidgetEvent) :
    Told f g events :=
  ⟨by rw [hw], by rw [hw], .inl hs⟩

theorem isLive (h : Told f g events) (hf : f.widget.IsLive) : g.widget.IsLive :=
  ⟨h.listener ▸ hf.listener, h.disposed ▸ hf.disposed⟩

theorem isHeard (h : Told f g events) (hf : f.widget.IsHeard) : g.widget.IsHeard := by
  rw [Widget.IsHeard, h.listener, h.disposed]
  exact hf

theorem trans {h : Filter} (hfg : Told f g events) (hgh : Told g h more) :
    Told f h (events ++ more) := by
  refine ⟨hgh.listener.trans hfg.listener, hgh.disposed.trans hfg.disposed, ?_⟩
  rcases hfg.told with hs | ⟨e, he, hk⟩
  · rcases hgh.told with hs' | ⟨e, he, hk⟩
    · exact .inl (hs.trans hs')
    · exact .inr ⟨e, List.mem_append_right _ he, hk⟩
  · exact .inr ⟨e, List.mem_append_left _ he, hk⟩

end Told

theorem told_put (hf : f.widget.IsHeard) (input : Input) :
    Told f (f.put input).1 (f.put input).2 := by
  refine ⟨f.widget.listener_put input, f.widget.disposed_put input, ?_⟩
  by_cases h : f.widget.accepts input
  · have hdisposed : f.widget.disposed = false := by
      rw [Widget.accepts, Bool.and_eq_true, Bool.not_eq_true'] at h
      exact h.1
    obtain ⟨column, hcolumn⟩ := Option.isSome_iff_exists.mp (hf hdisposed)
    refine .inr ⟨⟨.changed, column⟩, ?_, rfl⟩
    simp only [put, Widget.tellPut, if_pos h, Widget.tell, hcolumn]
    exact List.mem_singleton_self _
  · have hw : f.widget.put input = f.widget := if_neg h
    have hp : (f.put input).1 = f := by
      simp only [put, hw]
    rw [hp]
    exact .inl (.refl f)

theorem told_putSome (hf : f.widget.IsHeard) (input : Option Input) :
    Told f (f.putSome input).1 (f.putSome input).2 := by
  cases input with
  | none => exact .of_same (.refl f) rfl _
  | some input => exact told_put hf input

theorem told_setFilter (hf : f.widget.IsHeard) (predicate : String) :
    Told f (f.setFilter predicate).1 (f.setFilter predicate).2 :=
  told_putSome hf _

theorem told_clear (hf : f.widget.IsHeard) : Told f f.clear.1 f.clear.2 := told_putSome hf _

/-- The range is taken away from a filter that may have it chosen. The filter with the new strategy
writes the same, and only giving the range up changes the input. -/
theorem told_giveUp (hf : f.widget.IsHeard) (hs : SameCriteria f g) (hw : g.widget = f.widget)
    {chosen : Prop} [Decidable chosen] {input : Input} {r : Filter × List WidgetEvent}
    (h : (if chosen then some (g.put input) else some (g, [])) = some r) : Told f r.1 r.2 := by
  have hg : g.widget.IsHeard := hw ▸ hf
  split at h
  · rw [← Option.some.inj h]
    exact (Told.of_same hs hw []).trans (told_put hg input)
  · rw [← Option.some.inj h]
    exact .of_same hs hw []

theorem sameCriteria_numeric {offered : Bool} (h : f.strategy = .numeric offered) (between : Bool) :
    SameCriteria f { f with strategy := .numeric between } := by
  refine ⟨?_, fun ref => ?_⟩
  · rw [isActive, isActive, h]
    rfl
  · rw [fragment, fragment, h]
    rfl

theorem sameCriteria_date {offered : Bool} {formats : List String}
    (h : f.strategy = .date offered formats) (between : Bool) :
    SameCriteria f { f with strategy := .date between formats } := by
  refine ⟨?_, fun ref => ?_⟩
  · rw [isActive, isActive, h]
    rfl
  · rw [fragment, fragment, h]
    rfl

theorem told_offerRange (hf : f.widget.IsHeard) {between : Bool} {r : Filter × List WidgetEvent}
    (h : f.offerRange? between = some r) : Told f r.1 r.2 := by
  unfold offerRange? at h
  split at h
  case h_1 offered hstrategy => exact told_giveUp hf (sameCriteria_numeric hstrategy between) rfl h
  case h_2 offered formats hstrategy =>
    exact told_giveUp hf (sameCriteria_date hstrategy between) rfl h
  case h_3 => cases h

theorem told_edit (hf : f.widget.IsHeard) {e : Edit} (he : e.isCriteria)
    {r : Filter × List WidgetEvent} (h : f.edit? e = some r) : Told f r.1 r.2 := by
  cases e with
  | subscribe | unsubscribe | dispose => cases he
  | setFilter predicate =>
    rw [← Option.some.inj h]
    exact told_setFilter hf predicate
  | clear =>
    rw [← Option.some.inj h]
    exact told_clear hf
  | put input =>
    rw [← Option.some.inj h]
    exact told_put hf input
  | commit | leave =>
    rw [← Option.some.inj h]
    exact .of_same (.refl f) rfl _
  | offerRange between => exact told_offerRange hf h
  | _ =>
    obtain ⟨input, -, rfl⟩ := Option.map_eq_some_iff.mp h
    exact told_put hf input

/-- The same of several edits, of which those that belong to another kind of filter are left out. -/
theorem told_editAll (hf : f.widget.IsHeard) {edits : List Edit} (he : edits.all Edit.isCriteria) :
    Told f (f.editAll edits).1 (f.editAll edits).2 := by
  induction edits generalizing f with
  | nil => exact .of_same (.refl f) rfl _
  | cons e es ih =>
    rw [List.all_cons, Bool.and_eq_true] at he
    have hfirst : Told f ((f.edit? e).getD (f, [])).1 ((f.edit? e).getD (f, [])).2 := by
      cases h : f.edit? e with
      | none => exact .of_same (.refl f) rfl _
      | some r => exact told_edit hf he.1 h
    exact hfirst.trans (ih (hfirst.isHeard hf) he.2)

end Filter
end TableFilter
