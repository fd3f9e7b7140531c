import TableFilter.FilterBar.Operation
import TableFilter.Proofs.Filter.OperandForms

/-!
# The operator is one of those offered

A filter of numbers or dates keeps its operator as a text next to the operands. The range is turned
down in three places: when an operator is put in, when ranges are no longer offered, and when a
predicate is given that asks for a range. Each of them leaves an operator that is offered, so the
filter holds such an operator after any of its edits. The operands change where an edit names them,
gives them up or restores them from a predicate of a form of the filter, and nowhere else.
-/

namespace TableFilter

open Form

namespace Strategy

def Offers (input : Input) : Strategy → Prop
  | numeric between => NumericFilter.operator input ∈ NumericOperator.offered between
  | date between _ => DateFilter.operator? input ∈ DateOperator.offered between
  | _ => False

/-- The predicate has a form of the strategy and asks for the input, which is a range only if ranges
are offered. -/
def Asks (s : String) (input : Input) : Strategy → Prop
  | numeric between => ∃ op first second, NumericFilter.Asks s op first second ∧
      (op = .between → between) ∧ input = .operands op.label first second
  | date between _ => ∃ op first second, DateFilter.Asks s op first second ∧
      (op = .between → between) ∧ input = .operands op.label first second
  | _ => False

def TurnsDown (s : String) : Strategy → Prop
  | numeric between => between = false ∧ ∃ low high, IsRange IsNumber s low high
  | date between _ => between = false ∧ ∃ low high, IsRange IsDateLiteral s low high
  | _ => False

def HasOperands (strategy : Strategy) : Prop := strategy.kind = .numeric ∨ strategy.kind = .date

variable {strategy : Strategy} {s : String} {input : Input}

theorem hasOperands_of_offers (h : strategy.Offers input) : strategy.HasOperands := by
  cases strategy with
  | numeric between => exact .inl rfl
  | date between formats => exact .inr rfl
  | _ => exact absurd h id

theorem restore?_eq_some_iff_asks (h : strategy.HasOperands) :
    strategy.restore? s = some input ↔ strategy.Asks s input := by
  cases strategy with
  | numeric between => exact NumericFilter.restore?_eq_some_iff
  | date between formats => exact DateFilter.restore?_eq_some_iff
  | _ => rcases h with h | h <;> cases h

theorem offers_numeric {between : Bool} (op : NumericOperator) (h : op = .between → between)
    (first second : String) : (numeric between).Offers (.operands op.label first second) := by
  rw [Offers, NumericFilter.operator, NumericFilter.ofLabel_label]
  exact NumericOperator.mem_offered_iff.mpr h

theorem offers_date {between : Bool} (formats : List String) (op : Option DateOperator)
    (h : op = some .between → between) (first second : String) :
    (date between formats).Offers (.operands (DateOperator.labelOf? op) first second) := by
  have hop : DateOperator.ofLabel? (DateOperator.labelOf? op) = op := by
    cases op with
    | none => rfl
    | some op => exact DateFilter.ofLabel?_labelOf? op
  rw [Offers, DateFilter.operator?, hop]
  exact DateOperator.mem_offered_iff.mpr h

/-- Whatever operator is put in, one is taken that is offered. -/
theorem offers_numeric_ofParts (between : Bool) (op : NumericOperator) (first second : String) :
    (numeric between).Offers (NumericFilter.ofParts between op first second) := by
  refine offers_numeric _ (fun hop => ?_) first second
  split at hop
  case isTrue => cases hop
  case isFalse h => simpa [hop] using h

theorem offers_date_ofParts (between : Bool) (formats : List String) (op : Option DateOperator)
    (first second : String) :
    (date between formats).Offers (DateFilter.ofParts between op first second) := by
  refine offers_date formats _ (fun hop => ?_) first second
  split at hop
  case isTrue => cases hop
  case isFalse h => simpa [hop] using h

theorem cleared?_eq_operands (h : strategy.HasOperands) :
    strategy.cleared? = some strategy.initial ∧
      ∃ label, strategy.initial = .operands label "" "" := by
  cases strategy with
  | numeric between => exact ⟨rfl, _, rfl⟩
  | date between formats => exact ⟨rfl, _, rfl⟩
  | _ => rcases h with h | h <;> cases h

theorem offers_initial (h : strategy.HasOperands) : strategy.Offers strategy.initial := by
  cases strategy with
  | numeric between => exact offers_numeric (.compare .eq) nofun "" ""
  | date between formats => exact offers_date formats none nofun "" ""
  | _ => rcases h with h | h <;> cases h

theorem offers_of_asks (h : strategy.Asks s input) : strategy.Offers input := by
  cases strategy with
  | numeric between =>
    obtain ⟨op, first, second, -, hb, rfl⟩ := h
    exact offers_numeric op hb first second
  | date between formats =>
    obtain ⟨op, first, second, -, hb, rfl⟩ := h
    exact offers_date formats (some op) (fun hop => hb (Option.some.inj hop)) first second
  | _ => exact h

theorem restore?_eq_none_of_turnsDown (h : strategy.TurnsDown s) : strategy.restore? s = none := by
  cases strategy with
  | numeric between =>
    obtain ⟨rfl, low, high, h⟩ := h
    exact NumericFilter.restore?_eq_none_of_isRange h
  | date between formats =>
    obtain ⟨rfl, low, high, h⟩ := h
    exact DateFilter.restore?_eq_none_of_isRange h
  | _ => exact absurd h id

end Strategy

/-- Whether filters of the kind have the edit. What is put into an input past its filter is none of
them, and neither is giving the input up. -/
def Edit.isFor (kind : FilterKind) : Edit → Bool
  | .setNumeric .. => kind == .numeric
  | .setDate .. => kind == .date
  | .offerRange _ | .setFilter _ | .clear | .commit | .leave | .subscribe _ | .unsubscribe => true
  | _ => false

namespace Filter

variable {f g : Filter} {e : Edit} {input : Input} {events : List WidgetEvent}

def operands (f : Filter) : String × String :=
  match f.input with
  | .operands _ first second => (first, second)
  | _ => ("", "")

structure HoldsOffered (f : Filter) : Prop where
  inUse : f.widget.disposed = false
  offers : f.strategy.Offers f.input

/-- The operands after an edit. It leaves those that it does not name. Clearing empties both, and a
predicate brings in the ones that it asks for or changes nothing and is not heard of. -/
def SetsOperands (f : Filter) (e : Edit) (g : Filter) (events : List WidgetEvent) : Prop :=
  match e with
  | .setNumeric _ first second | .setDate _ first second =>
    g.operands = (first.getD f.operands.1, second.getD f.operands.2)
  | .clear => g.operands = ("", "")
  | .setFilter s => (∃ input, f.strategy.Asks s input ∧ g.input = input) ∨
      (¬ ∃ input, f.strategy.Asks s input) ∧ g = f ∧ events = []
  | _ => g.operands = f.operands

structure Step (f : Filter) (e : Edit) (g : Filter) (events : List WidgetEvent) : Prop where
  kind : g.strategy.kind = f.strategy.kind
  holdsOffered : g.HoldsOffered
  setsOperands : f.SetsOperands e g events

theorem numeric_operands (f : Filter) :
    f.operands = (NumericFilter.first f.input, NumericFilter.second f.input) := by
  unfold operands
  cases f.input <;> rfl

theorem date_operands (f : Filter) :
    f.operands = (DateFilter.first f.input, DateFilter.second f.input) := f.numeric_operands

theorem operands_put {label first second : String} (h : f.widget.disposed = false)
    (hinput : input = .operands label first second) :
    (f.put input).1.operands = (first, second) := by
  rw [operands, input_put h, hinput]

theorem holdsOffered_put (h : f.widget.disposed = false) (hinput : f.strategy.Offers input) :
    (f.put input).1.HoldsOffered :=
  ⟨(f.widget.disposed_put input).trans h, (input_put h input).symm ▸ hinput⟩

/-- An input that is offered is put in. -/
theorem step_put (h : f.widget.disposed = false) (hinput : f.strategy.Offers input)
    (hoperands : f.SetsOperands e (f.put input).1 (f.put input).2) :
    f.Step e (f.put input).1 (f.put input).2 :=
  ⟨rfl, holdsOffered_put h hinput, hoperands⟩

theorem step_setFilter (hf : f.HoldsOffered) (s : String) :
    f.Step (.setFilter s) (f.setFilter s).1 (f.setFilter s).2 := by
  have hoperands := Strategy.hasOperands_of_offers hf.offers
  cases hs : f.strategy.restore? s with
  | none =>
    have hnone : ¬ ∃ input, f.strategy.Asks s input := by
      rintro ⟨input, h⟩
      rw [(Strategy.restore?_eq_some_iff_asks hoperands).mpr h] at hs
      cases hs
    rw [setFilter_of_unrecognised hs]
    exact ⟨rfl, hf, .inr ⟨hnone, rfl, rfl⟩⟩
  | some input =>
    have hasks := (Strategy.restore?_eq_some_iff_asks hoperands).mp hs
    rw [setFilter, hs]
    exact step_put hf.inUse (Strategy.offers_of_asks hasks)
      (.inl ⟨input, hasks, input_put hf.inUse input⟩)

theorem step_clear (hf : f.HoldsOffered) : f.Step .clear f.clear.1 f.clear.2 := by
  have hoperands := Strategy.hasOperands_of_offers hf.offers
  obtain ⟨hcleared, label, hinitial⟩ := Strategy.cleared?_eq_operands hoperands
  rw [clear, hcleared]
  exact step_put hf.inUse (Strategy.offers_initial hoperands) (operands_put hf.inUse hinitial)

/-- A range that is not offered any more is given up, and its bounds are kept. -/
theorem exists_step_offerRange (hf : f.HoldsOffered) (between : Bool) : ∃ g events,
    f.edit? (.offerRange between) = some (g, events) ∧ f.Step (.offerRange between) g events := by
  obtain ⟨strategy, widget⟩ := f
  cases strategy with
  | numeric offered =>
    let f' : Filter := ⟨.numeric between, widget⟩
    by_cases hop : between = false ∧ NumericFilter.operator f'.input = .between
    · refine ⟨_, _, if_pos hop, rfl, holdsOffered_put hf.inUse ?_, ?_⟩
      · exact Strategy.offers_numeric_ofParts ..
      · exact (operands_put hf.inUse rfl).trans (numeric_operands _).symm
    · -- The operator is no range, or ranges are offered now, whatever was offered before.
      refine ⟨_, _, if_neg hop, rfl, ⟨hf.inUse, ?_⟩, rfl⟩
      exact NumericOperator.mem_offered_iff.mpr fun h =>
        Bool.eq_true_of_not_eq_false fun hb => hop ⟨hb, h⟩
  | date offered formats =>
    let f' : Filter := ⟨.date between formats, widget⟩
    by_cases hop : between = false ∧ DateFilter.operator? f'.input = some .between
    · refine ⟨_, _, if_pos hop, rfl, holdsOffered_put hf.inUse ?_, ?_⟩
      · exact Strategy.offers_date_ofParts ..
      · exact (operands_put hf.inUse rfl).trans (date_operands _).symm
    · refine ⟨_, _, if_neg hop, rfl, ⟨hf.inUse, ?_⟩, rfl⟩
      exact DateOperator.mem_offered_iff.mpr fun h =>
        Bool.eq_true_of_not_eq_false fun hb => hop ⟨hb, h⟩
  | _ => exact absurd hf.offers id

theorem edit?_setNumeric {between : Bool} (h : f.strategy = .numeric between)
    (op : Option NumericOperator) (first second : Option String) :
    f.edit? (.setNumeric op first second) = some (f.put (NumericFilter.ofParts between
      (op.getD (NumericFilter.operator f.input)) (first.getD (NumericFilter.first f.input))
      (second.getD (NumericFilter.second f.input)))) := by
  change (f.edited? _).map f.put = _
  simp only [edited?, h, Option.map_some]

theorem edit?_setDate {between : Bool} {formats : List String}
    (h : f.strategy = .date between formats) (op : Option (Option DateOperator))
    (first second : Option String) :
    f.edit? (.setDate op first second) = some (f.put (DateFilter.ofParts between
      (op.getD (DateFilter.operator? f.input)) (first.getD (DateFilter.first f.input))
      (second.getD (DateFilter.second f.input)))) := by
  change (f.edited? _).map f.put = _
  simp only [edited?, h, Option.map_some]

/-- An edit of a filter with operands is never refused, and leaves an operator that is offered. -/
theorem exists_step (hf : f.HoldsOffered) (he : e.isFor f.strategy.kind) :
    ∃ g events, f.edit? e = some (g, events) ∧ f.Step e g events := by
  cases e with
  | setFilter s => exact ⟨_, _, rfl, step_setFilter hf s⟩
  | clear => exact ⟨_, _, rfl, step_clear hf⟩
  | offerRange between => exact exists_step_offerRange hf between
  | commit => exact ⟨_, _, rfl, rfl, hf, rfl⟩
  | leave => exact ⟨_, _, rfl, rfl, hf, rfl⟩
  | unsubscribe => exact ⟨_, _, rfl, rfl, ⟨hf.inUse, hf.offers⟩, rfl⟩
  | subscribe column =>
    have hwidget : f.widget.subscribe column = { f.widget with listener := some column } :=
      if_neg (by simp [hf.inUse])
    refine ⟨_, _, rfl, rfl, ?_, ?_⟩
    · rw [hwidget]
      exact ⟨hf.inUse, hf.offers⟩
    · rw [hwidget]
      rfl
  | setNumeric op first second =>
    cases hs : f.strategy with
    | numeric between =>
      refine ⟨_, _, edit?_setNumeric hs op first second, step_put hf.inUse ?_ ?_⟩
      · rw [hs]
        exact Strategy.offers_numeric_ofParts ..
      · rw [SetsOperands, f.numeric_operands]
        exact operands_put hf.inUse rfl
    | _ =>
      rw [hs] at he
      cases he
  | setDate op first second =>
    cases hs : f.strategy with
    | date between formats =>
      refine ⟨_, _, edit?_setDate hs op first second, step_put hf.inUse ?_ ?_⟩
      · rw [hs]
        exact Strategy.offers_date_ofParts ..
      · rw [SetsOperands, f.date_operands]
        exact operands_put hf.inUse rfl
    | _ =>
      rw [hs] at he
      cases he
  | _ => cases he

/-- However often ranges are offered and taken away between the edits, the operator is offered. -/
theorem holdsOffered_editAll {edits : List Edit} (hf : f.HoldsOffered)
    (hedits : ∀ e ∈ edits, e.isFor f.strategy.kind) :
    (f.editAll edits).1.HoldsOffered ∧
      (f.editAll edits).1.strategy.kind = f.strategy.kind := by
  induction edits generalizing f with
  | nil => exact ⟨hf, rfl⟩
  | cons e edits ih =>
    obtain ⟨he, hrest⟩ := List.forall_mem_cons.mp hedits
    obtain ⟨g, events, hedit, hstep⟩ := exists_step hf he
    have hrun : (f.editAll (e :: edits)).1 = (g.editAll edits).1 := by
      simp only [editAll, hedit, Option.getD_some]
    obtain ⟨hoffered, hkind⟩ := ih hstep.holdsOffered (hstep.kind ▸ hrest)
    rw [hrun]
    exact ⟨hoffered, hkind.trans hstep.kind⟩

/-- A new filter of numbers or dates is edited in any way. Then its operator is one that it offers,
and so it is after one more edit, which is not refused. That edit sets the operands that it names,
empties them if it clears the filter, or puts in what a predicate of a form of the filter asks for,
and leaves them alone otherwise. A predicate that asks for nothing changes nothing, and no event is
sent; nor does a range change anything while ranges are not offered. -/
theorem operator_is_always_offered {edits : List Edit} (hkind : f.strategy.HasOperands)
    (hinput : f.input = f.strategy.initial) (hinUse : f.widget.disposed = false)
    (hedits : ∀ e ∈ edits, e.isFor f.strategy.kind) :
    (f.editAll edits).1.strategy.Offers (f.editAll edits).1.input ∧
    (∀ e, e.isFor f.strategy.kind → ∃ g events, (f.editAll edits).1.edit? e = some (g, events) ∧
      g.strategy.Offers g.input ∧ (f.editAll edits).1.SetsOperands e g events) ∧
    ∀ s, (f.editAll edits).1.strategy.TurnsDown s →
      (f.editAll edits).1.setFilter s = ((f.editAll edits).1, []) := by
  have hnew : f.HoldsOffered := ⟨hinUse, hinput ▸ Strategy.offers_initial hkind⟩
  obtain ⟨hoffered, hsame⟩ := holdsOffered_editAll hnew hedits
  refine ⟨hoffered.offers, fun e he => ?_, fun s hs => ?_⟩
  · obtain ⟨g, events, hedit, hstep⟩ := exists_step hoffered (hsame ▸ he)
    exact ⟨g, events, hedit, hstep.holdsOffered.offers, hstep.setsOperands⟩
  · exact setFilter_of_unrecognised (Strategy.restore?_eq_none_of_turnsDown hs)

/-- A range is chosen and then not offered any more: the bounds stay, and the range is not taken
back from a predicate. -/
theorem operator_is_always_offered_range :
    let f : Filter := ⟨.numeric true, { input := NumericFilter.cleared, listener := some 0 }⟩
    let g : Filter := ⟨.numeric false, { input := .operands "=" "1" "5", listener := some 0 }⟩
    (f.editAll [.setNumeric (some .between) (some "1") (some "5"), .offerRange false]).1 = g ∧
      g.strategy.Offers g.input ∧ g.setFilter "[c] >= 1 AND [c] <= 5" = (g, []) ∧
      ∃ h events, g.edit? (.setNumeric none none (some "7")) = some (h, events) ∧
        h.operands = ("1", "7") := by
  intro f g
  let edits : List Edit :=
    [.setNumeric (some .between) (some "1") (some "5"), .offerRange false]
  have hrun : (f.editAll edits).1 = g := by decide
  have h := @operator_is_always_offered f edits (.inl rfl) rfl rfl (by decide)
  rw [hrun] at h
  obtain ⟨hoffers, hedit, hrange⟩ := h
  obtain ⟨h, events, hh, -, hoperands⟩ := hedit (.setNumeric none none (some "7")) rfl
  exact ⟨hrun, hoffers,
    hrange _ ⟨rfl, _, _, (range?_eq_some_iff readsLiterals_number).mp rfl⟩, h, events, hh,
    hoperands⟩

end Filter
end TableFilter
