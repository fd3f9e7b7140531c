import TableFilter.Filter.Input

/-!
# Inputs with listeners

A widget is an input that tells a listener about changes, about the enter key and about losing the
focus. The listener is known by the position of its column. A widget that was disposed of keeps its
input for good and has no listener.
-/

namespace TableFilter

inductive WidgetEventKind where
  | changed | committed | left
  deriving DecidableEq, Repr

structure WidgetEvent where
  kind : WidgetEventKind
  column : Nat
  deriving DecidableEq, Repr

structure Widget where
  input : Input
  listener : Option Nat := none
  disposed : Bool := false
  deriving DecidableEq, Repr

namespace Widget

/-- What the listener, if there is one, is told. -/
def tell (w : Widget) (kind : WidgetEventKind) : List WidgetEvent :=
  w.listener.toList.map fun column => ⟨kind, column⟩

/-- Whether putting an input in changes anything. -/
def accepts (w : Widget) (input : Input) : Bool := !w.disposed && w.input != input

def put (w : Widget) (input : Input) : Widget := if w.accepts input then { w with input } else w

/-- What the listener is told when an input is put in. -/
def tellPut (w : Widget) (input : Input) : List WidgetEvent :=
  if w.accepts input then w.tell .changed else []

def subscribe (w : Widget) (column : Nat) : Widget :=
  if w.disposed then w else { w with listener := some column }

def unsubscribe (w : Widget) : Widget := { w with listener := none }

def dispose (w : Widget) : Widget := { w with listener := none, disposed := true }

theorem input_put (w : Widget) (input : Input) (h : w.disposed = false) :
    (w.put input).input = input := by
  unfold put accepts
  by_cases he : w.input = input <;> simp [h, he]

theorem disposed_put (w : Widget) (input : Input) : (w.put input).disposed = w.disposed := by
  unfold put; split <;> rfl

theorem listener_put (w : Widget) (input : Input) : (w.put input).listener = w.listener := by
  unfold put; split <;> rfl

end Widget
end TableFilter
