import TableFilter.Filter.Widget
import TableFilter.Vocabulary

/-!
# When edits take effect

A refresh mode says which events of the inputs lead to a new predicate. A change recomputes the
predicate and hands it to the table if it is a new one; the enter key and losing the focus hand it
over in any case.
-/

namespace TableFilter

inductive RefreshMode where
  | onInput | onEnter | onLeave | onEnterOrLeave | off
  deriving DecidableEq, Repr

inductive RefreshAction where
  | ignore | recompute | force
  deriving DecidableEq, Repr

namespace RefreshMode

def spelling : RefreshMode → String
  | onInput => "on_input"
  | onEnter => "on_enter"
  | onLeave => "on_leave"
  | onEnterOrLeave => "on_enter_or_leave"
  | off => "off"

instance : Vocabulary RefreshMode where
  members := [onInput, onEnter, onLeave, onEnterOrLeave, off]
  spelling := spelling
  anyCase := true

def decide : RefreshMode → WidgetEventKind → RefreshAction
  | onInput, .changed => .recompute
  | onEnter, .committed | onEnterOrLeave, .committed => .force
  | onLeave, .left | onEnterOrLeave, .left => .force
  | _, _ => .ignore

end RefreshMode
end TableFilter
