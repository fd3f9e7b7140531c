import TableFilter.Comparison
import TableFilter.Text.Lowercase
import TableFilter.Value.Basic

/-!
# Conversion and order of cell values

A value can be converted to another kind when it has a form there; null converts to null. Two
values of one kind are ordered as that kind is, and text is first converted to the kind of the
other value. Null and values of unlike kinds have no order.
-/

namespace TableFilter.Value

def convert : Value → ValueKind → Option Value
  | null, _ => some null
  | v, .text | v, .enumerable => v.shown?.map text
  | number d, .number => some (number d)
  | bool b, .boolean => some (bool b)
  | date d, .date => some (date d)
  | text s, .number => (Decimal.read? s).map number
  | text s, .boolean => (readBool? s).map bool
  | text s, .date => (Date.read? [] s).map date
  | bool b, .number => some (number (if b then .one else .zero))
  | _, _ => none

def orderText (caseSensitive : Bool) (s t : String) : Ordering :=
  if caseSensitive then Ord.compare s t else Ord.compare (Text.lower s) (Text.lower t)

/-- The order of two values of one kind. -/
def orderAlike (caseSensitive : Bool) : Value → Value → Option Ordering
  | number a, number b => some (a.order b)
  | date a, date b => some (a.order b)
  | bool a, bool b => some (Ord.compare a b)
  | text a, text b => some (orderText caseSensitive a b)
  | _, _ => none

/-- The value as it is compared with `other`: text takes on the other kind. -/
def towards (v other : Value) : Option Value :=
  match v, other.kind? with
  | text _, some kind => v.convert kind
  | _, _ => some v

/-- The order of two values, if they have one. -/
def order (caseSensitive : Bool) (a b : Value) : Option Ordering := do
  orderAlike caseSensitive (← a.towards b) (← b.towards a)

end TableFilter.Value
