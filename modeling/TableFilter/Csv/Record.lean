import TableFilter.Text.Blank

/-!
# Records of separated values

A text of separated values has a record on each line and commas between the fields of a record. A
field that begins with a quote goes on to the quote that is not doubled and may hold commas and
line feeds. A carriage return at the end of a line does not count.
-/

namespace TableFilter.Csv

structure Field where
  text : String
  quoted : Bool := false
  deriving DecidableEq, Repr

/-- A field without quotes that holds nothing. -/
def Field.isMissing (f : Field) : Bool := f.text == "" && !f.quoted

inductive Place where
  /-- Before the first character of a field. -/
  | start
  | plain
  | quoted
  /-- After a quote in a quoted field. -/
  | quote
  deriving DecidableEq

def isQuoted : Place → Bool
  | .quoted | .quote => true
  | _ => false

/-- The field whose characters were collected last character first, without a carriage return. -/
def collected (place : Place) (cs : List Char) : Field :=
  match place, cs with
  | .quoted, _ => ⟨String.ofList cs.reverse, true⟩
  | _, '\r' :: rest => ⟨String.ofList rest.reverse, isQuoted place⟩
  | _, _ => ⟨String.ofList cs.reverse, isQuoted place⟩

/-- Reads records. The characters of the field that has been begun are in `field`, the last one
first, and the fields before it in `fields`, the last one first. -/
def split (place : Place) (field : List Char) (fields : List Field) : List Char → List (List Field)
  | [] =>
    if place = .start ∧ fields = [] then [] else [(collected place field :: fields).reverse]
  | c :: rest =>
    match place with
    | .quoted =>
      if c = '"' then split .quote field fields rest else split .quoted (c :: field) fields rest
    | _ =>
      if c = ',' then split .start [] (collected place field :: fields) rest
      else if c = '\n' then
        (collected place field :: fields).reverse :: split .start [] [] rest
      else if c = '"' then
        match place with
        | .start => split .quoted [] fields rest
        | .quote => split .quoted (c :: field) fields rest
        | _ => split .plain (c :: field) fields rest
      else split (if place = .start then .plain else place) (c :: field) fields rest

def records (s : String) : List (List Field) :=
  match s.toList with
  | '\ufeff' :: cs => split .start [] [] cs
  | cs => split .start [] [] cs

end TableFilter.Csv
