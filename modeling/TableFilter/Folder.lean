/-!
# Places of files

Names of files joined to folders, and names that stand below the home folder.
-/

namespace TableFilter.Folder

/-- The place of a file in a folder. No folder at all is the one the program runs in. -/
def child (folder name : String) : String :=
  if folder.isEmpty || folder.endsWith "/" then folder ++ name else folder ++ "/" ++ name

/-- The names on the way to a place, without those that lead nowhere. -/
def parts (place : String) : List String :=
  (place.splitOn "/").foldl (fun names name =>
    if name = "" || name = "." then names
    else if name = ".." then names.dropLast
    else names ++ [name]) []

/-- The folder of a file, none if the file is named alone. -/
def parent? (place : String) : Option String :=
  match place.toList.reverse.dropWhile (· ≠ '/') with
  | [] => none
  | _ :: folder => some (if folder.isEmpty then "/" else String.ofList folder.reverse)

/-- Puts the home folder instead of a tilde at the start. -/
def expandTilde (home place : String) : String :=
  match place.toList with
  | '~' :: rest => home ++ String.ofList rest
  | _ => place

/-- Puts the home folder instead of a first part that is a tilde. -/
def belowHome (home place : String) : String :=
  match place.toList with
  | ['~'] | '~' :: '/' :: _ => expandTilde home place
  | _ => place

end TableFilter.Folder
