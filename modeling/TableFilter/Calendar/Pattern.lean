import TableFilter.Calendar.Findings
import TableFilter.Text.Blank
import TableFilter.Text.Digits

/-!
# Date patterns

A pattern such as `%d.%m.%Y` is a list of parts. A directive after a percent sign stands for a
field or for a group of fields, a blank character for any run of blank characters, and every other
character for itself. A text is read part by part from the left and has to be used up. Numbers may
be preceded by blanks and take as many digits as their field can have; years may carry a sign, and
then take all digits that follow. Names of months and weekdays are recognised in either case.
-/

namespace TableFilter.Calendar

open Text

/-- A part of a pattern. -/
inductive Part where
  | literal (c : Char)
  | blank
  /-- At most `width` digits, all there are if there is no width, or all if a sign is allowed and
  present. -/
  | number (width : Option Nat) (signed : Bool) (add : Findings → Int → Option Findings)
  | monthName (long : Bool)
  | weekdayName (long : Bool)
  | halfDay
  /-- A point and the digits of a fraction of a second, or nothing. -/
  | pointFraction (digits : Option Nat)
  | fraction (digits : Nat)
  | zoneName
  /-- An offset from universal time. `zulu` admits the letter `Z`, `hourOnly` an hour alone. -/
  | zoneOffset (zulu hourOnly : Bool)
  | universalOffset
  | dateTimeMark

namespace Part

def within (width : Nat) (field : Field) (least greatest : Int) : Part :=
  .number (some width) false fun fs n => fs.addWithin field least greatest n

def year : Part := .number (some 4) true fun fs n => fs.addYear .year n
def month : Part := within 2 .month 1 12
def day : Part := within 2 .day 1 31
def yearOfCentury : Part := within 2 .yearOfCentury 0 99
def hour : Part := .number (some 2) false Findings.addHour
def hourOfHalf : Part := .number (some 2) false Findings.addHourOfHalf
def minute : Part := within 2 .minute 0 59
def second : Part := within 2 .second 0 60

def clock : List Part := [hour, .literal ':', minute, .literal ':', second]

/-- The part of a directive that stands for one number. -/
def ofNumberDirective? : Char → Option Part
  | 'Y' => year
  | 'C' => within 2 .century 0 99
  | 'y' => yearOfCentury
  | 'G' => Part.number (some 4) true fun fs n => fs.addYear .isoYear n
  | 'g' => within 2 .isoYearOfCentury 0 99
  | 'q' => within 1 .quarter 1 4
  | 'm' => month
  | 'd' | 'e' => day
  | 'j' => within 3 .dayOfYear 1 366
  | 'U' => within 2 .weekFromSunday 0 53
  | 'W' => within 2 .weekFromMonday 0 53
  | 'V' => within 2 .isoWeek 1 53
  | 'w' => Part.number (some 1) false fun fs n =>
      if n ≤ 6 then fs.add .weekday ((n + 6) % 7) else none
  | 'u' => Part.number (some 1) false fun fs n =>
      if 1 ≤ n ∧ n ≤ 7 then fs.add .weekday (n - 1) else none
  | 'H' | 'k' => hour
  | 'I' | 'l' => hourOfHalf
  | 'M' => minute
  | 'S' => second
  | 'f' => within 9 .nanosecond 0 999999999
  | 's' => Part.number none false fun fs n => fs.addWithin .timestamp 0 (pow2 63 - 1) n
  | _ => none

/-- The parts of a directive. -/
def ofDirective? (c : Char) : Option (List Part) :=
  match c with
  | 'B' => some [.monthName true]
  | 'b' | 'h' => some [.monthName false]
  | 'A' => some [.weekdayName true]
  | 'a' => some [.weekdayName false]
  | 'D' | 'x' => some [month, .literal '/', day, .literal '/', yearOfCentury]
  | 'F' => some [year, .literal '-', month, .literal '-', day]
  | 'v' => some [day, .literal '-', .monthName false, .literal '-', year]
  | 'R' => some [hour, .literal ':', minute]
  | 'T' | 'X' => some clock
  | 'r' => some [hourOfHalf, .literal ':', minute, .literal ':', second, .blank, .halfDay]
  | 'c' => some ([.weekdayName false, .blank, .monthName false, .blank, day, .blank] ++ clock ++
      [.blank, year])
  | 'p' | 'P' => some [.halfDay]
  | 'Z' => some [.zoneName]
  | 'z' => some [.zoneOffset false false]
  | '+' => some ([year, .blank, .literal '-', month, .blank, .literal '-', day, .dateTimeMark,
      hour, .blank, .literal ':', minute, .blank, .literal ':', second, .pointFraction none,
      .blank, .universalOffset])
  | 'n' | 't' => some [.blank]
  | '%' => some [.literal '%']
  | _ => (ofNumberDirective? c).map ([·])

/-- The parts of a pattern, unless it has an unknown directive. A padding mark is allowed before a
directive for one number, where reading ignores it. -/
def ofPattern? : List Char → Option (List Part)
  | [] => some []
  | '%' :: '-' :: c :: rest | '%' :: '0' :: c :: rest | '%' :: '_' :: c :: rest => do
    let part ← ofNumberDirective? c
    return part :: (← ofPattern? rest)
  | '%' :: '#' :: 'z' :: rest => return .zoneOffset true true :: (← ofPattern? rest)
  | '%' :: ':' :: ':' :: ':' :: 'z' :: rest | '%' :: ':' :: ':' :: 'z' :: rest
  | '%' :: ':' :: 'z' :: rest => return .zoneOffset false false :: (← ofPattern? rest)
  | '%' :: '.' :: 'f' :: rest => return .pointFraction none :: (← ofPattern? rest)
  | '%' :: '.' :: '3' :: 'f' :: rest => return .pointFraction (some 3) :: (← ofPattern? rest)
  | '%' :: '.' :: '6' :: 'f' :: rest => return .pointFraction (some 6) :: (← ofPattern? rest)
  | '%' :: '.' :: '9' :: 'f' :: rest => return .pointFraction (some 9) :: (← ofPattern? rest)
  | '%' :: '3' :: 'f' :: rest => return .fraction 3 :: (← ofPattern? rest)
  | '%' :: '6' :: 'f' :: rest => return .fraction 6 :: (← ofPattern? rest)
  | '%' :: '9' :: 'f' :: rest => return .fraction 9 :: (← ofPattern? rest)
  | '%' :: c :: rest => do
    let parts ← ofDirective? c
    return parts ++ (← ofPattern? rest)
  | '%' :: [] => none
  | c :: rest => return (if isBlank c then .blank else .literal c) :: (← ofPattern? rest)

def skipBlanks (cs : List Char) : List Char := cs.dropWhile isBlank

/-- Reads at least one digit and no more than `width`. -/
def readDigits (width : Option Nat) (cs : List Char) : Option (Int × List Char) :=
  let digits := (match width with | some n => cs.take n | none => cs).takeWhile Char.isDigit
  if digits.isEmpty then none else some (natOfDigits digits, cs.drop digits.length)

def readNumber (width : Option Nat) (signed : Bool) (cs : List Char) : Option (Int × List Char) :=
  match signed, skipBlanks cs with
  | true, '-' :: rest => (readDigits none rest).map fun (n, rest) => (-n, rest)
  | true, '+' :: rest => readDigits none rest
  | _, rest => readDigits width rest

/-- Drops a text that differs at most in the case of its letters of the alphabet `a` to `z`. -/
def dropIgnoringCase? (text cs : List Char) : Option (List Char) :=
  if (cs.take text.length).map Char.toLower = text then some (cs.drop text.length) else none

def monthNames : List (List Char × List Char) :=
  [("jan".toList, "uary".toList), ("feb".toList, "ruary".toList), ("mar".toList, "ch".toList),
   ("apr".toList, "il".toList), ("may".toList, []), ("jun".toList, "e".toList),
   ("jul".toList, "y".toList), ("aug".toList, "ust".toList), ("sep".toList, "tember".toList),
   ("oct".toList, "ober".toList), ("nov".toList, "ember".toList), ("dec".toList, "ember".toList)]

def weekdayNames : List (List Char × List Char) :=
  [("mon".toList, "day".toList), ("tue".toList, "sday".toList), ("wed".toList, "nesday".toList),
   ("thu".toList, "rsday".toList), ("fri".toList, "day".toList), ("sat".toList, "urday".toList),
   ("sun".toList, "day".toList)]

/-- Reads a name out of a list and returns its place. The end of a long name may be missing. -/
def readName (names : List (List Char × List Char)) (long : Bool) (cs : List Char) :
    Option (Nat × List Char) := do
  let place ← names.findIdx? fun (short, _) => (dropIgnoringCase? short cs).isSome
  let (short, ending) ← names[place]?
  let rest ← dropIgnoringCase? short cs
  return (place, if long then (dropIgnoringCase? ending rest).getD rest else rest)

def readPointFraction (digits : Option Nat) (cs : List Char) : Option (Option Int × List Char) :=
  match cs with
  | '.' :: rest => do
    match digits with
    | none =>
      let (n, after) ← readDigits (some 9) rest
      let used := rest.length - after.length
      return (some (n * pow10 (9 - used)), after.dropWhile Char.isDigit)
    | some k =>
      let (n, after) ← readDigits (some k) rest
      if rest.length - after.length = k then return (some (n * pow10 (9 - k)), after) else none
  | _ => some (none, cs)

def twoDigits? : List Char → Option (Nat × List Char)
  | a :: b :: rest => if a.isDigit && b.isDigit then some (natOfDigits [a, b], rest) else none
  | _ => none

/-- Reads sign, hours and minutes of an offset, with colons or blanks in between, as seconds. -/
def readOffset (zulu hourOnly : Bool) (cs : List Char) : Option (Int × List Char) := do
  let (sign, rest) ← match cs with
    | '+' :: rest => some ((1 : Int), some rest)
    | '-' :: rest | '−' :: rest => some (-1, some rest)
    | 'Z' :: _ | 'z' :: _ => if zulu then some (0, none) else none
    | _ => none
  match rest with
  | none => return (0, cs.drop 1)
  | some rest =>
    let (hours, rest) ← twoDigits? rest
    let rest := rest.dropWhile fun c => c == ':' || isBlank c
    match rest with
    | [] => if hourOnly then return (sign * (3600 * hours), []) else none
    | _ =>
      let (minutes, rest) ← twoDigits? rest
      if minutes < 60 then return (sign * (3600 * hours + 60 * minutes), rest) else none

/-- Reads one part off the front of a text. -/
def read (fs : Findings) (cs : List Char) : Part → Option (Findings × List Char)
  | .literal c => match cs with
    | d :: rest => if c = d then some (fs, rest) else none
    | [] => none
  | .blank => some (fs, skipBlanks cs)
  | .number width signed add => do
    let (n, rest) ← readNumber width signed cs
    return (← add fs n, rest)
  | .monthName long => do
    let (place, rest) ← readName monthNames long cs
    return (← fs.add .month (place + 1), rest)
  | .weekdayName long => do
    let (place, rest) ← readName weekdayNames long cs
    return (← fs.add .weekday place, rest)
  | .halfDay => match (cs.take 2).map Char.toLower with
    | ['a', 'm'] => (fs.add .halfDay 0).map fun fs => (fs, cs.drop 2)
    | ['p', 'm'] => (fs.add .halfDay 1).map fun fs => (fs, cs.drop 2)
    | _ => none
  | .pointFraction digits => do
    let (n, rest) ← readPointFraction digits cs
    match n with
    | some n => return (← fs.add .nanosecond n, rest)
    | none => return (fs, rest)
  | .fraction digits => do
    let (n, rest) ← readPointFraction (some digits) ('.' :: cs)
    return (← fs.add .nanosecond (n.getD 0), rest)
  | .zoneName => some (fs, cs.dropWhile fun c => !isBlank c)
  | .zoneOffset zulu hourOnly => do
    let (n, rest) ← readOffset zulu hourOnly (skipBlanks cs)
    return (← fs.add .offset n, rest)
  | .universalOffset => do
    let cs := skipBlanks cs
    let (n, rest) ← match dropIgnoringCase? "utc".toList cs with
      | some rest => some (0, rest)
      | none => readOffset true false cs
    return (← fs.add .offset n, rest)
  | .dateTimeMark => match cs with
    | 't' :: rest | 'T' :: rest | ' ' :: rest => some (fs, rest)
    | _ => none

/-- Reads a text by all parts of a pattern. -/
def readAll : List Part → Findings → List Char → Option Findings
  | [], fs, [] => some fs
  | [], _, _ :: _ => none
  | part :: parts, fs, cs => do
    let (fs, rest) ← read fs cs part
    readAll parts fs rest

end Part
end TableFilter.Calendar

namespace TableFilter.Date

open Calendar

/-- Reads a whole text as a date by a pattern. -/
def ofPattern? (pattern : List Char) (cs : List Char) : Option Date := do
  let parts ← Part.ofPattern? pattern
  (← Part.readAll parts [] cs).date?

end TableFilter.Date
