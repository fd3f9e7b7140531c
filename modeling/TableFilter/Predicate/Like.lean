import TableFilter.Text.Regex

/-!
# Patterns with wildcards

In a pattern `*` and `%` stand for any run of characters, and every other character for itself up
to the case policy. A pattern is turned into a regular expression that a text has to match as a
whole: it is split at its wildcards, the pieces are escaped and joined by points with stars, and
anchors are put around them.
-/

namespace TableFilter.Like

def isWildcard (c : Char) : Bool := c == '*' || c == '%'

/-- The text of the regular expression for a pattern. -/
def regexText (caseSensitive : Bool) (pattern : String) : String :=
  let flags := if caseSensitive then "(?s)" else "(?is)"
  let body := ['.', '*'].intercalate ((pattern.toList.splitOnP isWildcard).map Regex.escape)
  String.ofList (flags.toList ++ '^' :: body ++ ['$'])

def regex? (caseSensitive : Bool) (pattern : String) : Option Regex :=
  Regex.ofText? (regexText caseSensitive pattern)

/-- Whether a text matches a pattern, which is unknown if the pattern has no regular expression. -/
def accepts? (caseSensitive : Bool) (pattern text : String) : Option Bool :=
  (regex? caseSensitive pattern).map (·.isMatch text)

def accepts (caseSensitive : Bool) (pattern text : String) : Bool :=
  (accepts? caseSensitive pattern text).getD false

theorem accepts?_eq_true_iff {caseSensitive : Bool} {pattern text : String} :
    accepts? caseSensitive pattern text = some true ↔ accepts caseSensitive pattern text := by
  rw [accepts]
  cases accepts? caseSensitive pattern text <;> simp

example : regexText false "a+%c" = "(?is)^a\\+.*c$" := by decide

end TableFilter.Like
