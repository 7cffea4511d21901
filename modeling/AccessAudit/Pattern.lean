/-
**Patterns with one wildcard.**

A pattern names actions. Without a wildcard it names one action, itself; with a wildcard `*` it
names every action that starts with the part before the wildcard and ends with the part after it.
The two parts may overlap in the action, so `ab*ba` covers `aba`. A pattern in use holds at most
one wildcard; of a text with more, the first one counts and the others stand for themselves.

* `halves`: the two parts of a pattern around its first wildcard;
* `covers`: whether a pattern names an action;
* `coversAny`, `firstCovering?`: the same question for a list of patterns.
-/

namespace AccessAudit.Pattern

/-- The wildcard character. -/
def wildcard : Char := '*'

/-- How many wildcards a text holds. -/
def wildcardCount (text : String) : Nat :=
  text.toList.count wildcard

/-- Whether a text holds a wildcard. -/
def hasWildcard (text : String) : Bool :=
  text.toList.contains wildcard

/-- The characters before and after the first wildcard. -/
def halves : List Char → Option (List Char × List Char)
  | [] => none
  | c :: rest =>
    if c = wildcard then some ([], rest)
    else (halves rest).map fun (front, back) => (c :: front, back)

/-- Whether the characters of a pattern name the action with these characters. -/
def coversChars (pattern action : List Char) : Bool :=
  match halves pattern with
  | none => action == pattern
  | some (front, back) => front.isPrefixOf action && back.isSuffixOf action

/-- Whether a pattern names an action. -/
def covers (pattern action : String) : Bool :=
  coversChars pattern.toList action.toList

/-- Whether one of the patterns names the action. -/
def coversAny (patterns : List String) (action : String) : Bool :=
  patterns.any (covers · action)

/-- The first of the patterns that names the action. -/
def firstCovering? (patterns : List String) (action : String) : Option String :=
  patterns.find? (covers · action)

end AccessAudit.Pattern
