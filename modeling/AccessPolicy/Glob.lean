import AccessPolicy.Text.CaseKey

/-! Wildcard patterns, which always match a text as a whole. -/

namespace AccessPolicy

/-- One place of a pattern: a character that stands for itself, any one character, or any text. -/
inductive Glob where
  | literal (c : Char)
  | one
  | many
  deriving Repr, DecidableEq

namespace Glob

/-- The place that a character of a written pattern stands for. -/
def ofChar (c : Char) : Glob :=
  -- Nothing but the star and the question mark is special, and nothing escapes them.
  if c = '*' then .many else if c = '?' then .one else .literal c

/-- The places of a written pattern. -/
def ofString (pattern : String) : List Glob :=
  -- Every character is one place.
  pattern.toList.map ofChar

/-- Two characters that a pattern takes for one another. -/
abbrev Same := Char → Char → Bool

/-- Characters are told apart by letter case. -/
def sameExactly : Same := fun a b => a == b

/-- Characters are the same whatever their letter case. -/
def sameLetter : Same := fun a b => Text.caseKey a == Text.caseKey b

/-- Turns each entry true that has a true one at or before its place. -/
def spread : Bool → List Bool → List Bool
  -- Once an entry was true all later ones are.
  | _, [] => []
  | seen, entry :: later => (seen || entry) :: spread (seen || entry) later

/-- One more place of the pattern, where entry `i` tells whether the first `i` characters match. -/
def advance (same : Same) (chars : List Char) (row : List Bool) : Glob → List Bool
  -- A single character moves every match one place on, any text carries it to all later places.
  | .literal c => false :: List.zipWith (fun entry d => entry && same c d) row chars
  | .one => false :: List.zipWith (fun entry _ => entry) row chars
  | .many => spread false row

/-- Whether places match a text as a whole. -/
def matchesChars (same : Same) (places : List Glob) (chars : List Char) : Bool :=
  -- Before the first place only the empty beginning of the text is matched.
  let start := true :: chars.map fun _ => false
  (places.foldl (advance same chars) start).getLast?.getD false

/-- Whether a written pattern has a wildcard in it. -/
def hasWildcard (pattern : String) : Bool :=
  -- These are the two characters that do not stand for themselves.
  pattern.toList.any fun c => c == '*' || c == '?'

/-- Whether a pattern matches a text, with letter case told apart. -/
def accepts (pattern candidate : String) : Bool :=
  -- Without a wildcard a pattern matches itself alone.
  if hasWildcard pattern then matchesChars sameExactly (ofString pattern) candidate.toList
  else pattern == candidate

/-- Whether a pattern matches a text, whatever the letter case. -/
def acceptsAnyCase (pattern candidate : String) : Bool :=
  -- Without a wildcard the lower cases of both are compared, which may differ in length.
  if hasWildcard pattern then matchesChars sameLetter (ofString pattern) candidate.toList
  else Text.lower pattern == Text.lower candidate

end Glob

end AccessPolicy
