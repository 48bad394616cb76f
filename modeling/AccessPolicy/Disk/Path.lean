import AccessPolicy.Text.Cut
import AccessPolicy.Text.Reserve

/-! Paths of files, as they are written. -/

namespace AccessPolicy

/-- The number of slashes that a path starts with, and the names on the way. -/
structure Path where
  slashes : Nat
  names : List String
  deriving Repr, DecidableEq

namespace Path

/-- How many of the slashes at the start of a path count. -/
def startingSlashes (chars : List Char) : Nat :=
  -- Two slashes may have a meaning of their own, three or more are like one.
  match (chars.takeWhile (· == '/')).length with
  | 0 => 0
  | 2 => 2
  | _ => 1

/-- The path that a text stands for. -/
def ofText (text : String) : Path :=
  -- Doubled slashes and names that lead nowhere are dropped, steps upwards are kept.
  let names := (Text.pieces '/' text.toList).map String.ofList
  ⟨startingSlashes text.toList, names.filter fun name => name ≠ "" ∧ name ≠ "."⟩

/-- The text of a path. -/
def text (path : Path) : String :=
  -- The path that leads nowhere is a single point.
  if path.slashes = 0 ∧ path.names = [] then "."
  else String.ofList (List.replicate path.slashes '/') ++ Text.joined "/" path.names

/-- Whether a file can be asked for by a path. -/
def isUsable (reserve : Text.Reserve) (path : Path) : Bool :=
  -- Some halves of pairs stand for bytes that are no text, and the others have no encoding.
  path.text.toList.all fun c => c != Char.ofNat 0 &&
    ((reserve.half? c).all fun unit => 0xDC80 ≤ unit && unit ≤ 0xDCFF)

/-- The path without its last name. -/
def parent (path : Path) : Path :=
  -- A path without names is its own parent.
  { path with names := path.names.dropLast }

/-- The path to a name in a folder. -/
def child (path : Path) (name : String) : Path :=
  -- The name is the last one.
  { path with names := path.names ++ [name] }

end Path

end AccessPolicy
