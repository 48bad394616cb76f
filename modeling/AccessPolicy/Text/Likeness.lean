/-! How alike two texts are, by the runs of characters that they share. -/

namespace AccessPolicy.Text

/-- A run of characters in two texts, by its starts in both and its length. -/
structure SharedRun where
  left : Nat
  right : Nat
  length : Nat
  deriving Repr, DecidableEq

/-- The number of characters at the start of both texts that agree. -/
def sharedStart : List Char → List Char → Nat
  -- The first difference ends the run.
  | a :: left, b :: right => if a = b then sharedStart left right + 1 else 0
  | _, _ => 0

/-- The longer of two runs, the first of two that are equally long. -/
def longerRun (best run : SharedRun) : SharedRun :=
  -- Earlier runs are only replaced by longer ones.
  if best.length < run.length then run else best

/-- The longest run of a text that starts at its first character. -/
def longestFrom (left : List Char) (leftStart : Nat) : Nat → List Char → SharedRun → SharedRun
  -- All starts in the other text are tried in order.
  | _, [], best => best
  | rightStart, b :: right, best =>
    longestFrom left leftStart (rightStart + 1) right
      (longerRun best ⟨leftStart, rightStart, sharedStart left (b :: right)⟩)

/-- The longest run of a text that starts at any of its characters. -/
def longestAfter (right : List Char) : Nat → List Char → SharedRun → SharedRun
  -- All starts in the first text are tried in order.
  | _, [], best => best
  | leftStart, a :: left, best =>
    longestAfter right (leftStart + 1) left (longestFrom (a :: left) leftStart 0 right best)

/-- The longest run that two texts share, the first of several. -/
def longestRun (left right : List Char) : SharedRun :=
  -- Texts that share nothing share an empty run.
  longestAfter right 0 left ⟨0, 0, 0⟩

/-- The number of characters in the runs that two texts share in the same order. -/
def sharedWithin : Nat → List Char → List Char → Nat
  -- Every run takes at least one character, so as much fuel as there are characters is enough.
  | 0, _, _ => 0
  | fuel + 1, left, right =>
    let run := longestRun left right
    if run.length = 0 then 0
    else sharedWithin fuel (left.take run.left) (right.take run.right) + run.length
      + sharedWithin fuel (left.drop (run.left + run.length)) (right.drop (run.right + run.length))

/-- The number of characters that two texts share, longest runs first. -/
def sharedCount (left right : List Char) : Nat :=
  -- The length of the first text bounds the number of runs.
  sharedWithin left.length left right

/-- A text with how much it is like another: twice what both share, over the length of both. -/
structure Likeness where
  text : String
  shared : Nat
  total : Nat
  deriving Repr, DecidableEq

namespace Likeness

/-- How much a text is like a word. -/
def of (word text : String) : Likeness :=
  -- Equal texts share all of their characters.
  ⟨text, sharedCount text.toList word.toList, text.length + word.length⟩

/-- Whether a text is like enough to a word to be taken for it. -/
def isClose (likeness : Likeness) : Bool :=
  -- Three fifths of the characters have to be shared.
  3 * likeness.total ≤ 10 * likeness.shared

/-- Whether one text is at least as much like a word as another. -/
def precedes (a b : Likeness) : Bool :=
  -- Of texts that are equally like the word the greater one comes first.
  let first := a.shared * b.total
  let second := b.shared * a.total
  second < first || (first == second && b.text ≤ a.text)

end Likeness

/-- The texts most like a word, at most three of those that are like enough. -/
def closest (word : String) (texts : List String) : List String :=
  -- The one most like the word comes first.
  let close := (texts.map (Likeness.of word)).filter Likeness.isClose
  ((close.mergeSort Likeness.precedes).take 3).map Likeness.text

end AccessPolicy.Text
