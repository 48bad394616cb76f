/-! Cutting text at a mark, and joining the pieces again. -/

namespace AccessPolicy.Text

/-- The text before the first mark and, where there is a mark, the text behind it. -/
def cut (mark : Char) : List Char → List Char × Option (List Char)
  -- Later marks belong to the text behind.
  | [] => ([], none)
  | c :: rest =>
    if c = mark then ([], some rest)
    else ((c :: (cut mark rest).1), (cut mark rest).2)

/-- The pieces between the marks, one more than there are marks. -/
def pieces (mark : Char) : List Char → List (List Char)
  -- A mark closes the piece before it, even an empty one.
  | [] => [[]]
  | c :: rest =>
    if c = mark then [] :: pieces mark rest
    else match pieces mark rest with
      | [] => [[c]]
      | piece :: others => (c :: piece) :: others

/-- The pieces between the first marks, of which at most `limit` are cut at. -/
def piecesUpTo (mark : Char) : Nat → List Char → List (List Char)
  -- Once the limit is used up, the remaining marks stay in the last piece.
  | 0, chars => [chars]
  | limit + 1, chars =>
    match cut mark chars with
    | (piece, none) => [piece]
    | (piece, some rest) => piece :: piecesUpTo mark limit rest

/-- Texts with a separator between every two. -/
def joined (separator : String) (texts : List String) : String :=
  -- Nothing stands before the first text or behind the last.
  String.intercalate separator texts

end AccessPolicy.Text
