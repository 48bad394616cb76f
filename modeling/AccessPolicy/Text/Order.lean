/-! Texts in the order of their code points. -/

namespace AccessPolicy.Text

/-- Inserts a text into texts that are in order, unless it is there already. -/
def insertSorted (text : String) : List String → List String
  -- The order is that of code points.
  | [] => [text]
  | other :: later =>
    if text = other then other :: later
    else if text < other then text :: other :: later
    else other :: insertSorted text later

/-- Texts in the order of code points, each once. -/
def sortedSet (texts : List String) : List String :=
  -- Neither the order nor the number of times of a text matters.
  texts.foldr insertSorted []

end AccessPolicy.Text
