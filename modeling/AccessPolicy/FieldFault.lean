import AccessPolicy.Json.Value
import AccessPolicy.Number.Written
import AccessPolicy.Text.Cut

/-! Faults in the fields of a record that is read from named values. -/

namespace AccessPolicy

/-- What is wrong with a field, or with a record whose fields are all right. -/
inductive FieldProblem where
  | missing
  | notText
  | emptyText
  | notObject
  | notRecord (name : String)
  | notOneOf (choices : List String)
  | notList
  | notWhole
  | unreadableWhole
  | fractional
  | infinite
  | tooGreat
  | notTruth
  | unreadableTruth
  | unknownField
  | notPath
  | refused (reason : String)
  deriving Repr, DecidableEq

/-- Choices in quotation marks, the last one behind the word "or". -/
def listedChoices : List String → String
  -- Commas stand between all but the last two.
  | [] => ""
  | [choice] => "'" ++ choice ++ "'"
  | [choice, last] => "'" ++ choice ++ "' or '" ++ last ++ "'"
  | choice :: later => "'" ++ choice ++ "', " ++ listedChoices later

/-- The wording of a problem. -/
def FieldProblem.message : FieldProblem → String
  -- Refusals by a rule of their own bring their reason with them.
  | .missing => "Field required"
  | .notText => "Input should be a valid string"
  | .emptyText => "String should have at least 1 character"
  | .notObject => "Input should be a valid dictionary"
  | .notRecord name => "Input should be a valid dictionary or instance of " ++ name
  | .notOneOf choices => "Input should be " ++ listedChoices choices
  | .notList => "Input should be a valid tuple"
  | .notWhole => "Input should be a valid integer"
  | .unreadableWhole => "Input should be a valid integer, unable to parse string as an integer"
  | .fractional => "Input should be a valid integer, got a number with a fractional part"
  | .infinite => "Input should be a finite number"
  | .tooGreat => "Unable to parse input string as an integer, exceeded maximum size"
  | .notTruth => "Input should be a valid boolean"
  | .unreadableTruth => "Input should be a valid boolean, unable to interpret input"
  | .unknownField => "Extra inputs are not permitted"
  | .notPath => "Input is not a valid path for <class 'pathlib.Path'>"
  | .refused reason => "Value error, " ++ reason

/-- A problem with the names that lead to its field, of which a whole record has none. -/
structure FieldFault where
  place : List String
  problem : FieldProblem
  deriving Repr, DecidableEq

namespace FieldFault

/-- The names that lead to the field, with points between them. -/
def placeText (fault : FieldFault) : String :=
  -- Outer records come first.
  Text.joined "." fault.place

/-- The fault of a field of a record that is a field itself. -/
def within (name : String) (fault : FieldFault) : FieldFault :=
  -- The outer name leads to the inner ones.
  ⟨name :: fault.place, fault.problem⟩

/-- All faults, one per line. -/
def report (faults : List FieldFault) : String :=
  -- Every line is an item of a list.
  Text.joined "\n" (faults.map fun fault =>
    "  - " ++ fault.placeText ++ ": " ++ fault.problem.message)

end FieldFault

/-- The value of a field, or the faults found in it. -/
abbrev Checked (α : Type) := Except (List FieldFault) α

namespace Checked

/-- The faults of a field that was not accepted. -/
def faults {α : Type} : Checked α → List FieldFault
  -- An accepted field has none.
  | .ok _ => []
  | .error found => found

/-- A field with one fault. -/
def fail {α : Type} (name : String) (problem : FieldProblem) : Checked α :=
  -- The name is the only one that leads to the field.
  .error [⟨[name], problem⟩]

/-- Two fields, whose faults are all found. -/
def both {α β : Type} (first : Checked α) (second : Checked β) : Checked (α × β) :=
  -- The faults of the first field come first.
  match first, second with
  | .ok a, .ok b => .ok (a, b)
  | first, second => .error (first.faults ++ second.faults)

/-- A text of a record. -/
def text (name : String) : Option Json → Checked String
  -- Only strings are texts.
  | none => fail name .missing
  | some (.string text) => .ok text
  | some _ => fail name .notText

/-- A text of a record that has at least one character. -/
def filledText (name : String) (value : Option Json) : Checked String :=
  -- Whether the text is there comes before its length.
  match text name value with
  | .ok text => if text.isEmpty then fail name .emptyText else .ok text
  | .error found => .error found

/-- A text of a record that may be missing or null. -/
def optionalText (name : String) : Option Json → Checked (Option String)
  -- An empty text is there.
  | none | some .null => .ok none
  | some (.string text) => .ok (some text)
  | some _ => fail name .notText

/-- The texts of a list in a record, from a place on. -/
def textsFrom (name : String) (index : Nat) : List Json → Checked (List String)
  -- The place in the list leads to a value that is no text, and all of them are found.
  | [] => .ok []
  | item :: later =>
    let first := (text name (some item)).mapError fun faults =>
      faults.map fun fault => ⟨fault.place ++ [Number.natText index], fault.problem⟩
    (both first (textsFrom name (index + 1) later)).map fun (text, texts) => text :: texts

/-- A list of texts of a record. -/
def texts (name : String) : Option Json → Checked (List String)
  -- The list may be empty.
  | none => fail name .missing
  | some (.array items) => textsFrom name 0 items
  | some _ => fail name .notList

/-- A list of texts of a record, which is empty where it is missing. -/
def textsOrNone (name : String) (value : Option Json) : Checked (List String) :=
  -- Null is there, and is no list.
  texts name (some (value.getD (.array [])))

/-- A list of texts of a record that may be missing or null. -/
def optionalTexts (name : String) : Option Json → Checked (Option (List String))
  -- An empty list is there.
  | none | some .null => .ok none
  | value => (texts name value).map some

/-- Whether a whole number lies between the powers of two that bound words of sixty-four bits. -/
def fitsWord (number : Int) : Bool :=
  -- Neither of the two powers lies between them.
  -Int.pow 2 63 < number && number < Int.pow 2 63

/-- The whole number that a floating-point number is. -/
def wholeOf : Number.Binary64 → Except FieldProblem Int
  -- The fraction is looked at before the size.
  | .finite negative significand exponent =>
    match Number.Binary64.whole? negative significand exponent with
    | none => .error .fractional
    | some number => if fitsWord number then .ok number else .error .tooGreat
  | _ => .error .infinite

/-- The whole number that a value stands for. -/
def wholeValue : Json → Except FieldProblem Int
  -- Truth values are counted, and numerals are read.
  | .int number => .ok number
  | .bool truth => .ok (if truth then 1 else 0)
  | .float number => wholeOf number
  | .string text => (Number.Written.read text).mapError fun
    | .unreadable => .unreadableWhole
    | .tooLong => .tooGreat
  | _ => .error .notWhole

/-- A whole number of a record, which is zero where it is missing. -/
def wholeNumber (name : String) (value : Option Json) : Checked Int :=
  -- Null is there, and is no number.
  (wholeValue (value.getD (.int 0))).mapError fun problem => [⟨[name], problem⟩]

/-- The words for truth values, in small letters. -/
def truthWords : List (String × Bool) :=
  -- There are as many for one value as for the other.
  [("0", false), ("f", false), ("n", false), ("no", false), ("off", false), ("false", false),
    ("1", true), ("t", true), ("y", true), ("on", true), ("yes", true), ("true", true)]

/-- The truth value that a whole number stands for. -/
def truthOf (number : Int) : Except FieldProblem Bool :=
  -- There is one number for each value.
  if number = 0 then .ok false
  else if number = 1 then .ok true
  else .error .unreadableTruth

/-- The truth value that a value stands for. -/
def truthValue : Json → Except FieldProblem Bool
  -- Numbers that are too great are no more truth values than lists are.
  | .bool truth => .ok truth
  | .string text =>
    match truthWords.lookup (text.map Char.toLower) with
    | some truth => .ok truth
    | none => .error .unreadableTruth
  | .int number =>
    if fitsWord number || number = -Int.pow 2 63 then truthOf number else .error .notTruth
  | .float number =>
    match wholeOf number with
    | .ok number => truthOf number
    | .error _ => .error .notTruth
  | _ => .error .notTruth

/-- A truth value of a record, which is false where it is missing. -/
def truth (name : String) (value : Option Json) : Checked Bool :=
  -- Null is there, and is no truth value.
  (truthValue (value.getD (.bool false))).mapError fun problem => [⟨[name], problem⟩]

/-- One of the named choices of a record. -/
def choice {α : Type} (name : String) (choices : List (String × α)) : Option Json → Checked α
  -- Values that are no texts are no choices either.
  | none => fail name .missing
  | some (.string text) =>
    match choices.lookup text with
    | some value => .ok value
    | none => fail name (.notOneOf (choices.map Prod.fst))
  | some _ => fail name (.notOneOf (choices.map Prod.fst))

end Checked

end AccessPolicy
