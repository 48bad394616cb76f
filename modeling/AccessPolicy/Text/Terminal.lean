/-! Text without the sequences that steer a terminal. -/

namespace AccessPolicy.Text

/-- The character that starts a sequence. -/
def escapeChar : Char := Char.ofNat 0x1B

/-- Whether a character is a parameter of a sequence. -/
def isParameter (c : Char) : Bool :=
  -- Parameters are digits and the marks between the digits and the letters.
  '0' ≤ c && c ≤ '?'

/-- Whether a character stands between the parameters of a sequence and its end. -/
def isIntermediate (c : Char) : Bool :=
  -- These are the space and the marks in front of the digits.
  ' ' ≤ c && c ≤ '/'

/-- Whether a character ends a sequence. -/
def isFinal (c : Char) : Bool :=
  -- All characters behind the parameters end one, up to the last that is printed.
  '@' ≤ c && c ≤ '~'

/-- The number of characters of a sequence behind the one that starts it. -/
def sequenceLength? : List Char → Option Nat
  -- A sequence is a square bracket, parameters, intermediates and an end.
  | '[' :: rest =>
    let parameters := rest.takeWhile isParameter
    let intermediates := (rest.drop parameters.length).takeWhile isIntermediate
    let count := parameters.length + intermediates.length
    match rest.drop count with
    | c :: _ => if isFinal c then some (count + 2) else none
    | [] => none
  | _ => none

/-- Drops so many characters, and all sequences behind them. -/
def dropSequences : Nat → List Char → List Char
  -- The characters of a sequence are dropped one by one.
  | _, [] => []
  | count + 1, _ :: rest => dropSequences count rest
  | 0, c :: rest =>
    match if c = escapeChar then sequenceLength? rest else none with
    | some count => dropSequences count rest
    | none => c :: dropSequences 0 rest

/-- A text without sequences. -/
def withoutSequences (text : String) : String :=
  -- What a terminal would show stays.
  String.ofList (dropSequences 0 text.toList)

end AccessPolicy.Text
