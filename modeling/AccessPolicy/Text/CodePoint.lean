/-! Runs of code points, the form in which character properties and case mappings are kept. -/

namespace AccessPolicy.Text

/-- Whether a code point lies in one of the runs, whose two ends both belong to it. -/
def inRuns (runs : List (Nat × Nat)) (code : Nat) : Bool :=
  -- The runs are disjoint, so at most one of them answers.
  runs.any fun run => run.1 ≤ code && code ≤ run.2

/-- Code points from `first` to `last` in steps of `step`, which all move by the same distance. -/
structure Shift where
  first : Nat
  last : Nat
  step : Nat
  distance : Int
  deriving Repr, DecidableEq

/-- Whether a shift moves a code point. -/
def Shift.contains (shift : Shift) (code : Nat) : Bool :=
  -- Upper- and lower-case letters often alternate, which is why a run may skip every other point.
  shift.first ≤ code && code ≤ shift.last && (code - shift.first) % shift.step == 0

/-- The character to which the first fitting shift moves a code point, if one fits. -/
def shifted? (shifts : List Shift) (code : Nat) : Option Char :=
  -- Targets are letters, so the sum is never negative.
  (shifts.find? (·.contains code)).map fun shift => Char.ofNat ((code : Int) + shift.distance).toNat

end AccessPolicy.Text
