import AccessPolicy.CommandLine.Flag
import AccessPolicy.Text.Cut
import AccessPolicy.Text.Likeness

/-! Arguments, taken apart into options with their values and words that belong to no option. -/

namespace AccessPolicy.CommandLine

/-- An option in the arguments, with its value if it has one. -/
structure Use where
  flag : Flag
  value : String
  deriving Repr, DecidableEq

/-- Why arguments cannot be taken apart. -/
inductive ArgumentFault where
  | unknown (spelling : String) (similar : List String)
  | missingValue (spelling : String)
  | unwantedValue (spelling : String)
  deriving Repr, DecidableEq

/-- The options in the arguments in their order, and the words that belong to none. -/
structure Arguments where
  uses : List Use
  strays : List String
  deriving Repr, DecidableEq

/-- Options taken from a single argument, of which the last may still wait for its value. -/
structure Taken where
  uses : List Use
  waiting : Option (Flag × String)
  deriving Repr, DecidableEq

namespace Taken

/-- Puts an option without a value in front. -/
def after (flag : Flag) (later : Taken) : Taken :=
  -- The order of the letters stays.
  { later with uses := ⟨flag, ""⟩ :: later.uses }

/-- Takes apart the letters behind a dash. -/
def ofLetters : List Char → Except ArgumentFault Taken
  -- What follows the letter of an option with a value is that value.
  | [] => .ok ⟨[], none⟩
  | letter :: rest =>
    let spelling := String.ofList ['-', letter]
    match Flag.ofLetter? letter with
    | none => .error (.unknown spelling [])
    | some flag =>
      if !flag.takesValue then (ofLetters rest).map (after flag)
      else if rest.isEmpty then .ok ⟨[], some (flag, spelling)⟩
      else .ok ⟨[⟨flag, String.ofList rest⟩], none⟩

/-- Takes apart an option in its long spelling, with a value behind an equals sign if it has one. -/
def ofLong (flag : Flag) (value : Option (List Char)) : Except ArgumentFault Taken :=
  -- A value may be empty.
  match flag.takesValue, value with
  | true, some value => .ok ⟨[⟨flag, String.ofList value⟩], none⟩
  | true, none => .ok ⟨[], some (flag, flag.long)⟩
  | false, some _ => .error (.unwantedValue flag.long)
  | false, none => .ok ⟨[⟨flag, ""⟩], none⟩

/-- Takes apart the text behind two dashes. -/
def ofName (rest : List Char) : Except ArgumentFault Taken :=
  -- The name ends at the first equals sign.
  let (name, value) := Text.cut '=' rest
  let spelling := String.ofList ('-' :: '-' :: name)
  match Flag.ofLong? spelling with
  | some flag => ofLong flag value
  | none => .error (.unknown spelling (Text.closest spelling (Flag.all.map Flag.long)))

end Taken

/-- What a single argument is. -/
inductive Word where
  | stray
  | stop
  | options (read : Except ArgumentFault Taken)

/-- Tells what an argument is. -/
def Word.of (argument : String) : Word :=
  -- A dash alone is a word, two dashes end the options.
  match argument.toList with
  | ['-', '-'] => .stop
  | '-' :: '-' :: rest => .options (Taken.ofName rest)
  | '-' :: letter :: rest => .options (Taken.ofLetters (letter :: rest))
  | _ => .stray

namespace Arguments

/-- No arguments. -/
def empty : Arguments := ⟨[], []⟩

/-- Puts options in front. -/
def withUses (uses : List Use) (later : Arguments) : Arguments :=
  -- The order of the arguments stays.
  { later with uses := uses ++ later.uses }

/-- Puts a word that belongs to no option in front. -/
def withStray (word : String) (later : Arguments) : Arguments :=
  -- The order of the arguments stays.
  { later with strays := word :: later.strays }

/-- Takes arguments apart. -/
def of : List String → Except ArgumentFault Arguments
  -- A value may look like an option.
  | [] => .ok empty
  | argument :: rest =>
    match Word.of argument with
    | .stop => .ok ⟨[], rest⟩
    | .stray => (of rest).map (withStray argument)
    | .options (.error fault) => .error fault
    | .options (.ok ⟨uses, none⟩) => (of rest).map (withUses uses)
    | .options (.ok ⟨uses, some (flag, spelling)⟩) =>
      match rest with
      | [] => .error (.missingValue spelling)
      | value :: later => (of later).map (withUses (uses ++ [⟨flag, value⟩]))

/-- The values of an option, in their order. -/
def values (arguments : Arguments) (flag : Flag) : List String :=
  -- An option may be repeated.
  (arguments.uses.filter fun use => use.flag = flag).map Use.value

/-- The value of an option that counts once. -/
def value? (arguments : Arguments) (flag : Flag) : Option String :=
  -- The last value replaces those before it.
  (arguments.values flag).getLast?

/-- Whether an option is used. -/
def has (arguments : Arguments) (flag : Flag) : Bool :=
  -- Its value does not matter.
  arguments.uses.any fun use => use.flag = flag

/-- The options that are used, in the order in which they first appear. -/
def flags (arguments : Arguments) : List Flag :=
  -- Later uses of an option are left out.
  arguments.uses.foldl (fun found use =>
    if found.contains use.flag then found else found ++ [use.flag]) []

end Arguments

end AccessPolicy.CommandLine
