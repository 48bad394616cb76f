import AccessPolicy.CommandLine.Arguments
import AccessPolicy.Disk.Basic
import AccessPolicy.Log.Event
import AccessPolicy.RequestDraft
import AccessPolicy.Text.CaseFold

/-! What the command is asked to do, and the mistakes in asking for it. -/

namespace AccessPolicy.CommandLine

/-- A mistake in the arguments. -/
inductive UsageFault where
  | arguments (fault : ArgumentFault)
  | folder (flag : Flag) (path : String)
  | unknownLevel (text : String)
  | strays (words : List String)
  | missingPolicy
  | severalPolicies
  | context (fault : Context.Fault)
  | request (fault : RequestDraft.Fault)
  deriving Repr, DecidableEq

/-- The names of the levels that can be chosen, in quotation marks. -/
def levelChoices : String :=
  -- Levels are listed in small letters.
  Text.joined ", " (Log.Level.all.map fun level => "'" ++ Text.lower level.name ++ "'")

/-- The question whether one of several similar spellings is meant. -/
def similarText (similar : List String) : String :=
  -- The spellings are in the order of their code points.
  match similar.map Text.quoted with
  | [] => ""
  | [only] => " Did you mean " ++ only ++ "?"
  | several => " (Did you mean one of: " ++ Text.joined ", " (Text.sortedSet several) ++ "?)"

namespace UsageFault

/-- The wording of a mistake. -/
def message : UsageFault → String
  -- What stands in the arguments is quoted, but for words that belong to no option.
  | .arguments (.unknown spelling similar) =>
    "No such option " ++ Text.quoted spelling ++ "." ++ similarText similar
  | .arguments (.missingValue spelling) =>
    "Option " ++ Text.quoted spelling ++ " requires an argument."
  | .arguments (.unwantedValue spelling) =>
    "Option " ++ Text.quoted spelling ++ " does not take a value."
  | .folder flag path =>
    "Invalid value for " ++ flag.spellings ++ ": File " ++ Text.quoted path ++ " is a directory."
  | .unknownLevel text =>
    "Invalid value for " ++ Flag.logLevel.spellings ++ ": " ++ Text.quoted text
      ++ " is not one of " ++ levelChoices ++ "."
  | .strays words =>
    "Got unexpected extra argument" ++ (if words.length = 1 then "" else "s")
      ++ " (" ++ Text.joined " " words ++ ")"
  | .missingPolicy => "Missing option '--policy'."
  | .severalPolicies => "Option '--policy' must be given exactly once."
  | .context fault => fault.message
  | .request fault => fault.message

/-- Whether the overview of the usage stands before the wording of a mistake. -/
def showsOverview : UsageFault → Bool
  -- Faults of the value of an option stand alone.
  | .arguments (.missingValue _) | .arguments (.unwantedValue _) => false
  | _ => true

/-- The text that reports a mistake. -/
def report (fault : UsageFault) : String :=
  -- The overview names the option that shows the whole help text.
  let overview := "Usage: iam-policy-eval [OPTIONS]\nTry 'iam-policy-eval --help' for help.\n\n"
  (if fault.showsOverview then overview else "") ++ "Error: " ++ fault.message ++ "\n"

end UsageFault

/-- A policy to look at, with the files and values that are given for it. -/
structure Job where
  policy : Path
  request : Option Request
  context : Context
  contextFile : Option Path
  config : Option Path
  logLevel : Option Log.Level
  deriving Repr, DecidableEq

/-- What the command is asked to do. -/
inductive Order where
  | help
  | version
  | work (job : Job)
  deriving Repr, DecidableEq

namespace Order

/-- The level of a name in any letter case. -/
def levelOf? (text : String) : Option Log.Level :=
  -- Names that differ in letter case alone fold to one text.
  Log.Level.all.find? fun level => Text.caseFold level.name == Text.caseFold text

/-- The mistake in the value of an option that names a file. -/
def folderFault? (disk : Disk) (flag : Flag) (path : String) : Option UsageFault :=
  -- The empty path leads nowhere, and so to no folder.
  if path ≠ "" ∧ disk.isFolder (Path.ofText path) then some (.folder flag path) else none

/-- The mistake in the values of an option. -/
def valueFault? (disk : Disk) (arguments : Arguments) (flag : Flag) : Option UsageFault :=
  -- Of an option that counts once only the last value is looked at.
  match flag with
  | .policy => (arguments.values flag).findSome? (folderFault? disk flag)
  | .contextFile | .config => (arguments.value? flag).bind (folderFault? disk flag)
  | .logLevel =>
    match arguments.value? flag with
    | none => none
    | some text => if (levelOf? text).isSome then none else some (.unknownLevel text)
  | _ => none

/-- The first mistake in the values of options, or the words that belong to no option. -/
def faultIn? (disk : Disk) (arguments : Arguments) : Option UsageFault :=
  -- Options are looked at in the order in which they are first used.
  match arguments.flags.findSome? (valueFault? disk arguments) with
  | some fault => some fault
  | none => if arguments.strays.isEmpty then none else some (.strays arguments.strays)

/-- The draft of the request that the options describe. -/
def draft (arguments : Arguments) (context : Context) : RequestDraft where
  action := arguments.value? .action
  resource := arguments.value? .resource
  principals := PrincipalKind.all.map fun kind => (kind.name, arguments.value? (.principal kind))
  context := context

/-- The job that the options describe. -/
def jobOf (arguments : Arguments) : Except UsageFault Job :=
  -- The number of policies is checked before the context, and that before the request.
  match arguments.values .policy with
  | [] => .error .missingPolicy
  | _ :: _ :: _ => .error .severalPolicies
  | [policy] => do
    let context ← (Context.ofPairs (arguments.values .context)).mapError UsageFault.context
    let request ← (draft arguments context).request?.mapError UsageFault.request
    return {
      policy := Path.ofText policy
      request
      context
      contextFile := (arguments.value? .contextFile).map Path.ofText
      config := (arguments.value? .config).map Path.ofText
      logLevel := (arguments.value? .logLevel).bind levelOf? }

/-- What arguments ask for. -/
def of (disk : Disk) (words : List String) : Except UsageFault Order := do
  -- Help is given whatever else is wrong with the values, the version only where nothing is.
  let arguments ← (Arguments.of words).mapError UsageFault.arguments
  if arguments.has .help then return .help
  match faultIn? disk arguments with
  | some fault => throw fault
  | none =>
    if arguments.has .version then return .version
    return .work (← jobOf arguments)

end Order

end AccessPolicy.CommandLine
