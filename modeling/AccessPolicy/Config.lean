import AccessPolicy.Context
import AccessPolicy.Disk.Path
import AccessPolicy.FieldFault
import AccessPolicy.Log.Event

/-! Settings for the log and for evaluations. -/

namespace AccessPolicy

/-- The least level of events in the log, the file it is written to, and a context to start with. -/
structure Config where
  logLevel : Log.Level
  logFile : Option Path
  defaultContext : Context
  deriving Repr, DecidableEq

namespace Config

/-- The settings where none are given. -/
def default : Config := ⟨.warning, none, Context.empty⟩

/-- The faults of members that a record does not have. -/
def unknownFields (known : List String) (members : List (String × Json)) : List FieldFault :=
  -- They are in the order of the members.
  ((Json.names members).filter fun name => !known.contains name).map fun name =>
    ⟨[name], .unknownField⟩

/-- A record whose members are all known. -/
def onlyKnown {α : Type} (known : List String) (members : List (String × Json))
    (checked : Checked α) : Checked α :=
  -- The faults of known members come first.
  match checked, unknownFields known members with
  | .ok value, [] => .ok value
  | checked, unknown => .error (checked.faults ++ unknown)

/-- Reads the level from which on events are logged. -/
def levelOf (value : Option Json) : Checked Log.Level :=
  -- Warnings are always logged.
  match value with
  | none => .ok default.logLevel
  | some value => Checked.choice "log_level" Log.Level.named (some value)

/-- Reads the file that the log is written to. -/
def fileOf : Option Json → Checked (Option Path)
  -- Without a file the log is written to the standard error stream.
  | none | some .null => .ok none
  | some (.string text) => .ok (some (Path.ofText text))
  | some _ => Checked.fail "log_file" .notPath

/-- Reads the settings for the log. -/
def loggingOf (members : List (String × Json)) : Checked (Log.Level × Option Path) :=
  -- The record has two members.
  onlyKnown ["log_level", "log_file"] members
    (Checked.both (levelOf (Json.find? "log_level" members))
      (fileOf (Json.find? "log_file" members)))

/-- Reads the context that every request has. -/
def contextOf : Option Json → Checked Context
  -- Without the member the context is empty.
  | none => .ok Context.empty
  | some (.object members) =>
    match Context.ofMembers members with
    | .ok context => .ok context
    | .error fault => Checked.fail "default_context" (.refused fault.message)
  | some _ => Checked.fail "default_context" .notObject

/-- Reads the settings for evaluations. -/
def evaluationOf (members : List (String × Json)) : Checked Context :=
  -- The record has one member.
  onlyKnown ["default_context"] members (contextOf (Json.find? "default_context" members))

/-- Reads a record within a record, which takes a given value where it is missing. -/
def recordOf {α : Type} (name type : String) (missing : α)
    (read : List (String × Json) → Checked α) : Option Json → Checked α
  -- The name leads to the faults inside.
  | none => .ok missing
  | some (.object members) =>
    (read members).mapError fun faults => faults.map (FieldFault.within name)
  | some _ => Checked.fail name (.notRecord type)

/-- Reads settings. -/
def ofTree : Json → Checked Config
  -- All faults are reported together.
  | .object members =>
    let logging := recordOf "logging" "LoggingConfig" (default.logLevel, default.logFile)
      loggingOf (Json.find? "logging" members)
    let evaluation := recordOf "evaluation" "EvaluationConfig" default.defaultContext
      evaluationOf (Json.find? "evaluation" members)
    (onlyKnown ["logging", "evaluation"] members (Checked.both logging evaluation)).map
      fun (logging, context) => ⟨logging.1, logging.2, context⟩
  | _ => .error [⟨[], .notRecord "AppConfig"⟩]

end Config

end AccessPolicy
