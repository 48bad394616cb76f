import AccessPolicy.Config
import AccessPolicy.Disk.Tree
import AccessPolicy.Policy.Reader

/-! Policies, contexts and settings in files. -/

namespace AccessPolicy

/-- Why something cannot be loaded from a file. -/
inductive LoadFault where
  | file (fault : FileFault)
  | policy (rejection : Policy.Rejection)
  | context (path : Path) (fault : Context.Fault)
  | config (kind : String) (path : Path) (faults : List FieldFault) (advice : Option String)
  deriving Repr

namespace LoadFault

/-- The wording of a fault. -/
def message : LoadFault → String
  -- Advice stands apart from the list of faults.
  | .file fault => fault.message
  | .policy rejection => rejection.report.message
  | .context path fault => "Invalid context file " ++ path.text ++ ": " ++ fault.message
  | .config kind path faults advice =>
    "Invalid " ++ kind ++ " in " ++ path.text ++ ":\n" ++ FieldFault.report faults
      ++ (advice.map fun text => "\n\n" ++ text).getD ""

end LoadFault

/-- What loading a policy yields, and what the log records of it. -/
structure PolicyLoading where
  result : Except LoadFault Policy.Document
  events : List Log.Event

/-- Loads a policy. -/
def Policy.Document.load (reserve : Text.Reserve) (disk : Disk) (path : Path) : PolicyLoading :=
  -- The events of reading come before the one of loading.
  match disk.readTree reserve "policy" path with
  | .error fault => ⟨.error (.file fault), []⟩
  | .ok tree =>
    let reading := Document.read tree
    match reading.result with
    | .error rejection => ⟨.error (.policy rejection), reading.events⟩
    | .ok document =>
      let loaded := Log.Event.policyLoaded path.text document.statements.length
      ⟨.ok document, reading.events ++ [loaded]⟩

/-- Loads the context of a resource, or of none. -/
def Context.load (reserve : Text.Reserve) (disk : Disk) (path : Path) (resource : Option String) :
    Except LoadFault Context := do
  -- Faults of the file are found before those of the context.
  let tree ← (disk.readTree reserve "context" path).mapError LoadFault.file
  (Context.ofTree tree resource).mapError (LoadFault.context path)

namespace Config

/-- Loads settings from a file of some kind, with advice for the case that they are faulty. -/
def loadAs (reserve : Text.Reserve) (disk : Disk) (kind : String) (advice : Option String)
    (path : Path) : Except LoadFault Config := do
  -- Faults of the file are found before those of the settings.
  let tree ← (disk.readTree reserve kind path).mapError LoadFault.file
  (ofTree tree).mapError fun faults => .config kind path faults advice

/-- Loads settings. -/
def load (reserve : Text.Reserve) (disk : Disk) (path : Path) : Except LoadFault Config :=
  -- Another file can be chosen by an option.
  loadAs reserve disk "config" (some "Fix the config file or pass --config with another path.") path

end Config

end AccessPolicy
