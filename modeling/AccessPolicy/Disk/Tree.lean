import AccessPolicy.Disk.Basic
import AccessPolicy.Json.Reader
import AccessPolicy.Text.Capital
import AccessPolicy.Text.Utf8

/-! Reading of files that hold JSON. -/

namespace AccessPolicy

/-- Why a file holds no JSON. -/
inductive FileProblem where
  | missing
  | unreadable (reason : String)
  | malformed (reason : String)
  | longNumber (reason : String)
  deriving Repr, DecidableEq

/-- A problem with a file of some kind. -/
structure FileFault where
  kind : String
  path : Path
  problem : FileProblem
  deriving Repr, DecidableEq

namespace FileFault

/-- The wording of a fault. -/
def message (fault : FileFault) : String :=
  -- Only the wording for numbers that are too long does not name the file.
  match fault.problem with
  | .missing => Text.capitalized fault.kind ++ " file not found at " ++ fault.path.text
  | .unreadable reason =>
    "Could not read " ++ fault.kind ++ " file " ++ fault.path.text ++ ": " ++ reason
  | .malformed reason =>
    "Invalid JSON in " ++ fault.kind ++ " file " ++ fault.path.text ++ ": " ++ reason
  | .longNumber reason => reason

end FileFault

/-- A text in which line feeds alone end lines. -/
def unifiedLines : List Char → List Char
  -- A carriage return ends a line as well, alone or before a line feed.
  | [] => []
  | '\r' :: '\n' :: rest => '\n' :: unifiedLines rest
  | '\r' :: rest => '\n' :: unifiedLines rest
  | c :: rest => c :: unifiedLines rest

/-- The problem with a file whose characters are no JSON document. -/
def FileProblem.ofFault (chars : List Char) (fault : Json.Fault) : FileProblem :=
  -- A number that is too long is no mistake in the document.
  match fault.flaw with
  | .longNumber _ => .longNumber fault.flaw.reason
  | _ => .malformed (fault.message chars)

/-- The value that the bytes of a file hold. -/
def treeOfBytes (reserve : Text.Reserve) (bytes : List UInt8) : Except FileProblem Json :=
  -- Faults of the encoding are found before those of the document.
  match Text.Utf8.decode bytes with
  | .error fault => .error (.unreadable (fault.message bytes))
  | .ok decoded =>
    let chars := unifiedLines decoded
    (Json.read reserve chars).mapError (FileProblem.ofFault chars)

/-- The value in the file that a path leads to. -/
def Disk.readTree (reserve : Text.Reserve) (disk : Disk) (kind : String) (path : Path) :
    Except FileFault Json :=
  -- A folder is as good as nothing.
  match disk.bytes? path with
  | none => .error ⟨kind, path, .missing⟩
  | some bytes => (treeOfBytes reserve bytes).mapError fun problem => ⟨kind, path, problem⟩

end AccessPolicy
