import AccessPolicy.CommandLine.Run

/-! The files that a run of the command depends on. -/

namespace AccessPolicy.CommandLine

/-- The paths of the files that arguments name. -/
def namedPaths (words : List String) : List Path :=
  -- Arguments that cannot be taken apart name none.
  match Arguments.of words with
  | .error _ => []
  | .ok arguments =>
    ([Flag.policy, .contextFile, .config].flatMap arguments.values).map Path.ofText

/-- The path of the file that a run logs to. -/
def logPath? (reserve : Text.Reserve) (usual : Path) (disk : Disk) (words : List String) :
    Option Path :=
  -- Only the settings name it.
  match Order.of disk words with
  | .ok (.work job) =>
    match job.settings reserve usual disk with
    | .ok config => config.logFile
    | .error _ => none
  | _ => none

/-- The characters that are escaped in a text. -/
def escapedChars : List Char → List Char
  -- A pair of escapes can stand for an ideograph.
  | '\\' :: 'u' :: digits =>
    match Json.readUnicodeEscape .first digits digits with
    | .ok (c, _) => c :: escapedChars digits
    | .error _ => escapedChars digits
  | _ :: rest => escapedChars rest
  | [] => []

/-- The reserve for a run, which is apart from arguments and from texts in files. -/
def reserveFor (disk : Disk) (words : List String) : Text.Reserve :=
  -- Bytes that are no text hold no characters.
  let decoded := disk.files.filterMap fun file => (Text.Utf8.decode file.2).toOption
  let texts := decoded ++ words.map String.toList
  .apartFrom (texts ++ texts.map escapedChars)

/-- The files that a run changes, with the bytes that it puts behind their old ones. -/
def additions (before after : Disk) : List (Location × List UInt8) :=
  -- A file that is created empty is among them.
  (after.files.filter fun file => before.content? file.1 != some file.2).map fun file =>
    (file.1, file.2.drop ((before.content? file.1).getD []).length)

end AccessPolicy.CommandLine
