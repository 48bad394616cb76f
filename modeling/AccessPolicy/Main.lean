import AccessPolicy.CommandLine.Inputs
import AccessPolicy.Time.Instant
import Std.Time.DateTime.Timestamp

/-! The command: reads the files that its run depends on, and writes what the run yields. -/

namespace AccessPolicy.CommandLine

/-- The text of a location. -/
def absoluteText (location : Location) : String :=
  -- Locations are counted from the root.
  "/" ++ Text.joined "/" location

/-- Adds what stands at a location to a disk, and tells whether it is a folder. -/
def lookAt (disk : Disk) (location : Location) : IO (Disk × Bool) := do
  -- What cannot be read is as good as nothing.
  try
    let place ← IO.FS.realPath (absoluteText location)
    if ← place.isDir then return ({ disk with folders := location :: disk.folders }, true)
    if (disk.content? location).isSome then return (disk, false)
    let bytes ← IO.FS.readBinFile place
    return ({ disk with files := (location, bytes.toList) :: disk.files }, false)
  catch _ => return (disk, false)

/-- Adds what stands on a path to a disk. -/
def lookAlong (disk : Disk) (location : Location) : List String → IO Disk
  -- Nothing stands behind what is not a folder.
  | [] => return disk
  | ".." :: later => lookAlong disk location.dropLast later
  | name :: later => do
    let (disk, isFolder) ← lookAt disk (location ++ [name])
    if isFolder then lookAlong disk (location ++ [name]) later else return disk

/-- Adds what stands on a path to a disk, wherever the path starts. -/
def look (disk : Disk) (path : Path) : IO Disk :=
  -- Relative paths start in the current folder.
  lookAlong disk (if path.slashes = 0 then disk.start else []) path.names

/-- Puts bytes behind those of a file, which is created with its folders where it is missing. -/
def save (addition : Location × List UInt8) : IO Unit := do
  -- Other programs may have written to the file in the meantime.
  IO.FS.createDirAll (absoluteText addition.1.dropLast)
  let file ← IO.FS.Handle.mk (absoluteText addition.1) .append
  file.write ⟨addition.2.toArray⟩

/-- The usual place of the settings of a user. -/
def usualPath : IO Path := do
  -- The folder for settings may be chosen by the environment.
  let home := (← IO.getEnv "HOME").getD "/"
  let chosen := (← IO.getEnv "XDG_CONFIG_HOME").getD ""
  let folder :=
    if (Text.trim chosen.toList).isEmpty then (Path.ofText home).child ".config"
    else Path.ofText chosen
  return (folder.child "iam-policy-eval").child "config.json"

/-- The present time in the format of the log. -/
def presentTime : IO String := do
  -- The log counts no finer than milliseconds.
  let millis := (← Std.Time.Timestamp.now).toMillisecondsSinceUnixEpoch.val
  return (Time.Instant.mk (millis * 1000) 0).millisecondText

end AccessPolicy.CommandLine

open AccessPolicy CommandLine in
/-- Runs the command. -/
def main (words : List String) : IO UInt32 := do
  -- The file of the log is known only once the settings are read.
  let usual ← usualPath
  let start := (Path.ofText (← IO.currentDir).toString).names
  let named ← (usual :: namedPaths words).foldlM look (Disk.mk start [] [])
  let reserve := reserveFor named words
  let disk ← (logPath? reserve usual named words).toList.foldlM look named
  let result := run reserve usual (← presentTime) disk words
  (additions disk result.disk).forM save
  (← IO.getStdout).putStr result.output
  (← IO.getStderr).putStr result.error
  return result.exitCode.toUInt32
