import DescriptiveLinks.Command.Run

/-! # The command

Gathers what a run depends on, and shows its outcome. The variable `LINKTEXT_LOG` holds the filter
of the log. -/

namespace DescriptiveLinks.Command

/-- Reads a stream to its end. -/
partial def readToEnd (stream : IO.FS.Stream) (bytes : ByteArray) : IO ByteArray := do
  let more ← stream.read 65536
  if more.isEmpty then return bytes else readToEnd stream (bytes ++ more)

/-- Carries out a reading. Of the two causes that share a constructor, reading a directory has code
21. -/
def contentsOf (reading : IO ByteArray) : IO Contents := do
  try
    return .ok (← reading)
  catch e =>
    match e with
    | .noFileOrDirectory .. => return .error .notFound
    | .inappropriateType _ code _ =>
      return .error (if code = 21 then .isDirectory else .notDirectory)
    | e => return .error (.other (toString e))

/-- Reads the files that a run may ask for. -/
def readFiles (paths : List String) : IO Files := do
  let contents ← paths.mapM fun (path : String) =>
    return (path, ← contentsOf (IO.FS.readBinFile path))
  return fun path => (contents.lookup path).getD (.error .notFound)

/-- The paths that a run may read, and whether it reads the standard input. -/
def Request.sources : Request → List String × Bool
  | .check a => (a.config.toList ++ a.inputs, a.inputs.isEmpty)
  | _ => ([], false)

end DescriptiveLinks.Command

open DescriptiveLinks DescriptiveLinks.Command in
/-- Runs the command. -/
def main (arguments : List String) : IO UInt32 := do
  let (paths, readsInput) := (Request.ofArguments arguments).sources
  let files ← readFiles paths
  let stdin ← IO.getStdin
  let input ← contentsOf (if readsInput then readToEnd stdin .empty else pure .empty)
  let outcome := run arguments files input
  let filter := LogFilter.ofSetting (← IO.getEnv "LINKTEXT_LOG")
  for line in outcome.log filter ++ outcome.notices do
    IO.eprintln line
  IO.print outcome.stdout
  return outcome.exitCode.toUInt32
