import DartBlock.CommandLine.Run

/-!
# The program

The outer layer of the command line: it fetches what the arguments name and prints the report.
No commands are looked up here, so a block can be expanded but its program is not found.
-/

namespace DartBlock.CommandLine

/-- The reason behind an error of the machine. -/
def refusalOf : IO.Error → Refusal
  | .noFileOrDirectory .. => .missing
  | .permissionDenied .. => .denied
  | .inappropriateType _ code _ => if code = 21 then .isDirectory else .notDirectory
  | .invalidArgument .. => .longName
  | _ => .missing

def fetch (path : String) : IO (Except Refusal ByteArray) := do
  try
    return .ok (← IO.FS.readBinFile path)
  catch e => return .error (refusalOf e)

/-- All bytes of a stream, behind those read before. -/
partial def readAll (stream : IO.FS.Stream) (before : ByteArray) : IO ByteArray := do
  let bytes ← stream.read 65536
  if bytes.isEmpty then return before else readAll stream (before ++ bytes)

/-- What the options name. -/
def gather (o : Options) : IO (ByteArray × List (Path × Except Refusal ByteArray)) := do
  let names := (Options.given o.config).toList
  let (stdin, names) ←
    if o.file = stdinName then pure (← readAll (← IO.getStdin) .empty, names)
    else pure (ByteArray.empty, o.file :: names)
  let files ← names.mapM fun name => do
    let path := Path.ofString name
    return (path, ← fetch path.text)
  return (stdin, files)

def surroundings (arguments : List String) : IO Surroundings := do
  let (stdin, files) ← match readArguments arguments with
    | .ok (.run o) => gather o
    | _ => pure (ByteArray.empty, [])
  return {
    read := fun p => (files.lookup p).getD (.error .missing)
    stdin
    host := { which := fun _ => none }
    guest := .unstartable "not supported"
    debug := (← IO.getEnv "OBDART_DEBUG").any (· ≠ "") }

end DartBlock.CommandLine

def main (arguments : List String) : IO UInt32 := do
  let surroundings ← DartBlock.CommandLine.surroundings arguments
  let report := DartBlock.CommandLine.run surroundings arguments
  IO.print report.stdout
  IO.eprint report.stderr
  return match report.ending with
    | .exit status => status.toUInt32
    | .mishap _ => 1
