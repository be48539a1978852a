import DartBlock.Directives
import DartBlock.Outcome
import DartBlock.Text.Search

/-!
# Invocations

Running a complete program once: the program is written to a scratch file, one process is
started with the command, the file and the mode, and the file is removed unless it is to be
kept. The stages follow each other in a fixed order, and the first that fails ends the work;
only the removal of the file is done in any case.
-/

namespace DartBlock

/-- What one process produced, and its scratch file if that is kept. -/
structure Invocation where
  mode : Mode
  command : List String
  stdout : String
  stderr : String
  exitCode : Int
  kept : Option String
  deriving DecidableEq, Repr

def resolveCommand (host : Host) (command : String) : Outcome (List String) :=
  match Shell.words command with
  | .error reason => .refuse (.badCommand command reason)
  | .ok [] => .refuse .emptyCommand
  | .ok (name :: rest) => do
    .request (.lookup name)
    match host.which name with
    | some path => return path :: rest
    | none => .refuse (.commandNotFound name)

namespace Invocation

/-- Sessions are refused. No value, an empty text and the word for no session are none. -/
def checkSession (session : Datum) : Outcome Unit :=
  match session with
  | .null => pure ()
  | x =>
    if x.isLong then .fail (.mishap .longNumber)
    else if x.folded = "" ∨ x.folded = "none" then pure ()
    else .fail (.session (.text x.display))

/-- The text of a command. What a condition takes as false is no command at all. -/
def commandText (command : Datum) : Outcome String :=
  match command.text? with
  | some text => return text
  | none => if command.isTrue then .fail (.mishap .noCommand) else return ""

def checkMode (mode : Datum) : Outcome Mode :=
  match mode.text?.bind Mode.ofWord? with
  | some m => return m
  | none => if mode.isLong then .fail (.mishap .longNumber) else .refuse (.badMode mode)

def create (host : Host) (made : Nat) (directory : Datum) : Outcome String :=
  match host.mishap? (.directory directory) with
  | some m => do
    .request (.create directory none)
    .fail (.mishap m)
  | none =>
    match host.creationError with
    | some reason => do
      .request (.create directory none)
      .fail (.execution { summary := "Cannot create scratch file: " ++ reason })
    | none => do
      .request (.create directory (some (scratchPath made)))
      return scratchPath made

/-- Removes a scratch file; that it cannot be removed is no fault. -/
def remove (host : Host) (path : String) : Outcome Unit := do
  .request (.remove path)
  match host.removalError with
  | some reason => .remark (.cleanupFailed path reason)
  | none => pure ()

/-- Writes the program to its scratch file. If the machine fails to write it, the file is removed;
if the program has no UTF-8, the file stays. -/
def write (host : Host) (path program : String) : Outcome Unit :=
  match host.mishap? (.text program) with
  | some m => do
    .request (.write path program false)
    .fail (.mishap m)
  | none =>
    match host.writeError with
    | some reason => do
      .request (.write path program false)
      remove host path
      .fail (.execution {
        summary := "Cannot write scratch file " ++ path ++ ": " ++ reason })
    | none => .request (.write path program true)

structure Exit where
  stdout : String
  stderr : String
  code : Int

def start (host : Host) (guest : Guest) (argv : List String) : Outcome Exit := do
  .request (.run argv)
  match host.mishap? (.words argv) with
  | some m => .fail (.mishap m)
  | none =>
    match guest with
    | .unstartable reason =>
      .fail (.execution {
        summary := "Cannot run " ++ argv.headD "" ++ ": " ++ reason
        command := argv })
    | .ends stdout stderr code =>
      return { stdout := captured stdout, stderr := captured stderr, code }

def dispose (host : Host) (keep : Bool) (path : String) : Outcome Unit :=
  if keep then .remark (.kept path) else remove host path

/-- Whether the error output shows that the program did not know its mode. -/
def rejected (stderr : String) : Bool :=
  Text.occurs Scaffold.rejectionMarker.toList stderr.toList

def judge (mode : Mode) (base argv : List String) (exit : Exit) : Outcome Unit :=
  if exit.code = 0 then pure ()
  else
    let failure (summary : String) : ExecutionFailure :=
      { summary, exitCode := some exit.code, stderr := exit.stderr, command := argv }
    if rejected exit.stderr then
      .fail (.dispatch (failure ("Dart program rejected result mode " ++ mode.word.inQuotes)))
    else
      let name := " ".intercalate base
      .fail (.execution (failure
        ("Dart execution failed: " ++ if name = "" then argv.headD "" else name)))

end Invocation

open Invocation in
/-- Runs a program; `made` scratch files have been made on the host before. -/
def invoke (host : Host) (guest : Guest) (made : Nat) (settings : Settings)
    (session mode : Datum) (program : String) : Outcome Invocation := do
  checkSession session
  let mode ← checkMode mode
  let base ← resolveCommand host (← commandText settings.command)
  let path ← create host made settings.scratchDirectory
  write host path program
  let argv := base ++ [path, mode.word]
  .remark (.started argv)
  let exit ← (start host guest argv).andAlways (dispose host settings.keepScratch path)
  .remark (.ended exit.code exit.stdout.length exit.stderr.length)
  judge mode base argv exit
  return {
    mode
    command := argv
    stdout := exit.stdout
    stderr := exit.stderr
    exitCode := exit.code
    kept := if settings.keepScratch then some path else none }

end DartBlock
