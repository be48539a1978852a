import DartBlock.Invocation
import DartBlock.Program
import DartBlock.Shape

/-!
# Running blocks

A runner takes blocks one after the other. A block is expanded to its program, the program is
run, and what it printed is shaped into the result. The runner remembers the last program and
the last invocation.
-/

namespace DartBlock

/-- The settings of a runner and what it remembers. -/
structure Runner where
  settings : Settings := {}
  lastProgram : Option String := none
  lastInvocation : Option Invocation := none
  deriving Repr

structure Block where
  snippet : String
  header : Header := .absent
  deriving Repr

/-- Where a block is run: the host, the process it leads to, and how many scratch files have
been made on the host before. -/
structure Site where
  host : Host
  guest : Guest
  made : Nat := 0

/-- The remarks on how a snippet is turned into a program. -/
def Split.notes (s : Split) (mode : Mode) : List Note :=
  if s.isWrapped then [.wrapped]
  else if mode = .value then [.verbatim, .valueUnavailable]
  else [.verbatim]

def synthesize (settings : Settings) (mode : Mode) (snippet : String) : Outcome String :=
  { Outcome.ofExcept (program settings snippet) with
    notes := (Split.ofSnippet settings snippet).notes mode }

def Invocation.shaped (flags : List String) (i : Invocation) : Outcome Shaped :=
  let value := shape flags i.stdout.withoutFinalBreaks
  { result := .ok value, notes := value.note?.toList }

namespace Runner

def cleared (r : Runner) : Runner := { settings := r.settings }

/-- The program that would be run for a block. -/
def expand (r : Runner) (b : Block) : Outcome String × Runner :=
  match b.header.read with
  | .error f => (.fail f, r)
  | .ok d =>
    let program := synthesize (r.settings.withOverrides d) d.mode b.snippet
    (program, match program.result with
      | .ok text => { r with lastProgram := some text }
      | .error _ => r)

/-- Runs a block that asks for no session. -/
def perform (r : Runner) (site : Site) (d : Directives) (snippet : String) :
    Outcome Shaped × Runner :=
  let settings := r.settings.withOverrides d
  let program := synthesize settings d.mode snippet
  match program.result with
  | .error f => ({ program with result := .error f }, r.cleared)
  | .ok text =>
    let invocation := invoke site.host site.guest site.made settings .null (.mode d.mode) text
    (do let _ ← program; let i ← invocation; i.shaped d.flags,
      { r.cleared with
        lastProgram := some text
        lastInvocation := invocation.result.toOption })

def execute (r : Runner) (site : Site) (b : Block) : Outcome Shaped × Runner :=
  match b.header.read with
  | .error f => (.fail f, r.cleared)
  | .ok d =>
    match d.wantsSession with
    | .error m => (.fail (.mishap m), r.cleared)
    | .ok true => (.fail (.session (.text d.session.display)), r.cleared)
    | .ok false => r.perform site d b.snippet

end Runner

/-- The result of a block as data: a value, or the kind and the message of a fault. -/
structure BlockResult where
  failed : Bool
  value : Option Shaped := none
  errorMessage : Datum := .null
  errorKind : Option String := none
  program : Option String := none
  stderr : String := ""
  deriving Repr

namespace BlockResult

/-- The text that reports a failed block: the message, behind the kind of fault unless it starts
with that. -/
def formatError (b : BlockResult) : Except Mishap String :=
  if !b.failed then .ok ""
  else if b.errorMessage.isLong then .error .longNumber
  else
    let message := if b.errorMessage.isTrue then b.errorMessage.display else "Unknown error"
    match b.errorKind with
    | some kind =>
      .ok (if kind.toList.isPrefixOf message.toList then message else kind ++ ": " ++ message)
    | none => .ok message

def ofRun (result : Except Fault Shaped) (r : Runner) : BlockResult :=
  match result with
  | .ok value => {
      failed := false
      value := some value
      program := r.lastProgram
      stderr := (r.lastInvocation.map Invocation.stderr).getD "" }
  | .error f => {
      failed := true
      errorMessage := .text f.message
      errorKind := some f.kind
      program := r.lastProgram
      stderr := (f.failure?.map ExecutionFailure.stderr).getD "" }

end BlockResult

/-- Runs a block; a fault that is reported becomes part of the result, and a mishap does not. -/
def Runner.run (r : Runner) (site : Site) (b : Block) : Outcome BlockResult × Runner :=
  let (outcome, after) := r.execute site b
  let result := match outcome.result with
    | .error f => if f.isReported then .ok (.ofRun (.error f) after) else .error f
    | .ok value => .ok (.ofRun (.ok value) after)
  ({ outcome with result }, after)

end DartBlock
