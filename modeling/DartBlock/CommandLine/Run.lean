import DartBlock.CommandLine.Help
import DartBlock.CommandLine.Options
import DartBlock.Runner
import DartBlock.Settings.File

/-!
# Running the command line

From the arguments to what is printed and how the program ends. The program reads its source and
its settings, and prints the program of the block or runs it and prints the result. Faults are
reported, except for mishaps, which end the program without a status wherever they come up.
-/

namespace DartBlock.CommandLine

/-- Where the program runs: its files, its standard input, the host and the process it leads to,
and whether remarks are shown. -/
structure Surroundings where
  read : ReadFile
  stdin : ByteArray
  host : Host
  guest : Guest
  debug : Bool := false

inductive Ending
  | exit (status : Nat)
  | mishap (m : Mishap)
  deriving DecidableEq, Repr

structure Report where
  ending : Ending
  stdout : String := ""
  stderr : String := ""
  events : List Event := []
  deriving Repr

namespace Report

def success (stdout : String) : Report := { ending := .exit 0, stdout }

def failure (message : String) : Report := { ending := .exit 1, stderr := message ++ "\n" }

def error (reason : String) : Report := failure ("Error: " ++ reason)

/-- The end of a program that did not come to a result. -/
def ofFault : Fault → Report
  | .mishap m => { ending := .mishap m }
  | f => error f.message

def misuse (f : UsageFault) : Report where
  ending := .exit 2
  stderr := usage ++ programName ++ ": error: " ++ f.message ++ "\n"

/-- The report with the requests and the remarks of some work before it. -/
def after {α : Type} (r : Report) (debug : Bool) (work : Outcome α) : Report :=
  { r with
    stderr := (if debug then String.join (work.notes.map Note.line) else "") ++ r.stderr
    events := work.events ++ r.events }

end Report

def stdinName : String := "-"

def Surroundings.source (w : Surroundings) (file : String) : Except TextFault String :=
  if file = stdinName then (textOf w.stdin).mapError .mishap
  else w.read.text (Path.ofString file)

namespace Options

/-- An option that is given and not empty. -/
def given (value : Option String) : Option String := value.filter (· ≠ "")

def settings (o : Options) (read : ReadFile) : Except Settings.FileFault Settings :=
  match given o.config with
  | some path => Settings.ofFile read path
  | none => .ok {}

def entries (o : Options) : Entries :=
  [("results", o.results), ("cmd", o.command), ("session", o.session)].filterMap fun e =>
    (given e.2).map fun value => (Datum.text e.1, Datum.text value)

end Options

/-- Prints the program of a block, if it can be written. -/
def expand (w : Surroundings) (settings : Settings) (b : Block) : Report :=
  let work := (({ settings } : Runner).expand b).1
  let report : Report := match work.result with
    | .ok program =>
      match w.host.mishap? (.text program) with
      | some m => { ending := .mishap m }
      | none => .success program
    | .error f => .ofFault f
  report.after w.debug work

/-- Runs a block and prints its result; the error output of the process is passed on. -/
def execute (w : Surroundings) (format : Format) (settings : Settings) (b : Block) : Report :=
  let work := (({ settings } : Runner).run { host := w.host, guest := w.guest } b).1
  let report : Report := match work.result with
    | .error f => .ofFault f
    | .ok b =>
      match b.failed, b.value with
      | false, some value =>
        { Report.success (format.print value ++ "\n") with stderr := b.stderr }
      | _, _ =>
        match b.formatError with
        | .ok message => .failure message
        | .error m => { ending := .mishap m }
  report.after w.debug work

def perform (w : Surroundings) (o : Options) : Report :=
  match w.source o.file with
  | .error (.refused r) =>
    .error ("cannot read " ++ o.file ++ ": " ++ r.message (Path.ofString o.file))
  | .error (.mishap m) => { ending := .mishap m }
  | .ok snippet =>
    match o.settings w.read with
    | .error (.cause c) => .error c.message
    | .error (.mishap m) => { ending := .mishap m }
    | .ok settings =>
      match Directives.ofEntries o.entries with
      | .error f => .ofFault f
      | .ok d =>
        let b : Block := { snippet, header := .directives d }
        if o.expand then expand w settings b else execute w o.format settings b

def run (w : Surroundings) (arguments : List String) : Report :=
  match readArguments arguments with
  | .error f => .misuse f
  | .ok .help => .success help
  | .ok (.run o) => perform w o

end DartBlock.CommandLine
