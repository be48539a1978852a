import DartBlock.Fault
import DartBlock.Scaffold

/-!
# Settings

The settings that blocks are run with, and how they are read from a mapping. Keys may be
written with hyphens or underscores; of several entries with one key the last counts.
-/

namespace DartBlock

/-- The settings of one or more runs. A command that is no text shows only when it is to be
run. -/
structure Settings where
  command : Datum := .text "dart"
  wrapperTemplate : String := Scaffold.template
  wrapperImports : String := Scaffold.wrapperImports
  preludeImports : String := Scaffold.preludeImports
  asyncMarker : String := "async"
  awaitMarker : String := "await"
  scratchDirectory : Datum := .null
  keepScratch : Bool := false
  deriving Repr

namespace Settings

/-- The keys whose values have to be texts, in the order they are checked. -/
def textKeys : List String :=
  ["command", "wrapper_template", "wrapper_imports", "prelude_imports", "async_marker",
    "await_marker"]

def keys : List String := textKeys ++ ["scratch_dir", "keep_scratch"]

/-- The key an entry sets: its text with underscores for hyphens. -/
def keyOf (key : Datum) : String :=
  String.ofList (key.display.toList.map fun c => if c = '-' then '_' else c)

/-- The last value given for a key. -/
def given? (entries : Entries) (key : String) : Option Datum :=
  (entries.reverse.find? fun e => keyOf e.1 == key).map (·.2)

/-- The keys that are none of the settings, each once, in order. -/
def unknownKeys (entries : Entries) : List String :=
  ((entries.map fun e => keyOf e.1).filter fun k => !keys.contains k).eraseDups.mergeSort

/-- The first text key with a value that is no text. -/
def misfit? (entries : Entries) : Option String :=
  textKeys.find? fun k => (given? entries k).any fun v => v.text?.isNone

def textFor (entries : Entries) (key default : String) : String :=
  ((given? entries key).bind Datum.text?).getD default

def ofEntries (entries : Entries) : Except ConfigurationFault Settings :=
  if unknownKeys entries ≠ [] then .error (.unknownKeys (unknownKeys entries))
  else match misfit? entries with
    | some key => .error (.notText key)
    | none =>
      let d : Settings := {}
      .ok {
        command := (given? entries "command").getD d.command
        wrapperTemplate := textFor entries "wrapper_template" d.wrapperTemplate
        wrapperImports := textFor entries "wrapper_imports" d.wrapperImports
        preludeImports := textFor entries "prelude_imports" d.preludeImports
        asyncMarker := textFor entries "async_marker" d.asyncMarker
        awaitMarker := textFor entries "await_marker" d.awaitMarker
        scratchDirectory := (given? entries "scratch_dir").getD d.scratchDirectory
        keepScratch := ((given? entries "keep_scratch").map Datum.isTrue).getD d.keepScratch }

end Settings

end DartBlock
