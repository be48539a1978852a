import DartBlock.EntryPoint
import DartBlock.Settings
import DartBlock.Template

/-!
# Programs

How a snippet becomes a program: one that declares an entry point stands as it is behind the
prelude, any other is put into the wrapper template.
-/

namespace DartBlock

/-- The parts a program is made of. -/
structure Split where
  wrapper : String
  top : String
  main : String
  deriving DecidableEq, Repr

namespace Split

def isWrapped (s : Split) : Bool := s.wrapper != Scaffold.identity

/-- The parts of the program for a snippet. -/
def ofSnippet (settings : Settings) (snippet : String) : Split :=
  if hasEntryPoint snippet then ⟨Scaffold.identity, settings.preludeImports, snippet⟩
  else ⟨settings.wrapperTemplate, settings.wrapperImports, snippet⟩

end Split

namespace Template

def slots (settings : Settings) (main : String) : Slot → String
  | .percent => "%"
  | .asyncMarker => settings.asyncMarker
  | .awaitMarker => settings.awaitMarker
  | .body => main

/-- Refuses a template that has no place for the snippet. -/
def validate (wrapper : String) : Except ConfigurationFault Unit :=
  if hasBody wrapper then .ok () else .error .noBodySlot

/-- The top followed by the filled template. -/
def render (settings : Settings) (top wrapper main : String) :
    Except ConfigurationFault String :=
  (validate wrapper).map fun _ => top ++ fill (slots settings main) wrapper

end Template

def program (settings : Settings) (snippet : String) : Except ConfigurationFault String :=
  let s := Split.ofSnippet settings snippet
  Template.render settings s.top s.wrapper s.main

end DartBlock
