import DartBlock.Files
import DartBlock.Settings
import DartBlock.Yaml.Value

/-!
# Settings files

Settings are kept in a file with a YAML mapping. A document that is nothing, or empty, gives the
default settings.
-/

namespace DartBlock.Settings

/-- Why a file gives no settings: a fault that is reported, or a mishap that is not. -/
inductive FileFault
  | cause (c : ConfigurationFault)
  | mishap (m : Mishap)
  deriving Repr

/-- The settings that a value describes; `name` names its file. The names of its keys have to be
written to be looked at. -/
def ofDatum (name : String) (value : Datum) : Except FileFault Settings :=
  if value.isTrue then
    match value with
    | .mapping entries =>
      if entries.any fun e => e.1.isLong then .error (.mishap .longNumber)
      else (ofEntries entries).mapError .cause
    | _ => .error (.cause (.noMapping name))
  else (ofEntries []).mapError .cause

def ofSource (name : String) (text : Yaml.Source) : Except FileFault Settings :=
  match Yaml.read text with
  | .ok value => ofDatum name value
  | .error .invalid => .error (.cause (.invalidYaml name))
  | .error .notUtf8 => .error (.mishap .notUtf8)
  | .error t => .error (.mishap (.yaml t))

def ofFile (read : ReadFile) (path : String) : Except FileFault Settings :=
  let p := Path.ofString path
  match read.bytes p with
  | .ok bytes => ofSource p.text (.ofBytes bytes)
  | .error (.refused r) => .error (.cause (.unreadableFile p.text (r.message p)))
  | .error (.mishap m) => .error (.mishap m)

end DartBlock.Settings
