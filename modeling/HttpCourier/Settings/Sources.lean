import HttpCourier.Json.Reader
import HttpCourier.Settings
import HttpCourier.Settings.EnvFile

/-!
# HttpCourier.Settings.Sources

**Where settings come from**: from arguments, from variables of the environment, and from a file
of variables, each of which counts more than the next. Names are told apart without regard to
letter case; those of variables start with a common word.

The value of a variable is a text, except that the words that mark a header as sensitive are
written as a JSON list.
-/

namespace HttpCourier

open Json (Value Members)
open EnvFile (Entry)

/-- Why there are no settings. -/
inductive SettingsFault where
  /-- The value of a variable is no JSON. -/
  | unreadable (field source : String)
  /-- The value of a variable is nested too deep. -/
  | tooDeep
  | rejected (r : Schema.Rejection)

/-- The wording of a complaint about a variable that is no JSON. -/
def SettingsFault.unreadableMessage (field source : String) : Text :=
  Text.ofString ("error parsing value for field \"" ++ field ++ "\" from source \"" ++ source ++ "\"")

namespace Settings

/-- With what the name of a variable starts. -/
def variableStart : String := "httpexec_"

/-- The setting whose variables hold JSON. -/
def listName : String := "sensitive_header_patterns"

/-- The name of a source in complaints: the environment. -/
def environmentSource : String := "EnvSettingsSource"

/-- The name of a source in complaints: the file. -/
def fileSource : String := "DotEnvSettingsSource"

/-- The value of the last variable of a name in lower case. -/
def lookup? (name : Text) (entries : List Entry) : Option Text :=
  ((entries.reverse.find? fun e => Text.lower e.1 = name).map Prod.snd).join

/-- The value of a setting, read from a variable; a null counts as none. -/
def variableValue (field source : String) (t : Text) : Except SettingsFault (Option Value) :=
  if field = listName then
    match Json.read t with
    | .ok .null => .ok none
    | .ok v => .ok (some v)
    | .error .tooDeep => .error .tooDeep
    | .error _ => .error (.unreadable field source)
  else .ok (some (.string t))

/-- The settings that variables give. -/
def ofVariables (source : String) (entries : List Entry) :
    List String → Except SettingsFault Members
  | [] => .ok []
  | field :: rest => do
    let found ← match lookup? (Text.ofString (variableStart ++ field)) entries with
      | none => pure none
      | some t => variableValue field source t
    let more ← ofVariables source entries rest
    return match found with
      | some v => (Text.ofString field, v) :: more
      | none => more

/-- The settings that arguments give. -/
def ofArguments (arguments : Members) : Members :=
  names.filterMap fun field =>
    let name := Text.ofString field
    match arguments.get? name with
    | some v => some (name, v)
    | none => (List.find? (fun m => Text.lower m.1 = name) arguments).map fun m => (name, m.2)

/-- The first value of each setting among several sources. -/
def firstOf (sources : List Members) : Members :=
  names.filterMap fun field =>
    let name := Text.ofString field
    (sources.findSome? fun members => members.get? name).map fun v => (name, v)

/-- The settings of arguments, an environment, and the text of a file. -/
def load (arguments : Members) (environment : List (Text × Text)) (file : Option Text) :
    Except SettingsFault Settings := do
  let entries := environment.map fun (n, v) => (n, some v)
  let fromEnvironment ← ofVariables environmentSource entries names
  let fromFile ← match file with
    | none => pure []
    | some t => ofVariables fileSource (EnvFile.read entries t) names
  (Settings.ofFields (firstOf [ofArguments arguments, fromEnvironment, fromFile])).mapError .rejected

end Settings

end HttpCourier
