import HttpCourier.Command.Program

/-!
# HttpCourier.Main

**The program itself.** It collects what a run needs to find, hands it over, and writes out what
comes of it. It opens no connections: requests end as they do on a host that has no network.
-/

namespace HttpCourier.Program

open Command (Host Report)

/-- A text as it is written out; what has no encoding becomes a question mark. -/
def shown (t : Text) : String := t.toStringWith fun _ => "?"

/-- The text of a file, or the reason why there is none. -/
def readFile (name : String) : IO (Except Text Text) := do
  try
    let bytes ← IO.FS.readBinFile name
    return .ok (Text.ofUtf8Lossy bytes.toList)
  catch e =>
    return .error (match e with
      | .noFileOrDirectory .. => "No such file or directory"
      | .inappropriateType .. => "Is a directory"
      | .permissionDenied .. => "Permission denied"
      | e => Text.ofString (toString e))

/-- The variables of the environment that settings can come from. -/
def settingVariables : IO (List (Text × Text)) := do
  let names := Settings.names.map (Settings.variableStart ++ ·)
  let found ← (names ++ names.map String.toUpper).mapM fun name => do
    return (← IO.getEnv name).map fun value => (Text.ofString name, Text.ofString value)
  return found.filterMap id

/-- The standard input, which is read only if an argument stands for it. -/
def readInput (arguments : List String) : IO Text := do
  if arguments.contains "-" then return Text.ofString (← (← IO.getStdin).readToEnd)
  else return []

/-- A transport without a network. It sets no cookies, so that no clock is looked at. -/
def noNetwork : Script :=
  ⟨[], ⟨0, .fault (Fault.ofKind "ConnectError" (some "Network is unreachable"))⟩⟩

/-- What the program finds. -/
def findHost (arguments : List String) : IO Host := do
  let files ← (".env" :: arguments).mapM fun name => do
    return (Text.ofString name, ← readFile name)
  return ⟨← settingVariables, ← readInput arguments,
    fun name => (files.lookup name).getD (.error "No such file or directory"), noNetwork,
    .stopped⟩

/-- Writes a report out. -/
def write (r : Report) : IO Unit := do
  for line in r.log do
    IO.eprintln (shown line)
  IO.eprint (shown r.errors)
  if let some e := r.escape then
    IO.eprintln (shown e.message)
  IO.print (shown r.output)

end HttpCourier.Program

/-- Runs the program on the words of a command line. -/
def main (arguments : List String) : IO UInt32 := do
  let host ← HttpCourier.Program.findHost arguments
  let report := HttpCourier.Command.run host (arguments.map HttpCourier.Text.ofString)
  HttpCourier.Program.write report
  return UInt32.ofNat report.exitCode
