import Keypad.Console
import Keypad.Console.Invocation

/-!
# The program

Reads arguments, documents and lines, and prints what `Keypad.Console` says. All
decisions are made there.
-/

namespace Keypad.Main

/-- How the program is called. -/
def usage : String :=
  "Usage: [-c|--config <FILE>] [KEYS]...\n\n" ++
  "Presses the keys, e.g. 12+3=, and prints the line of the display.\n" ++
  "Reads lines from standard input when no keys are given.\n\n" ++
  "  -c, --config <FILE>  Settings document (TOML)\n" ++
  "  -h, --help           Print help\n" ++
  "  -V, --version        Print version\n"

/-- The directory of the user's settings, if the environment names one. -/
def userDirectory : IO (Option String) := do
  match ← IO.getEnv "XDG_CONFIG_HOME" with
  | some directory =>
      if directory.startsWith "/" then return some directory else homeDirectory
  | none => homeDirectory
where
  /-- The usual place below the home directory. -/
  homeDirectory : IO (Option String) := do
    return (← IO.getEnv "HOME").map (· ++ "/.config")

/-- The user's own settings document: one in a directory named like the program. -/
def userPath : IO (Option String) := do
  let program := (← IO.appPath).fileStem
  return (← userDirectory).bind fun directory =>
    program.map fun name => directory ++ "/" ++ name ++ "/config.toml"

/-- The document at a path that was asked for. -/
def requiredDocument (path : String) : IO Console.SettingsSource := do
  match ← (IO.FS.readFile path).toBaseIO with
  | .ok text => return .document text.toList
  | .error reason => return .unreadable path.toList reason.toString.toList

/-- The document at a path where there need not be one. -/
def optionalDocument (path : String) : IO Console.SettingsSource := do
  match ← (IO.FS.readFile path).toBaseIO with
  | .ok text => return .document text.toList
  | .error (.noFileOrDirectory ..) | .error (.inappropriateType ..) => return .none
  | .error reason => return .unreadable path.toList reason.toString.toList

/-- Where the settings come from. -/
def settingsSource (given : Option Text) : IO Console.SettingsSource := do
  match given with
  | some path => requiredDocument (String.ofList path)
  | none =>
      match ← userPath with
      | some path => optionalDocument path
      | none => return .none

/-- The present moment, on a clock that does not run backwards. -/
def present : IO Moment := do
  return Int64.ofNat (← IO.monoMsNow)

/-- The times of what is done next. -/
def presentTimes : IO Console.Times := do
  return ⟨← present, ← present⟩

/-- What reads the settings documents. -/
def reader : Settings.Reader := Toml.overrides?

/-- Prints texts, each on a line of its own. -/
def printLines (lines : List Text) : IO Unit := do
  let output ← IO.getStdout
  for line in lines do
    output.putStrLn (String.ofList line)
  output.flush

/-- Prints why the program stops. -/
def printFailure (failure : Console.Failure) : IO Unit :=
  IO.eprintln (String.ofList failure.message)

/-- Prints the prompt if someone is there to see it. -/
def prompt (interactive : Bool) : IO Unit := do
  if interactive then
    IO.print ">>> "
    (← IO.getStdout).flush

/-- Handles lines until the input ends. The first failure ends it too, unless the
input is typed. -/
partial def serve (settings : Settings) (interactive : Bool) (session : Session) :
    IO UInt32 := do
  prompt interactive
  match Text.lines (← (← IO.getStdin).getLine).toList with
  | [] => return 0
  | line :: _ =>
      match Console.handleLine settings (← presentTimes) session line with
      | .ok (next, printed) =>
          printLines printed
          serve settings interactive next
      | .error failure =>
          if interactive then
            printLines ["error: ".toList ++ failure.message]
            serve settings interactive session
          else
            printFailure failure
            return 1

/-- Runs the program with the keys of its arguments. -/
def run (source : Console.SettingsSource) (keys : List Text) : IO UInt32 := do
  match source.load reader with
  | .error fault =>
      printFailure (.settings fault)
      return 1
  | .ok settings =>
      if keys.isEmpty then
        serve settings (← (← IO.getStdin).isTty) (Console.newSession settings)
      else
        let outcome := Console.runArguments settings (← presentTimes) keys
        printLines outcome.printed
        outcome.failure.forM printFailure
        return outcome.exitCode

end Keypad.Main

open Keypad in
def main (arguments : List String) : IO UInt32 := do
  match Console.Invocation.ofArguments (arguments.map (·.toList)) with
  | .run path keys => Main.run (← Main.settingsSource path) keys
  | .help =>
      IO.print Main.usage
      return 0
  | .version =>
      IO.println "0.1.0"
      return 0
  | .misuse =>
      IO.eprint Main.usage
      return 2
