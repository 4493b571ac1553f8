import Keypad.Number.Shortest
import Keypad.Session
import Keypad.Settings
import Keypad.Text.Uppercase

/-!
# The console

The calculator as a program that reads texts and prints lines. Keys can be given
as arguments, which prints the line of the display once all of them are pressed,
or line by line, which prints the display after each line.

A line is understood before any of it is carried out, and carrying it out cannot
fail; so a line either takes effect as a whole or not at all. The rates come from
a fixed list, which answers every request, if not at the moment at which it is asked.
-/

namespace Keypad.Console

/-- Why the program stops. -/
inductive Failure where
  | settings (fault : SettingsFault)
  | unknownKey (unknown : Key.Unknown)
  | missingCurrency
  | unknownCommand (name : Text)
deriving DecidableEq, Repr

/-- The wording of a failure. -/
def Failure.message : Failure → Text
  | .settings fault => "Failed to load config: ".toList ++ fault.message
  | .unknownKey unknown => unknown.message
  | .missingCurrency => "Usage: :convert <CURRENCY>".toList
  | .unknownCommand name => "Unknown command: ".toList ++ name

/-- What a line asks for. -/
inductive Line where
  | keys (keys : List Key)
  | convert (code : Text)
  | listRates
deriving DecidableEq, Repr

/-- The keys of a text. -/
def readKeys (text : Text) : Except Failure (List Key) :=
  match Key.typed text with
  | .ok keys => .ok keys
  | .error unknown => .error (.unknownKey unknown)

/-- What a line asks for. A colon starts a command, which ends at the first space;
currency codes may be typed in lower case. Blanks around a line do not count. -/
def Line.ofText (line : Text) : Except Failure Line :=
  let line := Text.trim line
  let (name, argument) := Text.cut ' ' line
  if name = ":convert".toList then
    match Text.uppercase (Text.trim argument) with
    | [] => .error .missingCurrency
    | code => .ok (.convert code)
  else if name = ":rates".toList then .ok .listRates
  else if name.head? = some ':' then .error (.unknownCommand name)
  else return .keys (← readKeys line)

/-- A new session under given settings. -/
def newSession (settings : Settings) : Session :=
  .start ⟨settings.baseCurrency, settings.lifetime, none⟩

/-- When a line is carried out. A line asks for rates once at most, and the answer comes
at a moment of its own. -/
structure Times where
  asked : Moment
  answered : Moment

/-- When each line is carried out, by its number. -/
def Clock := Nat → Times

/-- The clock that stands still. -/
def Clock.still (now : Moment) : Clock := fun _ => ⟨now, now⟩

/-- A moment stands for the clock that stands still at it. -/
instance : Coe Moment Clock := ⟨.still⟩

/-- A command is handled, and a request that it starts is answered. -/
def perform (settings : Settings) (times : Times) (session : Session) (command : Command) :
    Session :=
  match session.handle times.asked command with
  | (next, some request) =>
      next.arrive request (.ok (settings.rateList.reply request.base)) times.answered
  | (next, none) => next

/-- The keys are pressed one after another. No key asks for the time. -/
def pressAll (settings : Settings) (times : Times) (session : Session) (keys : List Key) :
    Session :=
  keys.foldl (fun session key => perform settings times session (.press key)) session

/-- The lines that show a display: what stands above its line, the line, and the
currencies on offer. -/
def showDisplay (settings : Settings) (display : Display) : List Text :=
  let above := if display.previous = [] then [] else [' ' :: ' ' :: display.previous]
  let offer :=
    if display.pickerOpen then
      ["convert to: ".toList ++ Text.join [' '] settings.rates.codes
        ++ "  (:convert <CODE>)".toList]
    else []
  above ++ display.buffer :: offer

/-- The lines that list the rates, in the order of their codes. -/
def showRates (settings : Settings) : List Text :=
  settings.rates.entries.map fun entry =>
    "1 ".toList ++ settings.baseCurrency ++ " = ".toList ++ Shortest.write entry.2
      ++ ' ' :: entry.1

/-- Carries out what a line asks for: the session after it, and the lines
printed. -/
def carryOut (settings : Settings) (times : Times) (session : Session) :
    Line → Session × List Text
  | .listRates => (session, showRates settings)
  | .convert code =>
      let next := perform settings times session (.convert code)
      (next, showDisplay settings next.display)
  | .keys keys =>
      let next := pressAll settings times session keys
      (next, showDisplay settings next.display)

/-- Handles one line. -/
def handleLine (settings : Settings) (times : Times) (session : Session) (line : Text) :
    Except Failure (Session × List Text) :=
  return carryOut settings times session (← Line.ofText line)

/-- What the program prints, and why it stops early if it does. -/
structure Outcome where
  printed : List Text
  failure : Option Failure
deriving DecidableEq, Repr

/-- The exit code of the program. -/
def Outcome.exitCode (outcome : Outcome) : UInt32 :=
  if outcome.failure.isSome then 1 else 0

/-- Handles lines, each in its own time, until one fails. What was printed before stays
printed. -/
def runLines (settings : Settings) (session : Session) : List (Times × Text) → Outcome
  | [] => ⟨[], none⟩
  | (times, line) :: rest =>
      match handleLine settings times session line with
      | .ok (next, printed) =>
          let later := runLines settings next rest
          { later with printed := printed ++ later.printed }
      | .error failure => ⟨[], some failure⟩

/-- Presses the keys of all arguments and prints the line of the display. Nothing
is printed if an argument is no key. -/
def runArguments (settings : Settings) (times : Times) (arguments : List Text) : Outcome :=
  match arguments.mapM readKeys with
  | .ok keys =>
      ⟨[(pressAll settings times (newSession settings) keys.flatten).display.buffer], none⟩
  | .error failure => ⟨[], some failure⟩

/-- Where the settings come from. -/
inductive SettingsSource where
  /-- There is no document. -/
  | none
  | document (text : Text)
  /-- There should be a document, but it cannot be read. -/
  | unreadable (path reason : Text)

/-- The settings of a source, with a reader for its document. -/
def SettingsSource.load (source : SettingsSource) (read : Settings.Reader := Toml.overrides?) :
    Except SettingsFault Settings :=
  match source with
  | .none => .ok .default
  | .document text => Settings.ofText text read
  | .unreadable path reason => .error (.unreadable path reason)

/-- The lines of a text, each with the times at which it is carried out. -/
def timed (clock : Clock) (input : Text) : List (Times × Text) :=
  (Text.lines input).mapIdx fun number line => (clock number, line)

/-- The whole program: it presses the keys of the arguments, or, if there are
none, handles the lines of the input, all of which are there from the start. How a
document is read is left to the reader. -/
def run (source : SettingsSource) (clock : Clock) (arguments : List Text) (input : Text)
    (read : Settings.Reader := Toml.overrides?) : Outcome :=
  match source.load read with
  | .error fault => ⟨[], some (.settings fault)⟩
  | .ok settings =>
      if arguments = [] then runLines settings (newSession settings) (timed clock input)
      else runArguments settings (clock 0) arguments

end Keypad.Console
