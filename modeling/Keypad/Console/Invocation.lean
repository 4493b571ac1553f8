import Keypad.Text

/-!
# Arguments of the program

The options come first. The first argument that is no option starts the keys, and
from there on every argument is taken as it is, so keys may begin with a minus.
-/

namespace Keypad.Console

/-- What the arguments ask for. -/
inductive Invocation where
  /-- Run with these keys and, if a path is given, with that settings document. -/
  | run (settingsPath : Option Text) (keys : List Text)
  | help
  | version
  /-- The options make no sense. -/
  | misuse

namespace Invocation

/-- The letters of the options that have a short form: a settings path, help, and
the version. -/
def isShortOption (c : Char) : Bool :=
  c == 'c' || c == 'h' || c == 'V'

/-- Whether an argument is one or several short options. One other letter makes
it keys. -/
def isShortOptions : Text → Bool
  | '-' :: first :: rest => (first :: rest).all isShortOption
  | _ => false

/-- The option that names a settings path. -/
def longPath : Text := "--config".toList

/-- The same option with its value in one argument. -/
def longPathWithValue : Text := "--config=".toList

/-- Whether an argument is an option rather than keys. -/
def isOption (argument : Text) : Bool :=
  isShortOptions argument || longPathWithValue.isPrefixOf argument ||
    [longPath, "--help".toList, "--version".toList, "--".toList].contains argument

mutual

/-- Reads arguments while they are options. -/
def read (path : Option Text) : (arguments : List Text) → Invocation
  | [] => .run path []
  | argument :: rest =>
      if argument = "--".toList then .run path rest
      else if argument = "--help".toList then .help
      else if argument = "--version".toList then .version
      else if argument = longPath then readPath path rest
      else if longPathWithValue.isPrefixOf argument then
        if path.isSome then .misuse
        else read (some (argument.drop longPathWithValue.length)) rest
      else if isShortOptions argument then
        match argument.drop 1 with
        | 'h' :: _ => .help
        | 'V' :: _ => .version
        | [_] => readPath path rest
        | _ :: value => if path.isSome then .misuse else read (some value) rest
        | [] => .misuse
      else .run path (argument :: rest)

/-- Reads the value of the option that names a settings path. -/
def readPath (path : Option Text) : (arguments : List Text) → Invocation
  | [] => .misuse
  | value :: rest => if path.isSome || isOption value then .misuse else read (some value) rest

end

/-- What the arguments of the program ask for. -/
def ofArguments (arguments : List Text) : Invocation :=
  read none arguments

end Invocation

end Keypad.Console
