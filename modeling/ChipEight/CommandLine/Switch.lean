/-
The switches of the command line, and what can be wrong with one.

Every switch has a long name and most have a short one.  A switch is either a flag or
takes a value.  `UsageError` is what a command line is refused for.
-/
import ChipEight.Text.Quoted

namespace ChipEight

open Text

/-- A switch of the command line. -/
inductive Switch where
  | help
  /-- The side of the square that shows a pixel. -/
  | scale
  /-- Instructions to a frame. -/
  | stepsPerFrame
  /-- Starts with the speaker muted. -/
  | mute
  | volume
  /-- Leaves the mixer alone. -/
  | noSound
  /-- Says more; every further one says still more. -/
  | verbose
  deriving DecidableEq, Repr

namespace Switch

/-- All switches, in the order they are looked up in. -/
def all : List Switch := [help, scale, stepsPerFrame, mute, volume, noSound, verbose]

/-- The names of a switch, the short one first. -/
def names : Switch → List String
  | help => ["-h", "--help"]
  | scale => ["-s", "--scale"]
  | stepsPerFrame => ["-f", "--steps-per-frame"]
  | mute => ["-m", "--mute"]
  | volume => ["--volume"]
  | noSound => ["--no-sound"]
  | verbose => ["-v", "--verbose"]

def takesValue : Switch → Bool
  | scale => true
  | stepsPerFrame => true
  | volume => true
  | _ => false

/-- What a switch is called in messages. -/
def title (s : Switch) : String := "/".intercalate s.names

/-- The switch with a name. -/
def ofName? (name : String) : Option Switch := all.find? fun s => s.names.contains name

/-- The names that begin in some way, with their switches. -/
def withStart (start : String) : List (String × Switch) :=
  all.flatMap fun s => (s.names.filter (·.startsWith start)).map fun name => (name, s)

end Switch

/-- Why a command line is refused. -/
inductive UsageError where
  /-- The start of a name that more than one name has. -/
  | ambiguous (argument : String) (names : List String)
  /-- A value for a flag. -/
  | unwantedValue (s : Switch) (value : String)
  | missingValue (s : Switch)
  | invalidInteger (s : Switch) (value : String)
  | invalidReal (s : Switch) (value : String)
  /-- No file to load a program from. -/
  | missingRom
  | unrecognized (arguments : List String)
  deriving DecidableEq, Repr

/-- The words a command line is refused in. -/
def UsageError.message : UsageError → String
  | ambiguous argument names =>
    "ambiguous option: " ++ argument ++ " could match " ++ ", ".intercalate names
  | unwantedValue s value =>
    "argument " ++ s.title ++ ": ignored explicit argument " ++ Quoted.quote value
  | missingValue s => "argument " ++ s.title ++ ": expected one argument"
  | invalidInteger s value =>
    "argument " ++ s.title ++ ": invalid int value: " ++ Quoted.quote value
  | invalidReal s value =>
    "argument " ++ s.title ++ ": invalid float value: " ++ Quoted.quote value
  | missingRom => "the following arguments are required: rom"
  | unrecognized arguments => "unrecognized arguments: " ++ " ".intercalate arguments

end ChipEight
