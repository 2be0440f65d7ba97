/-
The options that a command line gives.

The arguments are taken one after the other.  The first plain one is the file to load, and
a double dash in front of it or right behind it is not an argument of its own.  Text that
is joined to a flag with a short name is read as more short names, and the last of these
may take a value; such a group is looked at as a whole before any of it takes effect.  A
double dash that is joined to a switch as its value leaves the option open.  What is left
over is complained about last, after everything that is wrong with a switch and after a
missing file.
-/
import ChipEight.CommandLine.Token
import ChipEight.Console

namespace ChipEight

/-- What a console is to be started with.  An option with a value is `none` where it was left
open. -/
structure Options where
  /-- The file to load. -/
  rom : String
  scale : Option Int
  stepsPerFrame : Option Int
  mute : Bool
  volume : Option Binary64
  noSound : Bool
  /-- How much is to be said. -/
  verbosity : Nat
  deriving DecidableEq, Repr

/-- What a command line asks for if it is not to start a console. -/
inductive Refusal where
  /-- Help, and no more. -/
  | help
  | usage (error : UsageError)
  deriving DecidableEq, Repr

/-- How much is said about what goes on. -/
inductive LogLevel where
  | warning
  | info
  | debug
  deriving DecidableEq, Repr

namespace Options

/-- The options of an empty command line. -/
def standard : Options :=
  { rom := ""
    scale := some Window.standardScale
    stepsPerFrame := some Console.standardStepsPerFrame
    mute := false
    volume := some Speaker.standardVolume
    noSound := false
    verbosity := 0 }

/-- All there is to say on a command line, in one line. -/
def usage : String :=
  let form (s : Switch) := " [" ++ s.title ++ (if s.takesValue then " VALUE" else "") ++ "]"
  "usage: chipeight" ++ String.join (Switch.all.map form) ++ " rom"

def logLevel (o : Options) : LogLevel :=
  match o.verbosity with
  | 0 => .warning
  | 1 => .info
  | _ => .debug

/-- What came of the arguments so far. -/
structure Progress where
  options : Options
  rom : Option String
  /-- Whether the file was named by the argument just taken. -/
  romJustNamed : Bool
  /-- Arguments that nothing was found for, the last first. -/
  extras : List String

/-! ### Groups of switches -/

/-- Switches of one argument: flags, and a last switch with the value it was given there. -/
structure Group where
  flags : List Switch
  last : Switch
  value : Option String
  deriving DecidableEq, Repr

/-- The group of a flag and the short names that are joined to it.  Text that begins with no
short name is refused as a value for the flag in front of it. -/
def Group.ofFlag (s : Switch) : List Char → Except UsageError Group
  | [] => .error (.unwantedValue s "")
  | c :: rest =>
    match Switch.ofName? (String.ofList ['-', c]) with
    | none => .error (.unwantedValue s (String.ofList (c :: rest)))
    | some next => do
      let group ←
        if rest.isEmpty then .ok ⟨[], next, none⟩
        else if next.takesValue then .ok ⟨[], next, some (String.ofList rest)⟩
        else Group.ofFlag next rest
      return { group with flags := s :: group.flags }

/-- The group that a switch begins. -/
def Group.ofSwitch (s : Switch) (long : Bool) : Option (List Char) → Except UsageError Group
  | none => .ok ⟨[], s, none⟩
  | some text =>
    if s.takesValue then .ok ⟨[], s, some (String.ofList text)⟩
    else if long then .error (.unwantedValue s (String.ofList text))
    else Group.ofFlag s text

/-! ### Taking effect -/

/-- The effect of a flag. -/
def applyFlag (p : Progress) : Switch → Except Refusal Progress
  | .help => .error .help
  | .mute => .ok { p with options := { p.options with mute := true } }
  | .noSound => .ok { p with options := { p.options with noSound := true } }
  | .verbose => .ok { p with options := { p.options with verbosity := p.options.verbosity + 1 } }
  | .scale => .ok p
  | .stepsPerFrame => .ok p
  | .volume => .ok p

/-- What is read from a value.  Nothing is read from a double dash. -/
def readValue {α : Type} (read : String → Option α) (value : String) (error : UsageError) :
    Except Refusal (Option α) :=
  if value = "--" then .ok none
  else
    match read value with
    | none => .error (.usage error)
    | some a => .ok (some a)

/-- The effect of a switch with a value. -/
def applyValue (p : Progress) (s : Switch) (value : String) : Except Refusal Progress := do
  match s with
  | .scale =>
    let n ← readValue Numeral.readInt? value (.invalidInteger s value)
    return { p with options := { p.options with scale := n } }
  | .stepsPerFrame =>
    let n ← readValue Numeral.readInt? value (.invalidInteger s value)
    return { p with options := { p.options with stepsPerFrame := n } }
  | .volume =>
    let x ← readValue Numeral.readReal? value (.invalidReal s value)
    return { p with options := { p.options with volume := x } }
  | s => applyFlag p s

/-- The effects of flags, one after the other. -/
def applyFlags (p : Progress) : List Switch → Except Refusal Progress
  | [] => .ok p
  | s :: rest => do applyFlags (← applyFlag p s) rest

/-- The arguments from here on. -/
def take (p : Progress) : List Token → Except Refusal Progress
  | [] => .ok p
  | .plain text :: rest =>
    if p.rom.isNone then take { p with rom := some text, romJustNamed := true } rest
    else take { p with romJustNamed := false, extras := text :: p.extras } rest
  | .separator :: rest =>
    if p.rom.isNone || p.romJustNamed then take { p with romJustNamed := false } rest
    else take { p with extras := "--" :: p.extras } rest
  | .unknown text :: rest => take { p with romJustNamed := false, extras := text :: p.extras } rest
  | .switch s long joined :: rest =>
    let p := { p with romJustNamed := false }
    match Group.ofSwitch s long joined with
    | .error error => .error (.usage error)
    | .ok ⟨flags, s, some value⟩ => do
      take (← applyValue (← applyFlags p flags) s value) rest
    | .ok ⟨flags, s, none⟩ =>
      if s.takesValue then
        match rest with
        | .plain value :: rest => do take (← applyValue (← applyFlags p flags) s value) rest
        | _ => .error (.usage (.missingValue s))
      else do take (← applyFlags p (flags ++ [s])) rest

/-- The options of a command line, or why there are none. -/
def ofArguments (arguments : List String) : Except Refusal Options :=
  match Token.ofArguments arguments with
  | .error error => .error (.usage error)
  | .ok tokens => do
    let p ← take ⟨standard, none, false, []⟩ tokens
    match p.rom with
    | none => .error (.usage .missingRom)
    | some rom =>
      if p.extras.isEmpty then .ok { p.options with rom := rom }
      else .error (.usage (.unrecognized p.extras.reverse))

end Options

end ChipEight
