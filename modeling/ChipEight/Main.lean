/-
The program: a session worked by lines of text.

Every line that is read lets one frame follow, and what the devices are asked for is
written, a line for each call.  The end of the input closes the window.  Errors go to the
error output, as does the register dump of a program that was halted.
-/
import ChipEight.CommandLine.Options
import ChipEight.Pacing
import ChipEight.Session.Line

namespace ChipEight.Terminal

/-- A session in front of a real clock. -/
abbrev Desk := StateT Session IO

/-- Why the host would not read a file. -/
def readError : IO.Error → ReadError
  | .noFileOrDirectory .. => .missing
  | .inappropriateType _ 20 _ => .notDirectory
  | .inappropriateType .. => .isDirectory
  | .invalidArgument _ 36 _ => .nameTooLong
  | _ => .denied

/-- A reader that knows one file, as it is now. -/
def readerOf (name : String) : IO Reader := do
  match ← (IO.FS.readBinFile name).toBaseIO with
  | .ok bytes => return fun _ => .ok bytes.toList
  | .error error => return fun _ => .error (readError error)

/-- The time since some moment, in seconds. -/
def now : IO Binary64 := do
  return Binary64.ofQuotient false (← IO.monoNanosNow) 1000000000

/-- Sleeps, if there is time to sleep. -/
def sleep (seconds : Binary64) : IO Unit := do
  let (n, d) := seconds.toQuotient
  if Binary64.zero < seconds then
    IO.sleep (n * 1000 / d).toNat.toUInt32

/-- Writes the lines of the calls that the session made since the last time. -/
def showCalls : Desk Unit := do
  let s ← get
  let (machine, calls) := s.console.machine.takeLog
  set { s with console := { s.console with machine := machine } }
  for call in calls do
    IO.println call.line
  (← IO.getStdout).flush

/-- The actions of the session. -/
def pace (input : IO.FS.Stream) : Pace Desk Binary64 :=
  { now := now
    sleep := fun seconds => do
      showCalls
      sleep seconds
    poll := do
      let line ← input.getLine
      let events := if line.isEmpty then [HostEvent.quit] else HostEvent.ofLine line
      let s ← get
      let read ← readerOf s.rom
      set (s.poll (events.map fun event => (read, event)))
    tick := modify Session.tick
    going := do return (← get).console.looping }

/-- Turns until there is to be no more. -/
partial def turns (p : Pace Desk Binary64) (interval next : Binary64) : Desk Unit := do
  match ← p.turn interval next with
  | none => return
  | some next => turns p interval next

/-- A session from its first frame to its end. -/
def sit : Desk Unit := do
  modify Session.start
  turns (pace (← IO.getStdin)) (← get).console.interval (← now)
  modify Session.finish
  showCalls

/-- Tells how a session went. -/
def report (level : LogLevel) (s : Session) : IO Unit := do
  if let some fault := s.console.fault then
    IO.eprintln (fault.message ++ "\n" ++ s.console.machine.cpu.dump.text)
  if s.brokenOff then
    IO.eprintln "a frame without a number of steps"
  if level ≠ .warning then
    let frames := s.console.frames
    IO.eprintln s!"{frames} frames"

/-- Begins a session by the options and sits through it. -/
def playWith (options : Options) : IO UInt32 := do
  let random := RandomSource.ofSeed (← IO.monoNanosNow).toUInt64
  match Session.begin options {} (← readerOf options.rom) random with
  | .ready session =>
    let ((), session) ← sit.run session
    report options.logLevel session
    return session.exitStatus.toUInt32
  | .noProgram _ error =>
    IO.eprintln error.message
    return Session.noProgramStatus.toUInt32
  | .noConsole _ => return 1
  | .noSpeaker _ => return 1

end ChipEight.Terminal

def main (arguments : List String) : IO UInt32 := do
  match ChipEight.Options.ofArguments arguments with
  | .ok options => ChipEight.Terminal.playWith options
  | .error .help =>
    IO.println ChipEight.Options.usage
    return 0
  | .error (.usage error) =>
    IO.eprintln (ChipEight.Options.usage ++ "\nchipeight: error: " ++ error.message)
    return 2
