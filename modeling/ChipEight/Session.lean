/-
A session: a console at a window, worked by someone at a keyboard.

Before every frame the session is handed what happened at the keyboard since the last
one.  Some keys of the host are keys of the keypad; three others belong to the session:
one ends it, one loads the program anew, one turns the sound off and on.  The caption of
the window names the program, and the fault that halted it for as long as it is halted.

`muted` and `shownFault` repeat what the speaker and the console know: they say what the
person at the keyboard was last shown.

Options may have been left open.  Without a scale the squares of the window have no extent.
Without a volume there is nothing to tell a mixer, so that a session only begins with a
silent speaker.  Without a number of instructions to a frame it goes on until a frame would
have to execute some, and breaks off there.
-/
import ChipEight.CommandLine.Options
import ChipEight.KeyMap

namespace ChipEight

/-- Something that happened at the host. -/
inductive HostEvent where
  | keyDown (code : Int)
  | keyUp (code : Int)
  /-- The window was closed. -/
  | quit
  /-- Anything that does not matter here. -/
  | other
  deriving DecidableEq, Repr

/-- A console at a window, worked by someone at a keyboard. -/
structure Session where
  console : Console
  keyMap : KeyMap Int
  /-- The file of the program. -/
  rom : String
  /-- Whether the sound was last turned off here. -/
  muted : Bool
  /-- The fault that the caption names. -/
  shownFault : Option Fault
  /-- Whether the number of instructions to a frame was left open. -/
  openEnded : Bool
  /-- Whether a frame could not be run. -/
  brokenOff : Bool

namespace Session

/-- The key that ends the session: escape. -/
def quitKey : Int := 27

/-- The key that loads the program anew: the fifth function key. -/
def reloadKey : Int := 1073741886

/-- The key that turns the sound off and on: the ninth function key. -/
def muteKey : Int := 1073741890

/-- The caption for a program and what it was halted by. -/
def caption (rom : String) (reason : Option String) : String :=
  let running := Window.title ++ " - " ++ rom
  match reason with
  | none => running
  | some reason => running ++ " - halted: " ++ reason

/-! ### Polling -/

/-- Changes the console. -/
def onConsole (s : Session) (action : Console → Console) : Session :=
  { s with console := action s.console }

/-- Makes the caption name the fault that the console shows now, unless it does already. -/
def showFault (s : Session) : Session :=
  if s.console.fault = s.shownFault then s
  else
    let call := DeviceCall.caption (caption s.rom (s.console.fault.map Fault.message))
    { s with
      console := { s.console with machine := s.console.machine.request [call] }
      shownFault := s.console.fault }

/-- Turns the sound off if it is on, and on if it is off. -/
def toggleMute (s : Session) : Session :=
  let muted := !s.muted
  { s with muted := muted }.onConsole fun c => if muted then c.mute else c.unmute

/-- A key of the host goes down.  A program that cannot be loaded anew is not missed. -/
def keyDown (s : Session) (read : Reader) (code : Int) : Session :=
  if code = quitKey then s.onConsole .stop
  else if code = reloadKey then s.onConsole fun c => (c.loadFile read s.rom).1
  else if code = muteKey then s.toggleMute
  else
    match s.keyMap.get? code with
    | none => s
    | some key => s.onConsole (·.setKey key true)

/-- A key of the host goes up. -/
def keyUp (s : Session) (code : Int) : Session :=
  match s.keyMap.get? code with
  | none => s
  | some key => s.onConsole (·.setKey key false)

def handle (read : Reader) (s : Session) : HostEvent → Session
  | .keyDown code => s.keyDown read code
  | .keyUp code => s.keyUp code
  | .quit => s.onConsole .stop
  | .other => s

/-- What happened since the last frame, in order and each with the files as they were then, and
after that the caption. -/
def poll (s : Session) (happenings : List (Reader × HostEvent)) : Session :=
  (happenings.foldl (fun s happening => s.handle happening.1 happening.2) s).showFault

/-- One frame.  Without a number of instructions to it, one that is to execute any breaks the
session off. -/
def tick (s : Session) : Session :=
  if s.openEnded && s.console.executing then { s with brokenOff := true }.onConsole .stop
  else s.onConsole fun c => c.tick.1

/-! ### Beginning and end -/

/-- Why a session has no speaker. -/
inductive NoSpeaker where
  | wave (error : WaveError)
  /-- The volume was left open, and a mixer has to be told one. -/
  | volume
  deriving DecidableEq, Repr

/-- What came of an attempt to begin a session. -/
inductive Opening where
  | ready (session : Session)
  /-- The program was not loaded, and the devices are given back. -/
  | noProgram (console : Console) (error : LoadError)
  | noConsole (error : ConsoleError)
  | noSpeaker (reason : NoSpeaker)

/-- A speaker as the options want it, and the calls that made it.  Where the mixer refuses,
the speaker is silent. -/
def speakerFor (options : Options) (mixer : Mixer) :
    List DeviceCall × Except NoSpeaker Speaker :=
  let volume := options.volume.getD .zero
  if options.noSound then ([], .ok (.silent volume))
  else
    match Speaker.audible? mixer volume (.whole SquareWave.standardPitch) with
    | (calls, .error .mixerRefused) => (calls, .ok (.silent volume))
    | (calls, .error (.wave error)) => (calls, .error (.wave error))
    | (calls, .ok speaker) =>
      (calls, if options.volume.isSome then .ok speaker else .error .volume)

/-- The window, with the program in its caption, and the calls that made it. -/
def windowFor (options : Options) : Window × List DeviceCall :=
  let (window, calls) := (Window.standard (options.scale.getD 0)).opened
  (window, .start :: calls ++ [.caption (caption options.rom none)])

/-- Opens the devices, switches a console on and loads the program. -/
def begin (options : Options) (mixer : Mixer) (read : Reader) (random : RandomSource) :
    Opening :=
  let (window, windowCalls) := windowFor options
  match speakerFor options mixer with
  | (_, .error reason) => .noSpeaker reason
  | (speakerCalls, .ok speaker) =>
    let made := Console.poweredOn? { stepsPerFrame := options.stepsPerFrame.getD 0 } speaker
      (.window window) random (windowCalls ++ speakerCalls)
    match made with
    | .error error => .noConsole error
    | .ok console =>
      let console := if options.mute then console.mute else console
      match console.loadFile read options.rom with
      | (console, some error) =>
        .noProgram { console with machine := console.machine.request [.finish] } error
      | (console, none) =>
        .ready
          { console := console
            keyMap := .byCode
            rom := options.rom
            muted := options.mute
            shownFault := none
            openEnded := options.stepsPerFrame.isNone
            brokenOff := false }

/-- Wants frames to follow one another. -/
def start (s : Session) : Session := s.onConsole fun c => c.start.1

/-- Silences the speaker and gives the devices back. -/
def finish (s : Session) : Session :=
  s.onConsole fun c =>
    let c := c.onSpeaker Speaker.stop
    { c with machine := c.machine.request [.finish] }

/-- What the session tells the host at its end: zero, or one if it broke off, or two if a fault
halted the program. -/
def exitStatus (s : Session) : Nat :=
  if s.brokenOff then 1
  else if s.console.fault.isNone then 0
  else 2

/-- What is told to the host if there was no program. -/
def noProgramStatus : Nat := 1

end Session

end ChipEight
