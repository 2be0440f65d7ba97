/-
The displays that show the picture.

A display is handed the pixels that changed and nothing else, so it has to remember
the rest.  There are two kinds.  A *recording* keeps the last colour of every place.
A *window* paints each place as a square of the host's window, which remembers what
was painted; the window is opened when it is first needed.

A recording takes any colour.  A window knows two, and painting a third fails at that
place: what was painted before it stays, and nothing is shown.
-/
import ChipEight.Device
import ChipEight.Screen

namespace ChipEight

/-- A display that only remembers. -/
structure Recording where
  /-- How often it was handed something. -/
  frames : Nat
  /-- The last colour of every place. -/
  pixels : Std.TreeMap Point Int

namespace Recording

def blank : Recording := ⟨0, ∅⟩

def draw (r : Recording) (paint : Paint) : Recording :=
  ⟨r.frames + 1, paint.foldl (fun pixels (place, colour) => pixels.insert place colour) r.pixels⟩

end Recording

/-- A window of the host in which every pixel is a square of `scale` by `scale`. -/
structure Window where
  scale : Int
  width : Int
  height : Int
  isOpen : Bool
  deriving DecidableEq, Repr

namespace Window

def standardScale : Int := 8

/-- The caption of a window that shows no program yet. -/
def title : String := "CHIP8 Emulator"

/-- The bits for the colour of a pixel. -/
def depth : Int := 8

/-- The colour of a pixel that is off. -/
def offColour : Rgba := ⟨0x77, 0x94, 0x00, 0xFF⟩

/-- The colour of a pixel that is on. -/
def onColour : Rgba := ⟨0x28, 0x2C, 0x06, 0xFF⟩

/-- The two colours by their numbers. -/
def palette? : Int → Option Rgba
  | 0 => some offColour
  | 1 => some onColour
  | _ => none

def closed (scale width height : Int) : Window := ⟨scale, width, height, false⟩

/-- A closed window for the standard picture. -/
def standard (scale : Int) : Window :=
  closed scale Screen.standardWidth Screen.standardHeight

/-- Opens the window, all of it in the colour of pixels that are off. -/
def opened (w : Window) : Window × List DeviceCall :=
  ({ w with isOpen := true },
    [.openDisplay, .setMode (w.width * w.scale) (w.height * w.scale) 0 depth,
      .caption title, .fill offColour, .flip])

/-- The square of a place. -/
def square (w : Window) (place : Point) (colour : Rgba) : DeviceCall :=
  .rect colour (place.x * w.scale) (place.y * w.scale) w.scale w.scale

/-- The squares up to the first place with a colour that the window does not know, and
whether there was no such place. -/
def squares (w : Window) : Paint → List DeviceCall × Bool
  | [] => ([], true)
  | (place, colour) :: rest =>
    match palette? colour with
    | none => ([], false)
    | some rgba =>
      let (calls, complete) := squares w rest
      (w.square place rgba :: calls, complete)

/-- Paints squares and shows them.  False is the answer if a colour was not known. -/
def draw (w : Window) (paint : Paint) : Window × List DeviceCall × Bool :=
  let (w, opening) := if w.isOpen then (w, []) else w.opened
  let (calls, complete) := w.squares paint
  (w, opening ++ calls ++ (if complete then [.flip] else []), complete)

end Window

/-- The display of a console, if it has one. -/
inductive Display where
  | off
  | recording (recording : Recording)
  | window (window : Window)

namespace Display

/-- Shows changes.  A display that there is nothing to show on is left alone, and so is any
display when nothing changed. -/
def draw (d : Display) (paint : Paint) : Display × List DeviceCall :=
  if paint.isEmpty then (d, [])
  else
    match d with
    | off => (off, [])
    | recording r => (recording (r.draw paint), [])
    | window w =>
      let (w, calls, _) := w.draw paint
      (window w, calls)

end Display

end ChipEight
