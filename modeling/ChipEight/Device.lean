/-
What the machine asks of the devices around it.

The window and the mixer belong to the host.  The machine does not drive them: it
keeps a log of calls, oldest first, and whoever runs it carries them out.
-/
import ChipEight.SquareWave

namespace ChipEight

/-- A colour by its three parts and its opacity. -/
structure Rgba where
  red : UInt8
  green : UInt8
  blue : UInt8
  alpha : UInt8
  deriving DecidableEq, Repr

/-- One request to a device of the host. -/
inductive DeviceCall where
  /-- Makes the devices ready. -/
  | start
  /-- Gives the devices back. -/
  | finish
  | openDisplay
  | closeDisplay
  /-- Opens a window of this size, with this many bits for the colour of a pixel. -/
  | setMode (width height flags depth : Int)
  | caption (text : String)
  /-- Paints the whole window. -/
  | fill (colour : Rgba)
  /-- Paints a rectangle, given by its left upper corner and its size. -/
  | rect (colour : Rgba) (x y width height : Int)
  /-- Shows what was painted. -/
  | flip
  | openMixer (rate size channels : Int)
  /-- Hands over the samples of the tone. -/
  | loadTone (wave : SquareWave)
  | toneVolume (level : Binary64)
  /-- Starts the tone, to be repeated `loops` times and to end after so many milliseconds. -/
  | playTone (loops maxTime : Int)
  | stopTone
  deriving DecidableEq, Repr

end ChipEight
