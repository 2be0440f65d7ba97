/-
A session as lines of text.

Whoever has no window can work a session by lines.  One line holds what happened before a
frame: `+` or `-` and a code for a key of the host that went down or up, and `quit`.  Each
call to a device becomes a line of its own, a word for the call and its numbers behind it.
Colours and volumes are written as the hexadecimal digits of their bits, texts are quoted.
-/
import ChipEight.Numeral
import ChipEight.Session
import ChipEight.Text.Hexadecimal

namespace ChipEight

open Text

namespace HostEvent

/-- What a word stands for.  A word that is not known stands for something that does not
matter. -/
def ofWord : List Char → HostEvent
  | '+' :: code => ((Numeral.readInt? (String.ofList code)).map keyDown).getD other
  | '-' :: code => ((Numeral.readInt? (String.ofList code)).map keyUp).getD other
  | word => if word = "quit".toList then quit else other

/-- The words of a line, with the blanks between them left out. -/
def words (line : List Char) : List (List Char) :=
  (line.splitBy fun a b => a.isWhitespace == b.isWhitespace).filter fun word =>
    !word.all Char.isWhitespace

/-- What happened by a line. -/
def ofLine (line : String) : List HostEvent := (words line.toList).map ofWord

end HostEvent

/-- The digits of the four parts of a colour. -/
def Rgba.text (c : Rgba) : String :=
  String.ofList ([c.red, c.green, c.blue, c.alpha].flatMap fun part =>
    Hex.zeroPadded 2 part.toNat)

namespace DeviceCall

/-- A word and numbers, with blanks between them. -/
def numbered (word : String) (numbers : List Int) : String :=
  " ".intercalate (word :: numbers.map fun n => s!"{n}")

/-- The line of a call. -/
def line : DeviceCall → String
  | start => "start"
  | finish => "finish"
  | openDisplay => "open"
  | closeDisplay => "close"
  | setMode width height flags depth => numbered "mode" [width, height, flags, depth]
  | caption text => "caption " ++ Quoted.quote text
  | fill colour => "fill " ++ colour.text
  | rect colour x y width height => numbered ("rect " ++ colour.text) [x, y, width, height]
  | flip => "flip"
  | openMixer rate size channels => numbered "mixer" [rate, size, channels]
  | loadTone wave => numbered "tone" [wave.rate, wave.channels, wave.period]
  | toneVolume level => "volume " ++ String.ofList (Hex.zeroPadded 16 level.bits.toNat)
  | playTone loops maxTime => numbered "play" [loops, maxTime]
  | stopTone => "stop"

end DeviceCall

end ChipEight
