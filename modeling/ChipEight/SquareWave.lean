/-
The tone: a square wave of one second.

A wave is high for the first half of every period and low for the rest.  The samples
of one instant, one for each channel, stand side by side.  A number of channels below zero
stands for none, as long as 64 bits can hold it; where a wave has no instants at all, it does
not matter how many samples one would have.
-/
import ChipEight.Number.Amount

namespace ChipEight

/-- Why there is no wave. -/
inductive WaveError where
  | arithmetic (error : ArithmeticError)
  /-- No instant has so many samples. -/
  | channels (count : Int)
  deriving DecidableEq, Repr

/-- A square wave by its sample rate, its channels and the samples of one period. -/
structure SquareWave where
  rate : Nat
  channels : Nat
  period : Nat
  deriving DecidableEq, Repr

namespace SquareWave

/-- The pitch of the tone in oscillations per second. -/
def standardPitch : Int := 490

/-- The samples per second that a mixer is asked for. -/
def standardRate : Int := 44100

/-- The height of the wave above and below zero. -/
def amplitude : Int := 0x4000

/-- The least number of channels, which is the least word of 64 bits with a sign. -/
def leastChannels : Int := -0x8000000000000000

/-- The most channels, as many as a word of 32 bits with a sign can count. -/
def mostChannels : Int := 0x7FFFFFFF

/-- The samples of one period: the nearest whole number of them, but at least two, so that
there is a high and a low half. -/
def periodOf (rate : Int) (pitch : Amount) : Except ArithmeticError Nat := do
  let pitch ← pitch.toBinary64
  let samples ← Binary64.ofInt rate
  let period ← (← samples.divide pitch).rounded
  return (max 2 period).toNat

/-- The wave of a pitch. -/
def ofPitch (rate channels : Int) (pitch : Amount) : Except WaveError SquareWave :=
  match periodOf rate pitch with
  | .error error => .error (.arithmetic error)
  | .ok period =>
    if 0 < rate ∧ (channels < leastChannels ∨ mostChannels < channels) then
      .error (.channels channels)
    else .ok ⟨rate.toNat, channels.toNat, period⟩

/-- The height at an instant. -/
def height (w : SquareWave) (instant : Nat) : Int :=
  if instant % w.period < w.period / 2 then amplitude else -amplitude

/-- The heights of all instants in order. -/
def heights (w : SquareWave) : List Int := (List.range w.rate).map w.height

/-- All samples in the order they are played. -/
def samples (w : SquareWave) : List Int := w.heights.flatMap (List.replicate w.channels)

end SquareWave

end ChipEight
