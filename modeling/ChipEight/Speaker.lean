/-
The speaker, which sounds the tone.

A speaker keeps its volume, whether it is muted, and what it was last told to play.
An *audible* one passes this on to the mixer of the host; a silent one only keeps the
books, which is all a machine without a mixer needs.

The tone is started with a longest time to play, so that the mixer ends it by itself:
nothing tells the speaker when that happens, and `playing` stays true until a stop.
-/
import ChipEight.Device

namespace ChipEight

/-- What the mixer of the host is set to: samples per second, bits of a sample, channels. -/
structure MixerFormat where
  rate : Int
  size : Int
  channels : Int
  deriving DecidableEq, Repr

/-- The mixer of the host as a speaker finds it. -/
structure Mixer where
  /-- What it is set to already. -/
  current : Option MixerFormat := none
  /-- What it will be set to once asked, if not to what was asked for. -/
  granted : Option MixerFormat := none
  /-- Whether it refuses to be opened. -/
  refuses : Bool := false
  deriving DecidableEq, Repr

/-- Why there is no speaker. -/
inductive SpeakerError where
  | mixerRefused
  /-- There is no tone to hand to the mixer. -/
  | wave (error : WaveError)
  deriving DecidableEq, Repr

/-- The state of a speaker. -/
structure Speaker where
  /-- Whether the tone goes to a mixer. -/
  audible : Bool
  volume : Binary64
  muted : Bool
  playing : Bool
  /-- The ticks of the last tone, zero after a stop. -/
  duration : Int
  deriving DecidableEq, Repr

namespace Speaker

/-- The volume of a speaker that was given none: one half. -/
def standardVolume : Binary64 := ⟨0x3FE0000000000000⟩

def silent (volume : Binary64) : Speaker :=
  ⟨false, volume, false, false, 0⟩

/-- How loud the tone is: not at all while muted. -/
def level (s : Speaker) : Binary64 := if s.muted then .zero else s.volume

/-- Tells the mixer how loud the tone is. -/
def applyVolume (s : Speaker) : List DeviceCall :=
  if s.audible then [.toneVolume s.level] else []

/-- The format a mixer is asked for. -/
def wantedFormat : MixerFormat := ⟨SquareWave.standardRate, -16, 1⟩

/-- A speaker at a mixer, and the calls that made it.  A mixer that is set to something
already is taken as it is. -/
def audible? (mixer : Mixer) (volume : Binary64) (pitch : Amount) :
    List DeviceCall × Except SpeakerError Speaker :=
  let opening : List DeviceCall :=
    match mixer.current with
    | some _ => []
    | none => [.openMixer wantedFormat.rate wantedFormat.size wantedFormat.channels]
  if mixer.current.isNone && mixer.refuses then (opening, .error .mixerRefused)
  else
    let format := mixer.current.getD (mixer.granted.getD wantedFormat)
    match SquareWave.ofPitch format.rate format.channels pitch with
    | .error error => (opening, .error (.wave error))
    | .ok wave =>
      let speaker : Speaker := ⟨true, volume, false, false, 0⟩
      (opening ++ .loadTone wave :: speaker.applyVolume, .ok speaker)

/-- The length of a tick in milliseconds: one sixtieth of a second. -/
def tickLength : Binary64 := ⟨0x408F400000000000⟩ / ⟨0x404E000000000000⟩

/-- Whole milliseconds for a number of ticks. -/
def milliseconds (ticks : Int) : Except ArithmeticError Int := do
  let ticks ← Binary64.ofInt ticks
  (ticks * tickLength).truncated

/-- A byte of ticks is never too long to be told. -/
theorem milliseconds_byte_isOk (ticks : UInt8) : (milliseconds ticks.toNat).isOk = true := by
  have byte_isOk : ∀ n < 256, (milliseconds (n : Nat)).isOk = true := by decide +kernel
  exact byte_isOk ticks.toNat ticks.toNat_lt

/-- Starts the tone for a number of ticks in place of one that is playing.  A number of
ticks too large for a time is noted, but the mixer hears nothing of it. -/
def play (s : Speaker) (ticks : Int) : Speaker × List DeviceCall × Option ArithmeticError :=
  let after := { s with playing := true, duration := ticks }
  if s.audible then
    let ending : List DeviceCall := if s.playing then [.stopTone] else []
    match milliseconds ticks with
    | .ok time => (after, ending ++ [.playTone (-1) time], none)
    | .error error => (after, ending, some error)
  else (after, [], none)

/-- No byte of ticks is too large for a time. -/
theorem play_byte_error (s : Speaker) (ticks : UInt8) : (s.play ticks.toNat).2.2 = none := by
  have htime := milliseconds_byte_isOk ticks
  unfold play
  cases hms : milliseconds ticks.toNat with
  | error error => rw [hms] at htime; cases htime
  | ok time => cases s.audible <;> rfl

def stop (s : Speaker) : Speaker × List DeviceCall :=
  ({ s with playing := false, duration := 0 }, if s.audible then [.stopTone] else [])

def mute (s : Speaker) : Speaker × List DeviceCall :=
  let after := { s with muted := true }
  (after, after.applyVolume)

def unmute (s : Speaker) : Speaker × List DeviceCall :=
  let after := { s with muted := false }
  (after, after.applyVolume)

/-- Sets the volume, brought into the range from zero to one. -/
def setVolume (s : Speaker) (volume : Amount) : Speaker × List DeviceCall :=
  let after := { s with volume := volume.clamped }
  (after, after.applyVolume)

end Speaker

end ChipEight
