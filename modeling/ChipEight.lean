import ChipEight.Main
import ChipEight.Session.Replay
import ChipEight.Proofs.LifeCycle
import ChipEight.Proofs.Loading
import ChipEight.Proofs.Classification
import ChipEight.Proofs.Completion
import ChipEight.Proofs.Mirror
import ChipEight.Proofs.Keys
import ChipEight.Proofs.KeyHistory
import ChipEight.Proofs.Taps
import ChipEight.Proofs.KeyWait
import ChipEight.Proofs.Calls
import ChipEight.Proofs.Executions
import ChipEight.Proofs.Installing
import ChipEight.Proofs.Timers
import ChipEight.Proofs.Alike
import ChipEight.Proofs.Speed
import ChipEight.Proofs.Drawing
import ChipEight.Proofs.Parity
import ChipEight.Proofs.Sprite
import ChipEight.Proofs.Running
import ChipEight.Proofs.Writes
import ChipEight.Proofs.Changes
import ChipEight.Proofs.Arithmetic
import ChipEight.Proofs.Successor
import ChipEight.Proofs.Unseen
import ChipEight.Proofs.Footprint
import ChipEight.Proofs.Saving
import ChipEight.Proofs.Window
import ChipEight.Proofs.Playback
import ChipEight.Proofs.Volume
import ChipEight.Proofs.Pacing
import ChipEight.Proofs.Tones
import ChipEight.Proofs.InStep
import ChipEight.Proofs.KeyMap
import ChipEight.Proofs.Dump
