/-
Pacing: frames at even distances in time.

A run of frames is made of five actions, which a `Pace` holds: reading a clock, sleeping,
polling the operator, one frame, and asking whether to go on.  Each frame has a deadline
one interval behind that of the frame before, and the run sleeps until then.  A run that
finds itself behind by more than one interval gives the lost time up: its deadlines start
anew from the time the clock shows then.

Times are anything that can be added, subtracted and compared, and the actions may belong
to any monad, so that the run on a real clock and a run on paper are the same definition.
Whether a run ends is up to its actions; `turns` is given a bound and says if it was
reached.
-/

namespace ChipEight

/-- The actions that a run of frames is made of. -/
structure Pace (m : Type → Type) (τ : Type) where
  /-- Reads the clock. -/
  now : m τ
  /-- Lets time pass.  A time that is not positive is no time to pass. -/
  sleep : τ → m Unit
  /-- What happens before every frame. -/
  poll : m Unit
  /-- One frame. -/
  tick : m Unit
  /-- Whether to go on. -/
  going : m Bool

namespace Pace

variable {m : Type → Type} [Monad m] {τ : Type} [Add τ] [Sub τ] [Neg τ] [LT τ] [DecidableLT τ]

/-- One turn: the poll, the frame and the sleep, for a frame with the deadline `next`.  The
answer is the deadline of the frame after it, or `none` if there is to be none. -/
def turn (p : Pace m τ) (interval next : τ) : m (Option τ) := do
  if !(← p.going) then
    return none
  p.poll
  if !(← p.going) then
    return none
  p.tick
  let next := next + interval
  let delay := next - (← p.now)
  let next ← if delay < -interval then p.now else pure next
  p.sleep delay
  return some next

/-- Turns until there is to be no more, but not more than a number of them.  The answer is
whether the run came to its end. -/
def turns (p : Pace m τ) (interval : τ) : Nat → τ → m Bool
  | 0, _ => return false
  | n + 1, next => do
    match ← p.turn interval next with
    | none => return true
    | some next => p.turns interval n next

/-- A run of frames from now on. -/
def run (p : Pace m τ) (interval : τ) (bound : Nat) : m Bool := do
  p.turns interval bound (← p.now)

end Pace

end ChipEight
