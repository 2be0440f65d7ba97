/-
Sessions against a script.

A script says what happens before every frame: how much time goes by, what becomes of the
files, and what the keyboard did.  Where the script ends, the window is closed.  Time moves
only by the script and by sleeping, so that a script decides everything about a session.  A
change that cannot be made to the files ends both at once.
-/
import ChipEight.Pacing
import ChipEight.Session

namespace ChipEight

/-- A change to the files that programs are loaded from. -/
inductive ShelfEdit where
  | remove (name : String)
  | put (name : String) (bytes : List UInt8)
  deriving DecidableEq, Repr

/-- Why the files cannot be changed. -/
inductive EditError where
  /-- The name can be that of no file. -/
  | impossibleName
  | refused (error : ReadError)
  deriving DecidableEq, Repr

namespace ShelfEdit

def name : ShelfEdit → String
  | remove name => name
  | put name _ => name

/-- The files with a change made to them. -/
def apply (shelf : Shelf) (edit : ShelfEdit) : Except EditError Shelf :=
  if edit.name.contains (Char.ofNat 0) then .error .impossibleName
  else
    let changed := match edit with
      | remove name => shelf.remove? name
      | put name bytes => shelf.write? name bytes
    match changed with
    | .error error => .error (.refused error)
    | .ok shelf => .ok shelf

end ShelfEdit

/-- What happens before one frame.  The files change before any of the events is handled. -/
structure Scene where
  advance : Option Binary64
  edits : List ShelfEdit
  events : List HostEvent
  deriving DecidableEq, Repr

/-- A session in the middle of its script. -/
structure Replay where
  session : Session
  shelf : Shelf
  time : Binary64
  /-- What is still to happen. -/
  script : List Scene
  /-- The times slept, the last first. -/
  sleeps : List Binary64
  /-- How often the keyboard was polled. -/
  polls : Nat
  /-- Why the script broke off. -/
  failure : Option EditError

namespace Replay

/-- The scene of a script that has come to its end. -/
def lastScene : Scene := ⟨none, [], [.quit]⟩

/-- Lets the next scene happen. -/
def poll (r : Replay) : Replay :=
  let scene := r.script.headD lastScene
  let r := { r with
    time := match scene.advance with
      | none => r.time
      | some s => r.time + s
    script := r.script.tail
    polls := r.polls + 1 }
  match scene.edits.foldlM ShelfEdit.apply r.shelf with
  | .error error => { r with session := r.session.onConsole .stop, failure := some error }
  | .ok shelf =>
    let happenings := scene.events.map fun event => (shelf.read, event)
    { r with session := r.session.poll happenings, shelf := shelf }

/-- Sleeps, if there is time to sleep. -/
def sleep (seconds : Binary64) (r : Replay) : Replay :=
  if Binary64.zero < seconds then
    { r with time := r.time + seconds, sleeps := seconds :: r.sleeps }
  else r

/-- The actions of the session. -/
def pace : Pace (StateM Replay) Binary64 :=
  { now := do return (← get).time
    sleep := fun seconds => modify (sleep seconds)
    poll := modify poll
    tick := modify fun r => { r with session := r.session.tick }
    going := do return (← get).session.console.looping }

/-- The whole session.  No script needs more turns than it has scenes, and one for the
closing of the window. -/
def run (r : Replay) : Replay :=
  let r := { r with session := r.session.start }
  let (_, r) := (pace.run r.session.console.interval (r.script.length + 2)).run r
  { r with session := r.session.finish }

end Replay

end ChipEight
