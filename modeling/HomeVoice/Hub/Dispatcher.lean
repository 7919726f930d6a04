import HomeVoice.Command

/-!
# Handing requests over

The system that drives the devices takes its time. Whoever hands a request over waits no longer
than a given time and then gives up; nothing is tried twice.
-/

namespace HomeVoice.Hub

/-- How the driving system behaves. -/
inductive Dispatcher where
  /-- It answers after so many milliseconds. -/
  | answering (result : Except Error Unit) (ms : Nat)
  /-- It never answers. -/
  | stuck

namespace Dispatcher

/-- It takes its time, and everything succeeds. -/
def slow (ms : Nat) : Dispatcher := .answering (.ok ()) ms

def succeeding : Dispatcher := slow 0

def failing : Dispatcher := .answering (.error (.external (.failed "dispatch"))) 0

/-- What becomes of a request for which one waits no longer than a given time, and after how many
milliseconds. -/
def outcome (dispatcher : Dispatcher) (timeout : Nat) : Except Error Unit × Nat :=
  let givenUp : Except Error Unit × Nat :=
    (.error (.external (.timeout "dispatch" timeout)), timeout)
  match dispatcher with
  | .answering result ms => if ms ≤ timeout then (result, ms) else givenUp
  | .stuck => givenUp

end Dispatcher

end HomeVoice.Hub
