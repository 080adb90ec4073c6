import VirtHost.Host.Program

/-! # Polling

`Poll.await` repeats a check until it is true or the time is over. The check is made at least once,
and never later than the timeout. An error of the check ends the poll at once. Without an interval
no time passes between checks, so the poll goes on until the check is true or fails.
-/

namespace VirtHost
set_option autoImplicit false

structure Poll where
  timeout : Duration
  interval : Duration
  deriving DecidableEq

namespace Poll

/-- Makes a check and, until it is true, further ones with a pause before each, unless the pause would
end after the timeout; `elapsed` is the time slept so far. -/
def awaitFrom (p : Poll) (hp : p.interval.millis ≠ 0) (check : Action Bool) (elapsed : Duration) :
    Action Bool := do
  if ← check then pure true
  else if p.timeout.millis < elapsed.millis + p.interval.millis then pure false
  else
    Host.sleep p.interval
    awaitFrom p hp check ⟨elapsed.millis + p.interval.millis⟩
termination_by p.timeout.millis - elapsed.millis

/-- One check of a poll without end: the outcome if it is true or an error. -/
def round (check : Action Bool) : Program (Option (Except Error Bool)) :=
  check.attempt.bind fun
    | .ok false => .ask (.sleep ⟨0⟩) fun _ => .done none
    | outcome => .done (some outcome)

/-- Whether the check becomes true in time. The clock is idealised: only pauses take time, and each
takes exactly the interval; no sum of times is too large. -/
def await (p : Poll) (check : Action Bool) : Action Bool :=
  if hp : p.interval.millis = 0 then Action.ofReply (.again (round check) .done)
  else p.awaitFrom hp check ⟨0⟩

end Poll
end VirtHost
