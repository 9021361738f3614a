import Replatform.Service.Policy
import Replatform.Work.Basic

/-!
# Trying Again

A call that fails for a reason that may pass is made again after a pause, as often as
the policy allows. The signal is asked before every attempt and every pause, and both
end the moment it is aborted. The last failure is returned as it is.

## Main definitions

* `Work.pause`: Wait before another attempt.
* `Work.retrying`: Do a task as often as it takes and the policy allows.
-/

namespace Replatform

namespace Work

variable {σ α : Type}

/-- Wait before another attempt. -/
def pause (policy : RetryPolicy) (signal : SignalId) (number : Nat) : Work σ ServiceError Unit := do
  -- The random number is used up even if there is no pause.
  let ms := policy.delay (← draw) number
  check signal
  note (.paused ms)
  wait signal ms

/-- Make attempts, of which `left` may still follow this one, where the next pause is the one
    before the retry `number`. -/
def attempts (policy : RetryPolicy) (signal : SignalId) (task : Work σ ServiceError α) :
    (left number : Nat) → Work σ ServiceError α
  | 0, _ => do
    check signal
    task
  | left + 1, number => do
    check signal
    match ← attempt task with
    | .ok a => return a
    | .error e =>
      if e.isRetryable then
        pause policy signal number
        attempts policy signal task left (number + 1)
      else fail e

/-- Do a task as often as it takes and the policy allows. -/
def retrying (policy : RetryPolicy) (signal : SignalId) (task : Work σ ServiceError α) :
    Work σ ServiceError α :=
  attempts policy signal task policy.maxRetries 1

end Work

end Replatform
