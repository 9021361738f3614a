/-!
# Durations

Spans of time in nanoseconds, and the text that is shown for them, which leaves out
what is small beside the rest.

## Main definitions

* `Duration`: A span of time.
* `Duration.text`: What is shown.
* `Duration.sum`: Several spans together.
-/

namespace Replatform

/-- A span of time. -/
structure Duration where
  /-- The whole span in nanoseconds. -/
  totalNanos : Nat
deriving DecidableEq, Repr, Inhabited

namespace Duration

/-- A span given in seconds and nanoseconds. -/
def ofParts (secs nanos : Nat) : Duration :=
  ⟨secs * 1000000000 + nanos⟩

/-- A span given in milliseconds. -/
def ofMillis (ms : Nat) : Duration :=
  ⟨ms * 1000000⟩

/-- The whole seconds of a span. -/
def secs (d : Duration) : Nat :=
  d.totalNanos / 1000000000

/-- The nanoseconds of a span beyond its whole seconds. -/
def nanos (d : Duration) : Nat :=
  d.totalNanos % 1000000000

/-- The whole milliseconds of a span. -/
def millis (d : Duration) : Nat :=
  d.totalNanos / 1000000

/-- The seconds fit an unsigned integer of 64 bits. -/
def Fits (d : Duration) : Prop :=
  d.secs < UInt64.size

instance (d : Duration) : Decidable d.Fits :=
  inferInstanceAs (Decidable (_ < _))

/-- Several spans together. -/
def sum (l : List Duration) : Duration :=
  ⟨l.foldl (fun nanos d => nanos + d.totalNanos) 0⟩

/-- What is shown of a span: seconds below a minute, minutes and seconds below an hour, and
    hours and minutes from there on. -/
def text (d : Duration) : String :=
  let s := d.secs
  if s < 60 then toString s ++ "s"
  else if s < 3600 then toString (s / 60) ++ "m " ++ toString (s % 60) ++ "s"
  else toString (s / 3600) ++ "h " ++ toString (s % 3600 / 60) ++ "m"

end Duration

end Replatform
