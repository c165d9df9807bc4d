/-!
Contract: moments and waits.

Owns: the timer that a process waits by, and the moment at which a wait ends: a pause, the delay
of a save, the time until a signal fires. Moments and durations are whole milliseconds, which is
the granularity of the timer.

Does not own: what happens while time passes, and how long somebody watches for a signal,
which has no bound.
-/

namespace RatchetMessaging

/-- The timer of the runtime that a process runs on. It is not part of the program, which asks it
for waits of any length. -/
structure Timer where
  /-- The longest wait in milliseconds. -/
  longestWait : Nat
  /-- A wait of some length lets some time pass. -/
  positive : 0 < longestWait

/-- The timer of the asynchronous runtime that the program is built on. Its library lets no single
wait last longer than thirty years of 365 days. -/
def Timer.thirtyYears : Timer where
  longestWait := 30 * 365 * 24 * 60 * 60 * 1000
  positive := by decide

/-- The moment at which a wait that starts at `clock` ends. A longer wait than the timer's longest
one is cut to it. A wait that no process makes is by the timer of the runtime. -/
def waitEnd (clock duration : Nat) (timer : Timer := .thirtyYears) : Nat :=
  clock + min duration timer.longestWait

end RatchetMessaging
