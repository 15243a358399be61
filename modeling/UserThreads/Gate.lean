import UserThreads.Log

/-!
Gates between a runtime and its timer. While the gate of a runtime is closed,
the timer does not enter the scheduler.

The timer of a gate is a plan: which of the closings that find the gate open it
comes in before. Beside that, one entry can be ordered ahead, a number of
closings or openings from now.
-/

namespace UserThreads

inductive GateKind
  /-- Never lets a timer in. -/
  | cooperative
  /-- Driven by a timer of the operating system. -/
  | signal
  /-- Driven by its plan. -/
  | scripted
  /-- Like a scripted one, but cannot be installed. -/
  | refusing
  deriving DecidableEq, Repr

structure GateTally where
  installs : Nat
  closings : Nat
  openings : Nat
  arms : Nat
  disarms : Nat
  fired : Nat
  /-- The interval of the last arming. -/
  interval : Duration
  deriving DecidableEq, Repr

structure Gate where
  kind : GateKind
  /-- Whether the timer is due at a closing, by how many found the gate open. -/
  plan : Nat → Bool
  installed : Bool
  closed : Bool
  /-- Closings that find the gate open until the ordered entry; zero for none. -/
  beforeClosing : Nat
  /-- Openings until the ordered entry; zero for none. -/
  afterOpening : Nat
  /-- Closings that found the gate open. -/
  seen : Nat
  tally : GateTally

namespace Gate

def new (kind : GateKind) (plan : Nat → Bool) : Gate where
  kind := kind
  plan := plan
  installed := false
  closed := false
  beforeClosing := 0
  afterOpening := 0
  seen := 0
  tally := {
    installs := 0, closings := 0, openings := 0, arms := 0, disarms := 0, fired := 0
    interval := .zero }

def never : Nat → Bool := fun _ => false

/-- The plan under which the timer comes in before each closing whose number is
a multiple of `period`; never if that is zero. -/
def every (period : Nat) : Nat → Bool := fun number => 0 < period && number % period == 0

instance : Inhabited Gate := ⟨new .cooperative never⟩

def install (gate : Gate) : Except Failure Gate :=
  match gate.kind with
  | .refusing => .error ⟨1, .stated "scripted install failure"⟩
  | _ => .ok { gate with
      installed := true
      tally := { gate.tally with installs := gate.tally.installs + 1 } }

def installationLog (gate : Gate) : List LogEvent :=
  match gate.kind with
  | .signal => [.handlerInstalled]
  | _ => []

/-- Closes the gate, and says whether the timer gets in first. -/
def close (gate : Gate) : Gate × Bool :=
  let counted := { gate.tally with closings := gate.tally.closings + 1 }
  if gate.closed then ({ gate with tally := counted }, false)
  else
    let seen := gate.seen + 1
    let fires := gate.installed && (gate.beforeClosing == 1 || gate.plan seen)
    ({ gate with
        closed := true
        seen
        beforeClosing := gate.beforeClosing - 1
        tally := { counted with fired := counted.fired + if fires then 1 else 0 } },
      fires)

/-- Opens the gate, and says whether the timer gets in at once; then the gate
is closed again while it is in. -/
def reopen (gate : Gate) : Gate × Bool :=
  let fires := gate.installed && gate.afterOpening == 1
  ({ gate with
      closed := fires
      afterOpening := gate.afterOpening - 1
      tally := { gate.tally with
        openings := gate.tally.openings + 1
        fired := gate.tally.fired + if fires then 1 else 0 } },
    fires)

/-- The period of the operating system's timer: signed whole seconds, and
microseconds. -/
def period (interval : Duration) : Int64 × Nat :=
  (interval.seconds.toInt64, interval.nanos / 1000)

/-- Restarts the timer for a fresh full interval. The operating system refuses
a negative period. -/
def arm (gate : Gate) (interval : Duration) : Except Failure Gate :=
  if gate.kind = .signal ∧ (period interval).1 < 0 then
    .error ⟨Failure.invalid, .stated "failed to arm interval timer"⟩
  else .ok { gate with tally := { gate.tally with arms := gate.tally.arms + 1, interval } }

def disarm (gate : Gate) : Gate :=
  { gate with tally := { gate.tally with disarms := gate.tally.disarms + 1 } }

end Gate

end UserThreads
