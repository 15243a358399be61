import UserThreads.Log

/-!
Settings of a runtime, and the check that they can drive one.
-/

namespace UserThreads

structure Config where
  timerInterval : Duration
  stackSize : UInt64
  maxThreads : UInt32
  preemption : Bool
  deriving DecidableEq, Repr

namespace Config

/-- The smallest stack a thread is run on, in bytes. -/
def minStackSize : UInt64 := 16384

def standard : Config where
  timerInterval := .ofMillis 15
  stackSize := 8388608
  maxThreads := 50000
  preemption := true

instance : Inhabited Config := ⟨standard⟩

/-- The first reason, in a fixed order, why the settings cannot drive a runtime. -/
def defect? (config : Config) : Option Cause :=
  if config.timerInterval.isZero then some .zeroInterval
  else if config.stackSize < minStackSize then some (.stackTooSmall config.stackSize minStackSize)
  else if config.maxThreads = 0 then some .zeroMaxThreads
  else none

def validate (config : Config) : Except Failure Unit :=
  match config.defect? with
  | none => .ok ()
  | some cause => .error ⟨Failure.invalid, cause⟩

def validationLog (config : Config) : List LogEvent :=
  config.defect?.toList.map .configRefused

def describe (config : Config) : String :=
  "Config \x7b timer_interval: " ++ config.timerInterval.text ++
    ", stack_size: " ++ toString config.stackSize.toNat ++
    ", max_threads: " ++ toString config.maxThreads.toNat ++
    ", preemption: " ++ toString config.preemption ++ " \x7d"

inductive Setting
  | timerInterval (interval : Duration)
  | stackSize (bytes : UInt64)
  | maxThreads (count : UInt32)
  | preemption (enabled : Bool)
  deriving DecidableEq, Repr

def set (config : Config) : Setting → Config
  | .timerInterval interval => { config with timerInterval := interval }
  | .stackSize bytes => { config with stackSize := bytes }
  | .maxThreads count => { config with maxThreads := count }
  | .preemption enabled => { config with preemption := enabled }

/-- The settings after each of a list of changes. -/
def history (config : Config) : List Setting → List Config
  | [] => []
  | setting :: rest => config.set setting :: history (config.set setting) rest

end Config

end UserThreads
