/-
Module: Bytemark.Log
Purpose: Activity messages, and what a logger keeps of them.
Trusted boundary: none
Main exports: Log.Level, Log.Entry, Logger, Logger.isEnabled, Logger.record
-/

namespace Bytemark

namespace Log

/-- How much a message matters. -/
inductive Level where
  | debug
  | info
  | warn
  | severe
deriving Repr, Inhabited, DecidableEq

/-- Position on the scale from chatter to alarm. -/
def Level.rank : Level → Nat
  | .debug => 0
  | .info => 1
  | .warn => 2
  | .severe => 3

/-- Whether the level is at least the other one. -/
def Level.atLeast (level least : Level) : Bool := least.rank ≤ level.rank

/-- The name of a level in a trace. -/
def Level.traceName : Level → String
  | .debug => "DEBUG"
  | .info => "INFO"
  | .warn => "WARN"
  | .severe => "ERROR"

/-- A message that was kept. -/
structure Entry where
  level : Level
  message : String
deriving Repr, Inhabited, DecidableEq

end Log

open Log in
/-- A sink for activity messages. -/
inductive Logger where
  /-- Drops everything. -/
  | silent
  /-- Keeps messages of at least this level. -/
  | recording (least : Level)
  /-- Hands messages of at least this level to the trace of the process. -/
  | tracing (least : Level)
deriving Repr, Inhabited, DecidableEq

namespace Logger

/-- The name under which messages enter a trace. -/
def traceTarget : String := "bomtext_fs"

/-- Whether a message of this level would be kept. -/
def isEnabled : Logger → Log.Level → Bool
  | .silent, _ => false
  | .recording least, level => level.atLeast least
  | .tracing least, level => level.atLeast least

/-- What the logger keeps of one message. -/
def record (logger : Logger) (level : Log.Level) (message : String) : List Log.Entry :=
  if logger.isEnabled level then [⟨level, message⟩] else []

end Logger

end Bytemark
