/-! # Log entries

What the parts of the program report while they work. An activity returns its entries, the earliest ones
first, beside its result.
-/

namespace QueryTemplates

/-- How important an entry is. -/
inductive LogLevel
  | debug
  | info
  | warning
  | error
deriving DecidableEq

/-- The part of the program that reports. -/
inductive LogSource
  | loader
  | renderer
  | manager
  | server
deriving DecidableEq

/-- One report. -/
structure LogEntry where
  level : LogLevel
  source : LogSource
  message : String
deriving DecidableEq

/-- A result, and what was reported on the way to it. -/
structure Logged (α : Type) where
  log : List LogEntry
  result : α

namespace Logged

variable {α β : Type}

/-- A result with nothing to report. -/
def quiet (result : α) : Logged α := ⟨[], result⟩

/-- The activity after one report. -/
def after (entry : LogEntry) (activity : Logged α) : Logged α :=
  { activity with log := entry :: activity.log }

/-- The activity with its result changed. -/
def map (change : α → β) (activity : Logged α) : Logged β := ⟨activity.log, change activity.result⟩

/-- One activity after another, which depends on its result. -/
def andThen (first : Logged α) (second : α → Logged β) : Logged β :=
  let later := second first.result
  ⟨first.log ++ later.log, later.result⟩

end Logged

end QueryTemplates
