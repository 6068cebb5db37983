import ProfileLexer.Limits

/-!
A bounded buffer of events. A full buffer drops its oldest event for a new one.
-/

namespace ProfileLexer

/-- The latest events, oldest first. A buffer that is made by `EventBuffer.ofCapacity` keeps at
least one, and the bound is enforced where events are added. -/
structure EventBuffer where
  capacity : Nat
  events : List Event
  deriving Inhabited

/-- How many events of each kind a buffer holds. Events that have been dropped are not counted. -/
structure EventSummary where
  total : Nat
  errors : Nat
  warnings : Nat
  infos : Nat
  debugs : Nat
  /-- Errors whose code calls for a halt. -/
  critical : Nat
  deriving DecidableEq, Inhabited

namespace EventSummary

def hasErrors (summary : EventSummary) : Bool := summary.errors > 0

def hasWarnings (summary : EventSummary) : Bool := summary.warnings > 0

def hasCritical (summary : EventSummary) : Bool := summary.critical > 0

end EventSummary

namespace EventBuffer

def ofCapacity (capacity : Nat) : EventBuffer :=
  ⟨max capacity 1, []⟩

def add (buffer : EventBuffer) (event : Event) : EventBuffer :=
  { buffer with
    events := buffer.events.drop (buffer.events.length + 1 - buffer.capacity) ++ [event] }

/-- The buffer after several events, oldest first. As with one event after the other only the latest
are kept, but what is too much is dropped in one go. -/
def addAll (buffer : EventBuffer) (events : List Event) : EventBuffer :=
  let all := buffer.events ++ events
  { buffer with events := all.drop (all.length - buffer.capacity) }

def clear (buffer : EventBuffer) : EventBuffer :=
  { buffer with events := [] }

def ofLevel (buffer : EventBuffer) (level : LogLevel) : List Event :=
  buffer.events.filter (·.level == level)

def ofCode (buffer : EventBuffer) (code : Code) : List Event :=
  buffer.events.filter (·.code == code)

def hasError (buffer : EventBuffer) (code : Code) : Bool :=
  buffer.events.any fun event => event.level == .error && event.code == code

def hasSuccess (buffer : EventBuffer) (code : Code) : Bool :=
  buffer.events.any fun event => event.level == .info && event.code == code

def summary (buffer : EventBuffer) : EventSummary where
  total := buffer.events.length
  errors := (buffer.ofLevel .error).length
  warnings := (buffer.ofLevel .warning).length
  infos := (buffer.ofLevel .info).length
  debugs := (buffer.ofLevel .debug).length
  critical := ((buffer.ofLevel .error).filter (·.code.halts)).length

end EventBuffer

end ProfileLexer
