import ProfileLexer.Limits

/-!
Entries of the log: events as the code that logs them sees them, before the preferences of the log
are applied. `Logged` is a computation that leaves entries behind.
-/

namespace ProfileLexer

/-- What a thread is working on. Outside the pool there is neither a worker nor a chunk, and the
label alone tells runs apart. -/
structure RunContext where
  label : String
  worker : Option Nat
  chunk : Option Nat
  deriving DecidableEq, Inhabited

namespace RunContext

def ofLabel (label : String) : RunContext :=
  ⟨label, none, none⟩

def ofChunk (label : String) (worker chunk : Nat) : RunContext :=
  ⟨label, some worker, some chunk⟩

/-- The event with the context among its details. A detail that the event already has under one of
these names is replaced. -/
def attach (context : RunContext) (event : Event) : Event :=
  let event := event.withDetail "run" context.label
  let event :=
    match context.worker with
    | some worker => event.withDetail "worker" (toString worker)
    | none => event
  match context.chunk with
  | some chunk => event.withDetail "chunk" (toString chunk)
  | none => event

end RunContext

/-- What a user asks of the log. Preferences decide what is shown and how, and have no bearing on
the result of a run. -/
structure LogPreferences where
  structured : Bool
  console : Bool
  minLevel : LogLevel
  /-- Log events that report how long something took. -/
  performance : Bool
  /-- Add the run context to the details of every event. -/
  runContext : Bool
  deriving DecidableEq, Inhabited

/-- An event on its way to the log. Whether it is delivered, and with what context, is decided when
it is written. -/
structure Entry where
  event : Event
  /-- The event reports how long something took. -/
  timed : Bool
  context : Option RunContext
  deriving DecidableEq, Inhabited

namespace Entry

def plain (event : Event) : Entry :=
  ⟨event, false, none⟩

def performance (event : Event) : Entry :=
  ⟨event, true, none⟩

/-- The entry as logged inside a context. A context of its own stays, so that the innermost one
counts. -/
def inside (context : RunContext) (entry : Entry) : Entry :=
  { entry with context := entry.context.or (some context) }

end Entry

/-- A message cut to the longest one allowed, at a character boundary, with three dots behind the
cut. The dots are not counted, so that a cut message may be longer than the limit. -/
def shortenMessage (message : String) : String :=
  if message.utf8ByteSize ≤ Limits.maxMessageBytes then message
  else
    let chars := message.toList
    let kept := Text.boundaryBelow Limits.maxMessageBytes 0 chars
    match Text.charsWithin? 0 kept chars with
    | some count => String.ofList (chars.take count) ++ "..."
    | none => message

/-- The event that an entry becomes, if the preferences let it through. Levels play no part here;
they are looked at when the event is recorded. -/
def LogPreferences.deliver (preferences : LogPreferences) (entry : Entry) : Option Event :=
  if entry.timed && !preferences.performance then none
  else
    let event := { entry.event with message := shortenMessage entry.event.message }
    match entry.context with
    | some context => some (if preferences.runContext then context.attach event else event)
    | none => some event

/-- A computation that leaves log entries behind, oldest first, whether it succeeds or fails. It can
not look at what has been logged. -/
structure Logged (ε α : Type) where
  entries : List Entry
  result : Except ε α

namespace Logged

variable {ε δ α β : Type}

def pure (value : α) : Logged ε α :=
  ⟨[], .ok value⟩

def fail (error : ε) : Logged ε α :=
  ⟨[], .error error⟩

def bind (first : Logged ε α) (next : α → Logged ε β) : Logged ε β :=
  match first.result with
  | .ok value =>
    let second := next value
    ⟨first.entries ++ second.entries, second.result⟩
  | .error error => ⟨first.entries, .error error⟩

instance : Monad (Logged ε) where
  pure := pure
  bind := bind

def write (entries : List Entry) : Logged ε Unit :=
  ⟨entries, .ok ()⟩

def log (event : Event) : Logged ε Unit :=
  write [.plain event]

/-- Leaves one event behind that reports how long something took. It is dropped when the preferences
ask for no such events. -/
def logTimed (event : Event) : Logged ε Unit :=
  write [.performance event]

def ofExcept (result : Except ε α) : Logged ε α :=
  ⟨[], result⟩

def mapError (wrap : ε → δ) (computation : Logged ε α) : Logged δ α :=
  ⟨computation.entries,
    match computation.result with
    | .ok value => .ok value
    | .error error => .error (wrap error)⟩

def inside (context : RunContext) (computation : Logged ε α) : Logged ε α :=
  { computation with entries := computation.entries.map (Entry.inside context) }

end Logged

end ProfileLexer
