import ProfileLexer.Log.Buffer
import ProfileLexer.Settings.Basic

/-!
The log of a process as one value: what has been recorded, what the process is working on, and the
preferences that decide what is recorded.
-/

namespace ProfileLexer

structure Journal where
  limit : LogLevel
  preferences : LogPreferences
  buffer : EventBuffer
  context : Option RunContext
  deriving Inhabited

namespace Journal

def empty (preferences : LogPreferences) : Journal :=
  ⟨.debug, preferences, .ofCapacity Limits.logBufferSize, none⟩

/-- The journal of a process that may have one already. The first one stays, and a second is an
error rather than a change of preferences. -/
def install? (current : Option Journal) (journal : Journal) : Except String Journal :=
  match current with
  | some _ => .error "Global logger already initialized"
  | none => .ok journal

def setContext (journal : Journal) (context : Option RunContext) : Journal :=
  { journal with context := context }

/-- The journal with an event as it is, if its level is within the limit. Neither the preferences
nor the context are looked at. -/
def record (journal : Journal) (event : Event) : Journal :=
  if event.level.within journal.limit then
    { journal with buffer := journal.buffer.add event }
  else journal

/-- The journal with an entry, which takes the context of the journal if it has none. -/
def write (journal : Journal) (entry : Entry) : Journal :=
  match journal.preferences.deliver { entry with context := entry.context.or journal.context } with
  | some event => journal.record event
  | none => journal

/-- The journal after `steps` have been taken inside a context. The context from before is put back,
even if the steps have set another. -/
def within (journal : Journal) (context : RunContext) (steps : Journal → Journal) : Journal :=
  (steps (journal.setContext (some context))).setContext journal.context

def diagnostics (journal : Journal) : String :=
  Text.lines [
    "=== Logging System Diagnostics ===",
    "Initialized: true",
    "Service level: " ++ journal.limit.word,
    "Registered codes: " ++ toString Code.all.length,
    "",
    journal.preferences.report]

end Journal

end ProfileLexer
