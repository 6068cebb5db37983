import ProfileLexer.Log.Code
import ProfileLexer.Position.Basic
import ProfileLexer.Value.JsonWriter

/-!
Events of the log. Code that logs produces entries; an entry becomes an event when the preferences
of the log let it through.
-/

namespace ProfileLexer

inductive LogLevel where
  | error
  | warning
  | info
  | debug
  deriving DecidableEq, Repr, Inhabited

namespace LogLevel

def rank : LogLevel → Nat
  | error => 0
  | warning => 1
  | info => 2
  | debug => 3

def word : LogLevel → String
  | error => "ERROR"
  | warning => "WARN"
  | info => "INFO"
  | debug => "DEBUG"

def name : LogLevel → String
  | error => "Error"
  | warning => "Warning"
  | info => "Info"
  | debug => "Debug"

/-- Whether a log that goes as far as `limit` takes events of a level. -/
def within (level limit : LogLevel) : Bool :=
  level.rank ≤ limit.rank

def min (first second : LogLevel) : LogLevel :=
  if first.rank ≤ second.rank then first else second

/-- The level of a number, where every number above two stands for `debug`. -/
def ofNumber : Nat → LogLevel
  | 0 => error
  | 1 => warning
  | 2 => info
  | _ => debug

end LogLevel

/-- Named details of an event, sorted by name and with every name once. That holds of what
`Details.insert` makes; the type itself takes any list. -/
abbrev Details := List (String × String)

/-- The details with one more, which replaces an earlier one of its name. -/
def Details.insert (details : Details) (name value : String) : Details :=
  match details with
  | [] => [(name, value)]
  | (first, old) :: rest =>
    if name < first then (name, value) :: (first, old) :: rest
    else if name = first then (name, value) :: rest
    else (first, old) :: Details.insert rest name value

/-- One record of the log. It has no time of its own; the time is given when it is printed. -/
structure Event where
  level : LogLevel
  code : Code
  message : String
  span : Option Span
  details : Details
  deriving DecidableEq, Inhabited

namespace Event

def error (code : Code) (message : String) : Event :=
  ⟨.error, code, message, none, []⟩

def warning (message : String) : Event :=
  ⟨.warning, .plainWarning, message, none, []⟩

def codedWarning (code : Code) (message : String) : Event :=
  ⟨.warning, code, message, none, []⟩

def info (message : String) : Event :=
  ⟨.info, .plainInfo, message, none, []⟩

def success (code : Code) (message : String) : Event :=
  ⟨.info, code, message, none, []⟩

def debug (message : String) : Event :=
  ⟨.debug, .plainDebug, message, none, []⟩

def withDetail (event : Event) (name value : String) : Event :=
  { event with details := Details.insert event.details name value }

def withDetails (event : Event) (details : List (String × String)) : Event :=
  details.foldl (fun event (name, value) => event.withDetail name value) event

def withSpan (event : Event) (span : Option Span) : Event :=
  { event with span := span.or event.span }

def line (event : Event) : String :=
  let place :=
    match event.span with
    | some span => " at " ++ span.start.text
    | none => ""
  "[" ++ event.level.word ++ "] " ++ event.code.name ++ " - " ++ event.message ++ place

/-- An event that happened at a time, in milliseconds, as a record with sorted fields. Details,
error properties and a place are left out where there are none. -/
def toValue (event : Event) (milliseconds : Nat) : Value :=
  .record <|
    [("category", .text event.code.category), ("code", .text event.code.name)] ++
    (if event.details.isEmpty then []
      else [("context", .record (event.details.map fun (name, value) => (name, .text value)))]) ++
    (if event.level = .error then
      [("error_metadata", .record [
        ("description", .text event.code.description),
        ("recommended_action", .text event.code.action),
        ("recoverable", .flag event.code.isRecoverable),
        ("requires_halt", .flag event.code.halts)])]
      else []) ++
    [("level", .text event.level.word), ("message", .text event.message),
      ("severity", .text event.code.severity.word)] ++
    (match event.span with
      | some span => [("span", .record [
          ("end_offset", .nat span.stop.offset),
          ("start_column", .nat span.start.column),
          ("start_line", .nat span.start.line),
          ("start_offset", .nat span.start.offset)])]
      | none => []) ++
    [("timestamp_ms", .nat milliseconds)]

end Event

end ProfileLexer
