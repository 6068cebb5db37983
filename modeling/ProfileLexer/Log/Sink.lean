import ProfileLexer.Settings.Basic

/-!
Where events are printed, and which of them.
-/

namespace ProfileLexer

inductive Sink where
  /-- One plain line for each event. -/
  | console
  /-- One JSON record for each event. -/
  | structured
  /-- Nothing. -/
  | discard
  deriving DecidableEq, Repr, Inhabited

/-- What a program has printed, on its output and on its error output. How the two were interleaved
is not kept. -/
structure Printed where
  out : String
  err : String
  deriving DecidableEq, Inhabited

namespace Printed

def append (first second : Printed) : Printed :=
  ⟨first.out ++ second.out, first.err ++ second.err⟩

instance : Append Printed := ⟨append⟩

def nothing : Printed := ⟨"", ""⟩

end Printed

/-- A sink that takes events down to a level. The level is the printer's own; a journal may record
events that are never printed. -/
structure Printer where
  sink : Sink
  limit : LogLevel
  deriving DecidableEq, Inhabited

namespace Printer

def ofPreferences (preferences : LogPreferences) : Printer where
  sink :=
    if !preferences.console then .discard
    else if preferences.structured then .structured
    else .console
  limit := preferences.effectiveLevel

/-- What is printed for an event at a time in milliseconds: errors and warnings go to the error
output. -/
def print (printer : Printer) (event : Event) (milliseconds : Nat) : Printed :=
  if event.level.within printer.limit then
    let line :=
      match printer.sink with
      | .console => event.line ++ "\n"
      | .structured => (event.toValue milliseconds).compact ++ "\n"
      | .discard => ""
    match event.level with
    | .error | .warning => ⟨"", line⟩
    | .info | .debug => ⟨line, ""⟩
  else .nothing

end Printer

end ProfileLexer
