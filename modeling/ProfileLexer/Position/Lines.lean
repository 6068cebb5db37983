import ProfileLexer.Position.Basic
import ProfileLexer.Sorted

/-!
The lines of a source: from byte offsets to lines and columns, and from lines to their texts.
-/

namespace ProfileLexer

/-- The lines of a source. The texts and the offsets at which they start are kept side by side, and
agree in an index that is made by `LineIndex.ofSource`. -/
structure LineIndex where
  /-- The length of the source in bytes. -/
  size : Nat
  /-- The byte offset at which each line starts. -/
  starts : Array Nat
  /-- The text of each line with the line feed behind it. -/
  lines : Array (List Char)
  deriving DecidableEq, Repr, Inhabited

namespace LineIndex

def putChar (c : Char) : List (List Char) → List (List Char)
  | [] => [[c]]
  | line :: lines => if c == '\n' then [c] :: line :: lines else (c :: line) :: lines

/-- A text cut behind each line feed. There is always a last line, which may be empty, and no
character is lost. -/
def splitLines (text : List Char) : List (List Char) :=
  text.foldr putChar [[]]

/-- The byte offsets at which lines start when the first one starts at `offset`. -/
def startsFrom (starts : Array Nat) (offset : Nat) : List (List Char) → Array Nat
  | [] => starts
  | line :: lines => startsFrom (starts.push offset) (offset + Text.byteLength line) lines

def ofSource (source : String) : LineIndex :=
  let lines := splitLines source.toList
  { size := source.utf8ByteSize
    starts := startsFrom #[] 0 lines
    lines := lines.toArray }

def lineCount (index : LineIndex) : Nat :=
  index.starts.size

/-- The position at a byte offset on a line of which `before` characters lie before byte `start`. -/
def positionOn (line offset start before : Nat) : List Char → Position
  | [] => ⟨start, line, before + 1⟩
  | c :: text =>
    if start + c.utf8Size ≤ offset then
      positionOn line offset (start + c.utf8Size) (before + 1) text
    else ⟨start, line, before + 1⟩

/-- The position at a byte offset. An offset behind the source stands for its end, and one inside a
character for the start of the character, so that every offset has a position. -/
def positionAt (index : LineIndex) (offset : Nat) : Position :=
  let offset := min offset index.size
  let line := Sorted.lastAtMost index.starts offset
  positionOn (line + 1) offset (index.starts.getD line 0) 0 (index.lines.getD line [])

def spanOf (index : LineIndex) (offset length : Nat) : Span :=
  ⟨index.positionAt offset, index.positionAt (offset + length)⟩

/-- A line without its line feed and without the carriage returns before it. All of them go, and in
a last line that has no line feed the carriage returns at its end go as well. -/
def stripBreak (line : List Char) : List Char :=
  let reversed := line.reverse
  let body := if reversed.head? = some '\n' then reversed.tail else reversed
  (body.dropWhile (· == '\r')).reverse

/-- The text of a line, counted from one, as `stripBreak` leaves it; none for a line that the source
does not have. -/
def lineText? (index : LineIndex) (line : Nat) : Option (List Char) :=
  if line = 0 then none else index.lines[line - 1]?.map stripBreak

/-- How many carets a span gets under its first line, at least one. The rest of the line is counted
for a span of several lines; none when such a span starts behind the end of the line, as it can in a
line break. -/
def caretCount? (span : Span) (line : List Char) : Option Nat :=
  if span.start.line = span.stop.line then some (max (span.stop.column - span.start.column) 1)
  else if span.start.column ≤ line.length + 1 then
    some (max (line.length + 1 - span.start.column) 1)
  else none

/-- A message with the first line of a span and carets under the span; none when the carets can not
be counted. A span on a line that the source does not have gets the head of the message alone. -/
def snippet? (index : LineIndex) (span : Span) (message : String) : Option String :=
  let head := message ++ "\n  --> " ++ span.start.text ++ "\n"
  match index.lineText? span.start.line with
  | none => some head
  | some line =>
    (caretCount? span line).map fun carets =>
      let gutter := toString span.start.line
      let padding := String.ofList (List.replicate gutter.length ' ')
      head ++ padding ++ " |\n" ++ gutter ++ " | " ++ String.ofList line ++ "\n" ++
        padding ++ " | " ++ String.ofList (List.replicate (span.start.column - 1) ' ') ++
        String.ofList (List.replicate carets '^') ++ "\n"

end LineIndex

end ProfileLexer
