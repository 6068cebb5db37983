import ProfileLexer.Text.Bytes

/-!
Positions in a source text and the spans between them.
-/

namespace ProfileLexer

/-- A place in a text: its byte offset from zero, its line from one and its column in characters
from one. Nothing ties the three together, since a position is known without its text. -/
structure Position where
  offset : Nat
  line : Nat
  column : Nat
  deriving DecidableEq, Repr, Inhabited

namespace Position

def start : Position := ⟨0, 1, 1⟩

/-- The largest line or column that is counted. -/
def maxCount : Nat := 0xffffffff

/-- The position after one more character; none when the line or the column can not be counted. Only
a line feed starts a line: a carriage return is a character like any other. -/
def advance? (position : Position) (c : Char) : Option Position :=
  if c == '\n' then
    if position.line < maxCount then some ⟨position.offset + 1, position.line + 1, 1⟩ else none
  else if position.column < maxCount then
    some ⟨position.offset + c.utf8Size, position.line, position.column + 1⟩
  else none

def advanceText? (position : Position) : List Char → Option Position
  | [] => some position
  | c :: text => (position.advance? c).bind (advanceText? · text)

def compare (first second : Position) : Ordering :=
  ((Ord.compare first.offset second.offset).then (Ord.compare first.line second.line)).then
    (Ord.compare first.column second.column)

def text (position : Position) : String :=
  toString position.line ++ ":" ++ toString position.column

end Position

/-- The part of a text from one position up to another. A span may end before it starts; what is
said of its length has to allow for that. -/
structure Span where
  start : Position
  stop : Position
  deriving DecidableEq, Repr, Inhabited

namespace Span

/-- The span between two positions; none when they are out of order. Only the offsets are
compared. -/
def between? (start stop : Position) : Option Span :=
  if start.offset ≤ stop.offset then some ⟨start, stop⟩ else none

/-- A span known by its offsets alone. Its lines and columns are zero, which no place in a text
has. -/
def ofOffsets (start stop : Nat) : Span :=
  ⟨⟨start, 0, 0⟩, ⟨stop, 0, 0⟩⟩

/-- The smallest span around two others, by their offsets. What lies between them belongs to it. -/
def merge (first second : Span) : Span where
  start := if first.start.offset ≤ second.start.offset then first.start else second.start
  stop := if first.stop.offset ≥ second.stop.offset then first.stop else second.stop

/-- The number of bytes in a span; none when it ends before it starts. -/
def length? (span : Span) : Option Nat :=
  if span.start.offset ≤ span.stop.offset then some (span.stop.offset - span.start.offset)
  else none

def isEmpty (span : Span) : Bool :=
  span.start.offset == span.stop.offset

def contains (span : Span) (offset : Nat) : Bool :=
  span.start.offset ≤ offset && offset < span.stop.offset

/-- The text of a span; none when an end is not a character boundary of the text. -/
def slice? (span : Span) (text : List Char) : Option (List Char) :=
  Text.slice? text span.start.offset span.stop.offset

/-- A span as `line:column-column`, or between two positions when it covers several lines. -/
def text (span : Span) : String :=
  if span.start.line = span.stop.line then
    span.start.text ++ "-" ++ toString span.stop.column
  else span.start.text ++ "-" ++ span.stop.text

end Span

end ProfileLexer
