/-!
Plain data: the common form of what a JSON text and a TOML text hold. A record keeps its fields in
the order in which they were written. A codec is any way to write such data as texts and to read
texts as such data.
-/

namespace ProfileLexer

/-- A tree of plain data. A number keeps the digits it was written with, and a record may have a
name twice: neither is normalized. -/
inductive Value where
  | null
  | flag (value : Bool)
  | number (literal : String)
  | text (value : String)
  | list (items : List Value)
  | record (fields : List (String × Value))
  deriving Inhabited

namespace Value

def nat (n : Nat) : Value :=
  .number (toString n)

def text? : Option String → Value
  | none => .null
  | some value => .text value

def nat? : Option Nat → Value
  | none => .null
  | some n => nat n

def texts (items : List String) : Value :=
  .list (items.map .text)

/-- The value of a field, if the value is a record that has it. Of fields with one name the first is
taken. -/
def field? (name : String) : Value → Option Value
  | .record fields => fields.lookup name
  | _ => none

/-- The record with a field set, in place if the record has it and at the end otherwise. A name that
comes twice is set twice. -/
def setField (name : String) (value : Value) (fields : List (String × Value)) :
    List (String × Value) :=
  if fields.any (·.1 == name) then
    fields.map fun field => if field.1 == name then (name, value) else field
  else fields ++ [(name, value)]

/-- A way to write values as texts and to read values from texts. It may refuse either, and by
itself nothing says that it reads what it wrote. -/
structure Codec where
  write? : Value → Option String
  read? : String → Option Value

end Value

end ProfileLexer
