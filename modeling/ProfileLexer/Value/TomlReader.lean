import ProfileLexer.Value.TomlScalar
import ProfileLexer.Value.TomlText

/-!
TOML texts read as values. A text is first read as statements, which are then carried out one after
the other on a tree of tables. The tree knows how each of its tables came about, because that
decides how it may grow.
-/

namespace ProfileLexer.Toml

/-- A part of the tree that is built up. It says more than a value does: how a table came about
decides whether it may still grow. -/
inductive Node where
  | value (value : Value)
  /-- A table; it is implicit until a header names it, and dotted when a key with points made it. -/
  | table (implicit dotted : Bool) (entries : List (String × Node))
  /-- A list of tables, of which the last one can grow. -/
  | tables (before : List (List (String × Node))) (last : List (String × Node))
  deriving Inhabited

namespace Node

def root : Node := .table false false []

/-- Entries with one set, in place or at the end, so that a table keeps its place when it grows. -/
def setEntry (name : String) (node : Node) (entries : List (String × Node)) :
    List (String × Node) :=
  if entries.any (·.1 == name) then
    entries.map fun entry => if entry.1 == name then (name, node) else entry
  else entries ++ [(name, node)]

/-- Changes the table at a path. Tables that are missing come about on the way; through points, no
table is entered that a header has named. -/
def change (dotted : Bool) (path : List String) (update : Node → Option Node) (node : Node) :
    Option Node :=
  match path, node with
  | [], node => update node
  | name :: path, .table implicit isDotted entries => do
    let child ←
      match entries.lookup name with
      | none => change dotted path update (.table true dotted [])
      | some (.table implicit isDotted entries) =>
        if dotted && !implicit then none
        else change dotted path update (.table implicit isDotted entries)
      | some (.tables before last) => do
        let .table _ _ last ← change dotted path update (.table false false last) | none
        some (.tables before last)
      | some (.value _) => none
    return .table implicit isDotted (setEntry name child entries)
  | _ :: _, _ => none

/-- Names a table by a header. A table that is there already has to be implicit, so that no table
has two headers. -/
def define (name : String) : Node → Option Node
  | .table implicit dotted entries =>
    match entries.lookup name with
    | none => some (.table implicit dotted (entries ++ [(name, .table false false [])]))
    | some (.table true false inner) =>
      some (.table implicit dotted (setEntry name (.table false false inner) entries))
    | some _ => none
  | _ => none

def extend (name : String) : Node → Option Node
  | .table implicit dotted entries =>
    match entries.lookup name with
    | none => some (.table implicit dotted (entries ++ [(name, .tables [] [])]))
    | some (.tables before last) =>
      some (.table implicit dotted (setEntry name (.tables (before ++ [last]) []) entries))
    | some _ => none
  | _ => none

def put (viaPoints : Bool) (name : String) (value : Value) : Node → Option Node
  | .table implicit dotted entries =>
    if dotted != viaPoints || entries.any (·.1 == name) then none
    else some (.table implicit dotted (entries ++ [(name, .value value)]))
  | _ => none

/-- Sets the entry of a key with points. Every part but the last names a table, and an entry that is
there already is not replaced. -/
def assign (key : List String) (value : Value) (node : Node) : Option Node :=
  match key.getLast? with
  | none => none
  | some name =>
    let path := key.dropLast
    node.change true path (put (!path.isEmpty) name value)

mutual

def toValue : Node → Value
  | .value held => held
  | .table _ _ entries => .record (entryValues entries)
  | .tables before last => .list (tableValues before ++ [.record (entryValues last)])

def entryValues : List (String × Node) → List (String × Value)
  | [] => []
  | (name, node) :: entries => (name, toValue node) :: entryValues entries

def tableValues : List (List (String × Node)) → List Value
  | [] => []
  | entries :: rest => .record (entryValues entries) :: tableValues rest

end

end Node

/-- The record of key and value pairs in one pair of braces. It is closed: nothing outside the
braces adds to it. -/
def inlineTable? (pairs : List (List String × Value)) : Option Value :=
  (pairs.foldlM (fun node (key, value) => Node.assign key value node) Node.root).map Node.toValue

/-- The characters of a value without quotes at the start of a text: a date and a time may have one
blank between them. -/
def scalarText (text : List Char) : List Char :=
  let isPart (c : Char) : Bool := isBare c || c == '+' || c == '.' || c == ':'
  let first := text.takeWhile isPart
  match afterDate? first, text.drop first.length with
  | some [], ' ' :: c :: rest =>
    if c.isDigit then first ++ ' ' :: (c :: rest).takeWhile isPart else first
  | _, _ => first

mutual

/-- A value at the start of a text, inside `depth` others. Every call uses one of `fuel`, of which
there is twice the length of the text and more. -/
def readValue (fuel depth : Nat) (text : List Char) : Option (Value × List Char) :=
  match fuel with
  | 0 => none
  | fuel + 1 =>
    match text with
    | '"' :: rest => (readString '"' rest).map fun (s, rest) => (.text s, rest)
    | '\'' :: rest => (readString '\'' rest).map fun (s, rest) => (.text s, rest)
    | '[' :: rest =>
      if depth < maxDepth then readItems fuel (depth + 1) [] (skipLines (rest.length + 1) rest)
      else none
    | '\x7b' :: rest =>
      if depth < maxDepth then
        match skipBlanks rest with
        | '\x7d' :: rest => some (.record [], rest)
        | rest => readPairs fuel (depth + 1) [] rest
      else none
    | _ =>
      let scalar := scalarText text
      (scalar? scalar).map fun value => (value, text.drop scalar.length)

/-- The items of a list up to its bracket; `read` holds those so far, last one first. -/
def readItems (fuel depth : Nat) (read : List Value) (text : List Char) :
    Option (Value × List Char) :=
  match fuel with
  | 0 => none
  | fuel + 1 =>
    match text with
    | ']' :: rest => some (.list read.reverse, rest)
    | _ => do
      let (item, rest) ← readValue fuel depth text
      match skipLines (rest.length + 1) rest with
      | ',' :: rest => readItems fuel depth (item :: read) (skipLines (rest.length + 1) rest)
      | ']' :: rest => return (.list (item :: read).reverse, rest)
      | _ => none

/-- The pairs of a table in braces; `read` holds those so far, last one first. -/
def readPairs (fuel depth : Nat) (read : List (List String × Value)) (text : List Char) :
    Option (Value × List Char) :=
  match fuel with
  | 0 => none
  | fuel + 1 => do
    let (key, rest) ← readKey maxDepth text
    let '=' :: rest := rest | none
    let (value, rest) ← readValue fuel depth (skipBlanks rest)
    match skipBlanks rest with
    | ',' :: rest => readPairs fuel depth ((key, value) :: read) rest
    | '\x7d' :: rest =>
      let table ← inlineTable? ((key, value) :: read).reverse
      return (table, rest)
    | _ => none

end

inductive Statement where
  /-- A header in single brackets. -/
  | header (path : List String)
  /-- A header in double brackets. -/
  | listHeader (path : List String)
  | assign (key : List String) (value : Value)
  deriving Inhabited

/-- The text after a sequence of characters, if it starts with it. -/
def after? (mark text : List Char) : Option (List Char) :=
  if mark.isPrefixOf text then some (text.drop mark.length) else none

def readStatement (text : List Char) : Option (Statement × List Char) :=
  match text with
  | '[' :: '[' :: rest => do
    let (path, rest) ← readKey maxDepth rest
    return (.listHeader path, ← after? [']', ']'] rest)
  | '[' :: rest => do
    let (path, rest) ← readKey maxDepth rest
    return (.header path, ← after? [']'] rest)
  | _ => do
    let (key, rest) ← readKey maxDepth text
    let rest := skipBlanks (← after? ['='] rest)
    let (value, rest) ← readValue (2 * rest.length + 2) 0 rest
    return (.assign key value, rest)

/-- All statements of a text; `read` holds those so far, last one first. -/
def readStatements (fuel : Nat) (read : List Statement) (text : List Char) :
    Option (List Statement) :=
  match fuel with
  | 0 => none
  | fuel + 1 =>
    match skipLines (text.length + 1) text with
    | [] => some read.reverse
    | rest => do
      let (statement, rest) ← readStatement rest
      readStatements fuel (statement :: read) (← afterLine? rest)

/-- The tree after statements, where `current` is the path of the last header. The first statement
that can not be carried out refuses the whole text. -/
def carryOut (current : List String) (node : Node) : List Statement → Option Node
  | [] => some node
  | statement :: rest =>
    match statement with
    | .header path => do
      let name ← path.getLast?
      carryOut path (← node.change false path.dropLast (Node.define name)) rest
    | .listHeader path => do
      let name ← path.getLast?
      carryOut path (← node.change false path.dropLast (Node.extend name)) rest
    | .assign key value => do
      carryOut current (← node.change false current (Node.assign key value)) rest

/-- The value of a whole TOML text, which is always a record. A byte order mark in front is passed
over. -/
def read? (text : String) : Option Value := do
  let chars :=
    match text.toList with
    | '\ufeff' :: rest => rest
    | chars => chars
  let statements ← readStatements (chars.length + 1) [] chars
  return (← carryOut [] Node.root statements).toValue

end ProfileLexer.Toml
