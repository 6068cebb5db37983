import ProfileLexer.Profile.Basic

/-!
How far strings, comments and literals reach from the start of a text, in characters, and whether
the text closes them.
-/

namespace ProfileLexer

/-- The reach of a delimited form, in characters. A form that is not closed reaches to the end of
the text; that the length is at most that of the text is a fact about each form. -/
structure Extent where
  length : Nat
  closed : Bool
  deriving DecidableEq, Repr, Inhabited

namespace Extent

/-- The reach of a string whose first `passed` characters are passed already. A backslash takes the
next character with it, whatever it is. -/
def ofString (quote : Char) (passed : Nat) : List Char → Extent
  | [] => ⟨passed, false⟩
  | [c] => ⟨passed + 1, c != '\\' && c == quote⟩
  | c :: next :: rest =>
    if c == '\\' then ofString quote (passed + 2) rest
    else if c == quote then ⟨passed + 1, true⟩
    else ofString quote (passed + 1) (next :: rest)

/-- The reach of a block comment at a nesting depth, with `passed` characters passed already.
Markers are read from left to right without overlap: the next `owed` characters belong to one. -/
def ofComment (markers : BlockMarkers) (depth owed passed : Nat) : List Char → Extent
  | [] => ⟨passed, false⟩
  | c :: rest =>
    if 0 < owed then ofComment markers depth (owed - 1) (passed + 1) rest
    else if markers.nesting && markers.opener.isPrefixOf (c :: rest) then
      ofComment markers (depth + 1) (markers.opener.length - 1) (passed + 1) rest
    else if markers.closer.isPrefixOf (c :: rest) then
      if depth ≤ 1 then ⟨passed + markers.closer.length, true⟩
      else ofComment markers (depth - 1) (markers.closer.length - 1) (passed + 1) rest
    else ofComment markers depth 0 (passed + 1) rest

/-- The reach of a list inside `depth` opening brackets. Strings and comments inside it are not
looked at, so that a bracket in them counts. -/
def ofList (depth passed : Nat) : List Char → Extent
  | [] => ⟨passed, false⟩
  | c :: rest =>
    if c == '(' then ofList (depth + 1) (passed + 1) rest
    else if c == ')' then
      if depth ≤ 1 then ⟨passed + 1, true⟩ else ofList (depth - 1) (passed + 1) rest
    else ofList depth (passed + 1) rest

end Extent

namespace Profile

/-- The string lead at the start of a text that a quote follows. The longest lead that fits is
taken. -/
def stringLead? (profile : Profile) (text : List Char) : Option (List Char) :=
  profile.stringLeads.find? fun lead =>
    lead.isPrefixOf text && ((text.drop lead.length).head?.map profile.isQuote).getD false

/-- The reach of a string, with or without a lead, at the start of a text. A quote at the start
opens a string, even where a lead contains it. -/
def stringExtent? (profile : Profile) (text : List Char) : Option Extent :=
  match text with
  | [] => none
  | c :: rest =>
    if profile.isQuote c then some (.ofString c 1 rest)
    else
      match profile.stringLead? text with
      | none => none
      | some lead =>
        match text.drop lead.length with
        | [] => none
        | quote :: rest => some (.ofString quote (lead.length + 1) rest)

/-- The reach of a block comment at the start of a text. The opener is passed as a whole before
anything is looked for, so that it never closes itself. -/
def commentExtent? (profile : Profile) (text : List Char) : Option Extent :=
  match profile.blockComment with
  | none => none
  | some markers =>
    if markers.opener.isPrefixOf text then
      some (.ofComment markers 1 0 markers.opener.length (text.drop markers.opener.length))
    else none

/-- Whether a text does not start with a character that goes on with an identifier. -/
def atBoundary (profile : Profile) : List Char → Bool
  | [] => true
  | c :: _ => !profile.continuesIdentifier c

/-- The length of the longest of some words that starts a text and ends at a boundary. A shorter
word is taken where a longer one runs into an identifier. -/
def longestWord? (profile : Profile) (words : List String) (text : List Char) : Option Nat :=
  let lengths := words.filterMap fun word =>
    let chars := word.toList
    if chars.isPrefixOf text && profile.atBoundary (text.drop chars.length) then
      some chars.length
    else none
  lengths.max?

/-- The reach of a literal form at the start of a text. Only a character behind a lead and a list
can be left open; all other forms are closed where they end. -/
def literalExtent? (profile : Profile) (form : LiteralForm) (text : List Char) : Option Extent :=
  match form with
  | .sigilName sigil =>
    let sigils := (text.takeWhile (· == sigil)).length
    let name := ((text.drop sigils).takeWhile profile.continuesIdentifier).length
    if sigils = 0 ∨ name = 0 then none else some ⟨sigils + name, true⟩
  | .boolean spellings => (profile.longestWord? spellings text).map (⟨·, true⟩)
  | .character lead names =>
    let lead := lead.toList
    if lead.isPrefixOf text then
      let rest := text.drop lead.length
      match profile.longestWord? names rest with
      | some length => some ⟨lead.length + length, true⟩
      | none =>
        match rest with
        | [] => some ⟨lead.length, false⟩
        | _ :: _ => some ⟨lead.length + 1, true⟩
    else none
  | .quotedSymbol sigil =>
    match text with
    | first :: second :: rest =>
      if first != sigil then none
      else if second == '(' then some (.ofList 1 2 rest)
      else if profile.continuesIdentifier second then
        some ⟨2 + (rest.takeWhile profile.continuesIdentifier).length, true⟩
      else none
    | _ => none

end Profile

end ProfileLexer
