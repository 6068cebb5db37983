import ProfileLexer.Log.Entry
import ProfileLexer.Profile.Definition
import ProfileLexer.Text.Case

/-!
Profiles: accepted definitions with their tables laid out for scanning.
-/

namespace ProfileLexer

/-- The markers of a block comment as characters. In an accepted definition neither is empty; they
may well be equal, or one may begin the other. -/
structure BlockMarkers where
  opener : List Char
  closer : List Char
  nesting : Bool
  deriving DecidableEq, Inhabited

/-- A word as it is looked up in the tables of reserved words. The upper case of a character may be
several characters, and may be a character of another alphabet. -/
def CaseRule.fold : CaseRule → List Char → List Char
  | sensitive, word => word
  | insensitive, word => Text.upper word

/-- A definition with its tables laid out for scanning. That the definition has been accepted and
that the tables are its own is what `Profile.ofDefinition` provides; the structure does not ask for
it. -/
structure Profile where
  definition : Definition
  keywords : List (List Char)
  builtins : List (List Char)
  functions : List (List Char)
  datatypes : List (List Char)
  operators : List (List Char)
  /-- The length of the longest operator. -/
  operatorLength : Nat
  delimiters : List Char
  quotes : List Char
  /-- Longest lead first. -/
  stringLeads : List (List Char)
  lineComment : Option (List Char)
  blockComment : Option BlockMarkers
  identifierStart : List Char
  identifierContinue : List Char
  literalLeads : List Char
  alphabet : List Char
  deriving Inhabited

namespace Definition

def commonAlphabet : List Char :=
  "abcdefghijklmnopqrstuvwxyzABCDEFGHIJKLMNOPQRSTUVWXYZ0123456789 \t\n\r_".toList

/-- Every character that some table of a definition names. Reserved words count as they are written,
not as they are looked up. -/
def allChars (definition : Definition) : List Char :=
  commonAlphabet ++
    (definition.keywords ++ definition.builtins ++ definition.functions ++ definition.datatypes ++
      definition.operators ++ definition.stringLeads ++
      [definition.delimiters, definition.quotes, definition.identifierStart,
        definition.identifierContinue, definition.alphabet]).flatMap String.toList ++
    (match definition.lineComment with
      | some marker => marker.toList
      | none => []) ++
    (match definition.blockComment with
      | some block => block.opener.toList ++ block.closer.toList
      | none => []) ++
    definition.literals.flatMap LiteralForm.chars

/-- String leads, longest in bytes first, those of one length in alphabetical order. Since the first
one that fits is taken, no lead hides a longer one. -/
def sortedLeads (definition : Definition) : List String :=
  (definition.stringLeads.mergeSort fun first second =>
    first.utf8ByteSize > second.utf8ByteSize ||
      (first.utf8ByteSize == second.utf8ByteSize && first ≤ second)).eraseDups

end Definition

namespace Profile

/-- The tables of a definition, whether it is accepted or not. What continues an identifier includes
what starts one. -/
def build (definition : Definition) : Profile where
  definition := definition
  keywords := definition.keywords.map fun word => definition.caseRule.fold word.toList
  builtins := definition.builtins.map fun word => definition.caseRule.fold word.toList
  functions := definition.functions.map fun word => definition.caseRule.fold word.toList
  datatypes := definition.datatypes.map fun word => definition.caseRule.fold word.toList
  operators := definition.operators.map String.toList
  operatorLength := (definition.operators.map (·.toList.length)).foldl max 0
  delimiters := definition.delimiters.toList
  quotes := definition.quotes.toList
  stringLeads := definition.sortedLeads.map String.toList
  lineComment := definition.lineComment.map String.toList
  blockComment := definition.blockComment.map fun block =>
    ⟨block.opener.toList, block.closer.toList, block.nesting⟩
  identifierStart := definition.identifierStart.toList
  identifierContinue := definition.identifierContinue.toList ++ definition.identifierStart.toList
  literalLeads := definition.literals.flatMap LiteralForm.leads
  alphabet := definition.allChars.eraseDups

/-- The profile of a definition, unless something is wrong with it. The accepted definitions are
those of which it makes a profile. -/
def ofDefinition (definition : Definition) : Except DefinitionProblem Profile :=
  match definition.problem? with
  | some problem => .error problem
  | none => .ok (build definition)

def id (profile : Profile) : String :=
  profile.definition.id

def numbers (profile : Profile) : NumberForms :=
  profile.definition.numbers

def literals (profile : Profile) : List LiteralForm :=
  profile.definition.literals

/-- The kind of a reserved word: keywords come before builtins, functions and datatypes. A word may
stand in several tables. -/
def wordKind? (profile : Profile) (word : List Char) : Option TokenKind :=
  let key := profile.definition.caseRule.fold word
  if profile.keywords.contains key then some .keyword
  else if profile.builtins.contains key then some .builtin
  else if profile.functions.contains key then some .function
  else if profile.datatypes.contains key then some .datatype
  else none

def isOperator (profile : Profile) (text : List Char) : Bool :=
  profile.operators.contains text

def startsOperator (profile : Profile) (text : List Char) : Bool :=
  profile.operators.any text.isPrefixOf

def isDelimiter (profile : Profile) (c : Char) : Bool :=
  profile.delimiters.contains c

def isQuote (profile : Profile) (c : Char) : Bool :=
  profile.quotes.contains c

def inAlphabet (profile : Profile) (c : Char) : Bool :=
  profile.alphabet.contains c

def startsIdentifier (profile : Profile) (c : Char) : Bool :=
  c.isAlpha || c == '_' || profile.identifierStart.contains c

def continuesIdentifier (profile : Profile) (c : Char) : Bool :=
  c.isAlphanum || c == '_' || profile.identifierContinue.contains c

def isLiteralLead (profile : Profile) (c : Char) : Bool :=
  profile.literalLeads.contains c

/-- Whether a text has the shape of an identifier. Reserved words have it, too, and are told apart
before. -/
def isIdentifier (profile : Profile) : List Char → Bool
  | [] => false
  | c :: rest => profile.startsIdentifier c && rest.all profile.continuesIdentifier

/-- Operators that the delimiter rule or the string rule claims first, in alphabetical order. Such
operators are accepted; they give rise to warnings. -/
def unreachableOperators (profile : Profile) : List String :=
  let unreachable := profile.definition.operators.filter fun operator =>
    match operator.toList with
    | [] => false
    | c :: _ => profile.isDelimiter c || profile.isQuote c
  unreachable.mergeSort fun first second => first ≤ second

/-- How many different reserved words a profile has, table by table. A word in two tables counts
twice. -/
def reservedWordCount (profile : Profile) : Nat :=
  profile.keywords.eraseDups.length + profile.builtins.eraseDups.length +
    profile.functions.eraseDups.length + profile.datatypes.eraseDups.length

def operatorCount (profile : Profile) : Nat :=
  profile.operators.eraseDups.length

/-- What is logged when a profile is made: a warning for every operator that is out of reach. -/
def entries (profile : Profile) : List Entry :=
  profile.unreachableOperators.map fun operator =>
    .plain <| (Event.codedWarning .unreachableOperator
      "Operator starts with a delimiter or quote and can never be scanned").withDetails
        [("profile", profile.id), ("operator", operator)]

end Profile

end ProfileLexer
