import ProfileLexer.Log.Code
import ProfileLexer.Text.Blank
import ProfileLexer.Token.Kind

/-!
Definitions of language profiles: reserved words, operator and delimiter tables, quotes, comment
markers, number forms and literal forms. A definition is plain data; `Definition.problem?` says
whether a profile can be made of it.
-/

namespace ProfileLexer

/-- Whether the case of reserved words counts. The rule is for tables of reserved words only:
operators, markers and leads are always taken as they are written. -/
inductive CaseRule where
  | sensitive
  | insensitive
  deriving DecidableEq, Repr, Inhabited

namespace CaseRule

def name : CaseRule → String
  | sensitive => "sensitive"
  | insensitive => "insensitive"

def ofName? (name : String) : Option CaseRule :=
  [sensitive, insensitive].find? (·.name == name)

end CaseRule

/-- Which forms of numbers a language has, on top of decimal digits and a decimal point. The forms
are independent of each other, and any choice of them is accepted. -/
structure NumberForms where
  hex : Bool
  octal : Bool
  binary : Bool
  /-- A power of ten behind `e`. -/
  exponent : Bool
  /-- A denominator behind `/`. -/
  fractions : Bool
  /-- An imaginary unit at the end. -/
  complex : Bool
  /-- A sign in front. -/
  signed : Bool
  deriving DecidableEq, Repr, Inhabited

/-- The forms of a language that says nothing about them: powers of ten and no others. -/
def NumberForms.standard : NumberForms :=
  ⟨false, false, false, true, false, false, false⟩

structure BlockComment where
  opener : String
  closer : String
  /-- Comments may contain comments. -/
  nesting : Bool
  deriving DecidableEq, Repr, Inhabited

/-- A literal that its first characters give away. Two forms of a profile may start alike; the one
that is listed first is tried first. -/
inductive LiteralForm where
  /-- A name behind one or more sigils. -/
  | sigilName (sigil : Char)
  /-- One of a few spellings. -/
  | boolean (spellings : List String)
  /-- A character, or the name of one, behind a lead. -/
  | character (lead : String) (names : List String)
  /-- A name or a list in round brackets behind a sigil. -/
  | quotedSymbol (sigil : Char)
  deriving DecidableEq, Repr, Inhabited

namespace LiteralForm

def kind : LiteralForm → TokenKind
  | sigilName _ => .sigilName
  | boolean _ => .boolean
  | character _ _ => .character
  | quotedSymbol _ => .symbol

def name : LiteralForm → String
  | sigilName _ => "variable"
  | boolean _ => "boolean"
  | character _ _ => "character"
  | quotedSymbol _ => "quoted_symbol"

def leads : LiteralForm → List Char
  | sigilName sigil | quotedSymbol sigil => [sigil]
  | boolean spellings => spellings.filterMap (·.toList.head?)
  | character lead _ => lead.toList.head?.toList

/-- Whether a form would match the empty text or nothing at all. Such a form is refused, and with it
its definition. -/
def isVacuous : LiteralForm → Bool
  | boolean spellings => spellings.isEmpty || spellings.any (·.isEmpty)
  | character lead _ => lead.isEmpty
  | sigilName _ | quotedSymbol _ => false

def chars : LiteralForm → List Char
  | sigilName sigil | quotedSymbol sigil => [sigil]
  | boolean spellings => spellings.flatMap (·.toList)
  | character lead names => lead.toList ++ names.flatMap (·.toList)

end LiteralForm

/-- Everything that the tokenizer knows about a language. Character sets are written as texts, in
which order and repetition do not matter to a scan. -/
structure Definition where
  id : String
  aliases : List String
  description : String
  caseRule : CaseRule
  /-- An operator may not run into a character of an identifier. -/
  operatorBoundary : Bool
  keywords : List String
  builtins : List String
  functions : List String
  datatypes : List String
  operators : List String
  delimiters : String
  quotes : String
  /-- What may stand right before an opening quote. -/
  stringLeads : List String
  lineComment : Option String
  /-- Characters that start an identifier, besides letters and the underscore. -/
  identifierStart : String
  /-- Characters that go on with an identifier, besides letters, digits and the underscore. -/
  identifierContinue : String
  /-- Characters of the language that no other table names. -/
  alphabet : String
  numbers : NumberForms
  blockComment : Option BlockComment
  literals : List LiteralForm
  deriving DecidableEq, Repr, Inhabited

def Limits.maxOperatorLength : Nat := 3

/-- Why no profile can be made of a definition. Only the first problem is told; others may be
left. -/
inductive DefinitionProblem where
  | emptyId
  | emptyOperator (profile : String)
  | operatorTooLong (operator : String) (length : Nat)
  | operatorIsDelimiter (symbol : String)
  | quoteIsDelimiter (quote : Char)
  | leadsWithoutQuotes (profile : String)
  | emptyMarker (which : String)
  | vacuousLiteral (form : String)
  deriving DecidableEq, Repr, Inhabited

namespace DefinitionProblem

def name : DefinitionProblem → String
  | emptyId => "EmptyId"
  | emptyOperator _ => "EmptyOperator"
  | operatorTooLong _ _ => "OperatorTooLong"
  | operatorIsDelimiter _ => "OperatorDelimiterOverlap"
  | quoteIsDelimiter _ => "QuoteIsDelimiter"
  | leadsWithoutQuotes _ => "PrefixWithoutQuotes"
  | emptyMarker _ => "EmptyCommentMarker"
  | vacuousLiteral _ => "EmptyLiteralSigil"

def message : DefinitionProblem → String
  | emptyId => "Profile id must not be empty"
  | emptyOperator profile => "Profile '" ++ profile ++ "' declares an empty operator"
  | operatorTooLong operator length =>
    "Operator '" ++ operator ++ "' is " ++ toString length ++ " characters (max " ++
      toString Limits.maxOperatorLength ++ ")"
  | operatorIsDelimiter symbol => "'" ++ symbol ++ "' is declared both as operator and delimiter"
  | quoteIsDelimiter quote =>
    "Quote character '" ++ String.singleton quote ++ "' is also a delimiter"
  | leadsWithoutQuotes profile =>
    "Profile '" ++ profile ++ "' declares string prefixes but no quote characters"
  | emptyMarker which => "Comment marker must not be empty (" ++ which ++ ")"
  | vacuousLiteral form => "Literal form '" ++ form ++ "' has an empty sigil or prefix"

end DefinitionProblem

namespace Definition

/-- A definition that names nothing but its language. Its tables are empty and its numbers are the
standard ones. -/
def ofId (id : String) : Definition where
  id := id
  aliases := []
  description := ""
  caseRule := .sensitive
  operatorBoundary := false
  keywords := []
  builtins := []
  functions := []
  datatypes := []
  operators := []
  delimiters := ""
  quotes := ""
  stringLeads := []
  lineComment := none
  identifierStart := ""
  identifierContinue := ""
  alphabet := ""
  numbers := .standard
  blockComment := none
  literals := []

/-- What is wrong with one operator. An operator of several characters may contain delimiters, even
as its first character. -/
def operatorProblem? (definition : Definition) (operator : String) : Option DefinitionProblem :=
  match operator.toList with
  | [] => some (.emptyOperator definition.id)
  | [c] =>
    if definition.delimiters.toList.contains c then some (.operatorIsDelimiter operator) else none
  | chars =>
    if chars.length > Limits.maxOperatorLength then some (.operatorTooLong operator chars.length)
    else none

/-- What is wrong with the comment markers. Only empty ones are refused; nothing keeps them apart
from operators, quotes or each other. -/
def markerProblem? (definition : Definition) : Option DefinitionProblem :=
  if definition.lineComment = some "" then some (.emptyMarker "line")
  else
    match definition.blockComment with
    | some block =>
      if block.opener.isEmpty then some (.emptyMarker "block open")
      else if block.closer.isEmpty then some (.emptyMarker "block close")
      else none
    | none => none

/-- The first thing that is wrong with a definition: its id, its operators, its quotes, its comment
markers and its literal forms are looked at in this order. -/
def problem? (definition : Definition) : Option DefinitionProblem :=
  if (Text.trim definition.id.toList).isEmpty then some .emptyId
  else
    (definition.operators.findSome? definition.operatorProblem?).or <|
    ((definition.quotes.toList.find? definition.delimiters.toList.contains).map
      .quoteIsDelimiter).or <|
    (if !definition.stringLeads.isEmpty && definition.quotes.isEmpty then
      some (.leadsWithoutQuotes definition.id) else none).or <|
    definition.markerProblem?.or <|
    (definition.literals.find? (·.isVacuous)).map fun form => .vacuousLiteral form.name

end Definition

end ProfileLexer
