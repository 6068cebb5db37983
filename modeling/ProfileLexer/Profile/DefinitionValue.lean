import ProfileLexer.Profile.Definition
import ProfileLexer.Value.Decode

/-!
Definitions as values: the record that is written for a definition, and the definition that a
record stands for.
-/

namespace ProfileLexer

open Value (asText? asFlag? asChar? asTexts? asListOf? asNamed? asFields? orNull? required?
  optional?)

namespace NumberForms

def toValue (forms : NumberForms) : Value :=
  .record [
    ("hex", .flag forms.hex),
    ("octal", .flag forms.octal),
    ("binary", .flag forms.binary),
    ("exponent", .flag forms.exponent),
    ("fractions", .flag forms.fractions),
    ("complex", .flag forms.complex),
    ("signed", .flag forms.signed)]

/-- The forms that a value stands for. Every form may be left out and is then as in
`NumberForms.standard`. -/
def ofValue? (value : Value) : Option NumberForms := do
  let fields ← asFields?
    ["hex", "octal", "binary", "exponent", "fractions", "complex", "signed"] value
  return {
    hex := ← optional? fields "hex" asFlag? false
    octal := ← optional? fields "octal" asFlag? false
    binary := ← optional? fields "binary" asFlag? false
    exponent := ← optional? fields "exponent" asFlag? true
    fractions := ← optional? fields "fractions" asFlag? false
    complex := ← optional? fields "complex" asFlag? false
    signed := ← optional? fields "signed" asFlag? false }

end NumberForms

namespace BlockComment

def toValue (block : BlockComment) : Value :=
  .record [
    ("open", .text block.opener),
    ("close", .text block.closer),
    ("nesting", .flag block.nesting)]

def ofValue? (value : Value) : Option BlockComment := do
  let fields ← asFields? ["open", "close", "nesting"] value
  return {
    opener := ← required? fields "open" asText?
    closer := ← required? fields "close" asText?
    nesting := ← optional? fields "nesting" asFlag? false }

end BlockComment

namespace LiteralForm

def toValue (form : LiteralForm) : Value :=
  .record <| ("form", .text form.name) ::
    match form with
    | sigilName sigil | quotedSymbol sigil => [("sigil", .text (String.singleton sigil))]
    | boolean spellings => [("spellings", .texts spellings)]
    | character lead names => [("prefix", .text lead), ("names", .texts names)]

def ofParts? (name : String) (parts : Value) : Option LiteralForm :=
  if name = "variable" then do
    let fields ← asFields? ["sigil"] parts
    return .sigilName (← required? fields "sigil" asChar?)
  else if name = "boolean" then do
    let fields ← asFields? ["spellings"] parts
    return .boolean (← required? fields "spellings" asTexts?)
  else if name = "character" then do
    let fields ← asFields? ["prefix", "names"] parts
    return .character (← required? fields "prefix" asText?)
      (← optional? fields "names" asTexts? [])
  else if name = "quoted_symbol" then do
    let fields ← asFields? ["sigil"] parts
    return .quotedSymbol (← required? fields "sigil" asChar?)
  else none

def ofValue? : Value → Option LiteralForm
  | .record fields => do ofParts? (← required? fields "form" asText?) (.record fields)
  | .list (name :: parts) => do ofParts? (← asText? name) (.list parts)
  | _ => none

end LiteralForm

namespace Definition

/-- The parts of a definition by name. A comment form that it lacks has no field. -/
def fields (definition : Definition) : List (String × Value) :=
  [("id", .text definition.id),
    ("aliases", .texts definition.aliases),
    ("description", .text definition.description),
    ("case_rule", .text definition.caseRule.name),
    ("operator_boundary", .flag definition.operatorBoundary),
    ("keywords", .texts definition.keywords),
    ("builtins", .texts definition.builtins),
    ("functions", .texts definition.functions),
    ("datatypes", .texts definition.datatypes),
    ("operators", .texts definition.operators),
    ("delimiters", .text definition.delimiters),
    ("quotes", .text definition.quotes),
    ("string_prefixes", .texts definition.stringLeads)] ++
  (match definition.lineComment with
    | some marker => [("line_comment", .text marker)]
    | none => []) ++
  [("identifier_start", .text definition.identifierStart),
    ("identifier_continue", .text definition.identifierContinue),
    ("alphabet", .text definition.alphabet),
    ("numbers", definition.numbers.toValue)] ++
  (match definition.blockComment with
    | some block => [("block_comment", block.toValue)]
    | none => []) ++
  [("literals", .list (definition.literals.map LiteralForm.toValue))]

def toValue (definition : Definition) : Value :=
  .record definition.fields

/-- The definition that a value stands for. Only the id is required, and fields that a definition
does not have are passed over; whether the definition is accepted is not asked here. -/
def ofValue? (value : Value) : Option Definition :=
  match value with
  | .record fields => do
    return {
      id := ← required? fields "id" asText?
      aliases := ← optional? fields "aliases" asTexts? []
      description := ← optional? fields "description" asText? ""
      caseRule := ← optional? fields "case_rule" (asNamed? CaseRule.ofName?) .sensitive
      operatorBoundary := ← optional? fields "operator_boundary" asFlag? false
      keywords := ← optional? fields "keywords" asTexts? []
      builtins := ← optional? fields "builtins" asTexts? []
      functions := ← optional? fields "functions" asTexts? []
      datatypes := ← optional? fields "datatypes" asTexts? []
      operators := ← optional? fields "operators" asTexts? []
      delimiters := ← optional? fields "delimiters" asText? ""
      quotes := ← optional? fields "quotes" asText? ""
      stringLeads := ← optional? fields "string_prefixes" asTexts? []
      lineComment := ← optional? fields "line_comment" (orNull? asText?) none
      identifierStart := ← optional? fields "identifier_start" asText? ""
      identifierContinue := ← optional? fields "identifier_continue" asText? ""
      alphabet := ← optional? fields "alphabet" asText? ""
      numbers := ← optional? fields "numbers" NumberForms.ofValue? .standard
      blockComment := ← optional? fields "block_comment" (orNull? BlockComment.ofValue?) none
      literals := ← optional? fields "literals" (asListOf? LiteralForm.ofValue?) [] }
  | _ => none

end Definition

end ProfileLexer
