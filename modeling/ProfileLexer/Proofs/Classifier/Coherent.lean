import ProfileLexer.Proofs.Automaton.Comment
import ProfileLexer.Proofs.Automaton.Symbols
import ProfileLexer.Proofs.Scan.Front

/-!
Coherent profiles: those whose tables do not get in each other's way. The rules look at a text as a
whole and the automaton at one character after the other; where no table starts what another one
goes on with, the two cannot part.
-/

namespace ProfileLexer

namespace Profile

/-- A character that no symbol starts with: no operator, no marker and no literal. It may well occur
inside one. -/
structure Idle (profile : Profile) (c : Char) : Prop where
  symbol : profile.symbolState? [c] = none
  literal : profile.isLiteralLead c = false

/-- What a boolean literal must not be mistaken for: an operator, a text of one character, or a
literal of another form. -/
structure Distinct (profile : Profile) (form : LiteralForm) (spelling : List Char) : Prop where
  long : spelling.length ≠ 1
  operator : profile.isOperator spelling = false
  others : ∀ other ∈ profile.literals, other ≠ form → profile.literalExtent? other spelling = none

/-- What an open list behind a sigil must not be mistaken for. The parenthesis is a delimiter in
many languages; only what goes on with it is excluded. -/
structure Opening (profile : Profile) (sigil : Char) : Prop where
  identifier : profile.continuesIdentifier '(' = false
  operators : ∀ operator ∈ profile.operators, ¬ [sigil, '('] <+: operator
  others : ∀ other ∈ profile.literals, other ≠ .quotedSymbol sigil → sigil ∉ other.leads

/-- Tables that do not get in each other's way. Each field keeps one table from starting what
another one goes on with. They are conditions on the tables alone; that the definition is accepted
is not assumed beyond what makes it well formed. -/
structure Coherent (profile : Profile) : Prop where
  wellFormed : profile.WellFormed
  /-- Blanks start nothing else. -/
  blanks : ∀ c, isLayout c = true → profile.isQuote c = false ∧ profile.isDelimiter c = false ∧
    profile.Idle c
  quotes : ∀ quote, profile.isQuote quote = true → profile.continuesIdentifier quote = false
  leads : ∀ lead ∈ profile.stringLeads, ∃ c word, lead = c :: word ∧
    Machine.onInitial profile c = (.word, .read) ∧ word.all profile.continuesIdentifier = true
  marker : ∀ marker, profile.lineComment = some marker → marker.any isLineBreak = false
  /-- A line comment does not start like a block comment. -/
  lineComment : ∀ marker markers, profile.lineComment = some marker →
    profile.blockComment = some markers → ¬ markers.opener <+: marker
  blockComment : ∀ markers, profile.blockComment = some markers → markers.Paired
  literalLeads : ∀ form ∈ profile.literals, ∀ c ∈ form.leads, profile.isLiteralLead c = true
  booleans : ∀ form ∈ profile.literals, ∀ spelling ∈ form.spellings,
    profile.Distinct form spelling.toList
  characters : ∀ lead names, .character lead names ∈ profile.literals →
    profile.symbolsKind? lead.toList = none
  quotedSymbols : ∀ sigil, .quotedSymbol sigil ∈ profile.literals → profile.Opening sigil
  delimiters : ∀ c ∈ profile.delimiters, profile.Idle c ∧ c.isDigit = false ∧ isSign c = false
  operatorLength : ∀ operator ∈ profile.operators, operator.length ≤ profile.operatorLength
  operators : ∀ operator ∈ profile.operators, Number.length? profile.numbers operator = none
  /-- Where operators need a boundary, they are identifiers. -/
  boundary : profile.definition.operatorBoundary = true →
    ∀ operator ∈ profile.operators, profile.isIdentifier operator = true
  digits : ∀ c, c.isDigit = true → profile.Idle c ∧ profile.startsIdentifier c = false
  /-- Where numbers have signs, they have no bases, and nothing else starts like them. -/
  signs : profile.numbers.signed = true → (∀ c, Radix.ofLetter? profile.numbers c = none) ∧
    ∀ sign digit, isSign sign = true → digit.isDigit = true →
      profile.isLiteralLead sign = false ∧ profile.symbolState? [sign, digit] = none
  /-- No reserved word starts with a blank or a digit. -/
  words : ∀ c text, isLayout c = true ∨ c.isDigit = true → profile.wordKind? (c :: text) = none
  /-- A reserved word of one character is an identifier. -/
  singles : ∀ c kind, profile.wordKind? [c] = some kind → profile.startsIdentifier c = true

variable {profile : Profile}

theorem symbolState?_eq_none {text : List Char} (nothing : profile.symbolState? text = none) :
    profile.startsOperator text = false ∧
      (∀ marker, profile.lineComment = some marker → ¬ text <+: marker) ∧
      ∀ markers, profile.blockComment = some markers → ¬ text <+: markers.opener := by
  rw [symbolState?] at nothing
  dsimp only at nothing
  split at nothing
  · cases nothing
  split at nothing
  · cases nothing
  split at nothing
  · cases nothing
  rename_i none_starts
  rw [Bool.or_eq_true, Bool.or_eq_true, not_or, not_or] at none_starts
  refine ⟨Bool.eq_false_iff.mpr none_starts.1.1, fun marker marked front => ?_,
    fun markers marked front => ?_⟩
  · apply none_starts.1.2
    rw [marked]
    exact List.isPrefixOf_iff_prefix.mpr front
  · apply none_starts.2
    rw [marked]
    exact List.isPrefixOf_iff_prefix.mpr front

/-- The start of a marker that is no marker itself is read as symbols. The other marker may be the
start in question, so both are excluded. -/
theorem symbolState?_of_marker {front marker : List Char}
    (noLine : profile.lineComment ≠ some front)
    (noBlock : profile.blockComment.map (·.opener) ≠ some front) (prefix_ : front <+: marker)
    (marked : profile.lineComment = some marker ∨
      profile.blockComment.map (·.opener) = some marker) :
    profile.symbolState? front = some .symbols := by
  have starts := List.isPrefixOf_iff_prefix.mpr prefix_
  rw [symbolState?]
  dsimp only
  rw [if_neg noLine, if_neg noBlock]
  refine if_pos ?_
  rcases marked with line | block
  · rw [line, Option.map_some, starts, Option.getD_some, Bool.or_true, Bool.true_or]
  · rw [block, Option.map_some, starts, Option.getD_some, Bool.or_true]

theorem singleton_prefix_of_front {c : Char} {text marker : List Char} (nonempty : marker ≠ [])
    (front : marker <+: c :: text) : [c] <+: marker := by
  obtain ⟨rest, split⟩ := front
  cases marker with
  | nil => exact absurd rfl nonempty
  | cons first marker =>
    cases split
    exact ⟨marker, rfl⟩

theorem Idle.line {c : Char} (idle : profile.Idle c) (wellFormed : profile.WellFormed)
    {marker : List Char} (marked : profile.lineComment = some marker) (text : List Char) :
    ¬ marker <+: c :: text := by
  intro front
  have nonempty : marker ≠ [] := fun empty => wellFormed.lineComment (by rw [marked, empty])
  exact (symbolState?_eq_none idle.symbol).2.1 marker marked (singleton_prefix_of_front nonempty front)

theorem Idle.block {c : Char} (idle : profile.Idle c) (wellFormed : profile.WellFormed)
    {markers : BlockMarkers} (marked : profile.blockComment = some markers) (text : List Char) :
    ¬ markers.opener <+: c :: text := by
  intro front
  exact (symbolState?_eq_none idle.symbol).2.2 markers marked
    (singleton_prefix_of_front (wellFormed.opener markers marked) front)

theorem Idle.isOperator {c : Char} (idle : profile.Idle c) (text : List Char) :
    profile.isOperator (c :: text) = false :=
  isOperator_eq_false_of_front ⟨text, rfl⟩ (symbolState?_eq_none idle.symbol).1

end Profile

end ProfileLexer
