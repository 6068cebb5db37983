import ProfileLexer.Proofs.Automaton.Delimited
import ProfileLexer.Proofs.Scan.Plain

/-!
Texts that the automaton reads as symbols at first: comment markers, operators, literals, and
identifiers that start like one of them.
-/

namespace ProfileLexer

namespace Profile

/-- The kind of a text that has been read as symbols or as a literal. Literals come before
operators, and operators before words. -/
def symbolsKind? (profile : Profile) (text : List Char) : Option TokenKind :=
  match profile.literalKind? text with
  | some kind => some kind
  | none =>
    if profile.isOperator text then some .operator
    else if profile.isIdentifier text then some (profile.wordOr text)
    else none

variable {profile : Profile} {read : List Char} {used : Nat}

theorem onEnd_symbols : (profile.machineIn .symbols read used).onEnd =
    match profile.literalKind? read with
    | some kind => (.literalDone kind, .accept)
    | none =>
      if profile.isOperator read then (.operatorDone, .accept)
      else if profile.isIdentifier read then (.identifierDone, .accept)
      else (.rejected, .reject) := rfl

theorem onEnd_literal : (profile.machineIn .literal read used).onEnd =
    match profile.literalKind? read with
    | some kind => (.literalDone kind, .accept)
    | none =>
      if profile.isIdentifier read then (.identifierDone, .accept) else (.rejected, .reject) := rfl

theorem kindFrom?_symbols_nil :
    profile.kindFrom? .symbols read used [] = profile.symbolsKind? read := by
  rw [kindFrom?_nil, symbolsKind?, onEnd_symbols]
  cases profile.literalKind? read with
  | some kind => rfl
  | none =>
    cases profile.isOperator read with
    | true => rfl
    | false => cases profile.isIdentifier read <;> rfl

theorem kindFrom?_literal (text : List Char)
    (noOperator : profile.isOperator (read ++ text) = false) :
    profile.kindFrom? .literal read used text = profile.symbolsKind? (read ++ text) := by
  induction text generalizing read used with
  | nil =>
    rw [List.append_nil] at noOperator ⊢
    rw [kindFrom?_nil, symbolsKind?, onEnd_literal, noOperator, if_neg Bool.false_ne_true]
    cases profile.literalKind? read with
    | some kind => rfl
    | none => cases profile.isIdentifier read <;> rfl
  | cons c text ih =>
    rw [List.append_cons] at noOperator ⊢
    rw [kindFrom?_of_read .literal text rfl, ih noOperator]

theorem isOperator_eq_false_of_front {front text : List Char} (prefix_ : front <+: text)
    (starts : profile.startsOperator front = false) : profile.isOperator text = false := by
  rw [startsOperator, List.any_eq_false] at starts
  rw [Bool.eq_false_iff]
  intro operator
  exact starts text (List.contains_iff_mem.mp operator) (List.isPrefixOf_iff_prefix.mpr prefix_)

/-- Where no comment starts, symbols are read as symbols or start no operator. The front may be the
whole text. -/
theorem symbolState?_of_plain {text front : List Char} (plain : profile.Plain text)
    (prefix_ : front <+: text) :
    profile.symbolState? front = some .symbols ∨
      profile.symbolState? front = none ∧ profile.startsOperator front = false := by
  have line : profile.lineComment ≠ some front := fun marked => plain.line front marked prefix_
  have block : profile.blockComment.map (·.opener) ≠ some front := by
    intro marked
    obtain ⟨markers, atMarkers, rfl⟩ := Option.map_eq_some_iff.mp marked
    exact plain.block markers atMarkers prefix_
  rw [symbolState?]
  dsimp only
  rw [if_neg line, if_neg block]
  split
  · exact .inl rfl
  · rename_i nothing
    rw [Bool.or_eq_true, Bool.or_eq_true, not_or, not_or] at nothing
    exact .inr ⟨rfl, Bool.eq_false_iff.mpr nothing.1.1⟩

theorem onChar_initial (read : List Char) (used : Nat) (c : Char) :
    (profile.machineIn .initial read used).onChar c = Machine.onInitial profile c := rfl

/-- A quote starts a string, whatever else it may be, unless it is a blank. It comes before
operators and literals. -/
theorem kindFrom?_quote {quote : Char} (quoted : profile.isQuote quote = true)
    (solid : isLayout quote = false) (body : List Char) :
    profile.kindFrom? .initial [] 0 (quote :: body) =
      if Extent.ofString quote 1 body = ⟨(quote :: body).length, true⟩ then some .string
      else none := by
  have moves : (profile.machineIn .initial [] 0).onChar quote = (.string quote, .read) := by
    rw [onChar_initial, Machine.onInitial, solid, if_neg Bool.false_ne_true, if_pos quoted]
  rw [kindFrom?_of_read _ _ moves, kindFrom?_string quote 1, List.length_cons, Nat.add_comm 1]

theorem kindFrom?_initial_of_symbolState {c : Char} {text : List Char} {state : State}
    (unquoted : profile.Unquoted (c :: text)) (symbols : profile.symbolState? [c] = some state) :
    profile.kindFrom? .initial [] 0 (c :: text) =
      profile.kindFrom? state [c] (usedBehind .initial state 0 1) text := by
  refine kindFrom?_of_read state text ?_
  rw [onChar_initial, Machine.onInitial, unquoted.blank c rfl, unquoted.quote c rfl,
    if_neg Bool.false_ne_true, if_neg Bool.false_ne_true, symbols]

/-- A text that starts like a literal or a number with a sign is read as symbols at first, and so is
one that starts like an operator. -/
theorem kindFrom?_initial_symbols {c : Char} {text : List Char} (plain : profile.Plain (c :: text))
    (symbols : profile.symbolState? [c] = some .symbols ∨ profile.isLiteralLead c = true ∨
      (profile.numbers.signed && isSign c) = true) :
    profile.kindFrom? .initial [] 0 (c :: text) = profile.kindFrom? .symbols [c] 0 text := by
  rcases @symbolState?_of_plain profile _ [c] plain ⟨text, rfl⟩ with state | ⟨state, _⟩
  · exact kindFrom?_initial_of_symbolState plain.toUnquoted state
  · refine kindFrom?_of_read .symbols text ?_
    rw [onChar_initial, Machine.onInitial, plain.blank c rfl, plain.quote c rfl,
      if_neg Bool.false_ne_true, if_neg Bool.false_ne_true, state]
    dsimp only
    rw [if_pos]
    rw [Bool.or_eq_true]
    rcases symbols with impossible | symbols
    · rw [state] at impossible
      cases impossible
    · exact symbols

theorem onChar_symbols (read : List Char) (used : Nat) (c : Char) :
    (profile.machineIn .symbols read used).onChar c = Machine.onSymbols profile read c := rfl

/-- Behind a character that literals start with, everything is read. What it is, is decided at the
end. -/
theorem kindFrom?_symbols_of_lead {lead : Char} {text : List Char}
    (head : read.head? = some lead) (leads : profile.isLiteralLead lead = true)
    (plain : profile.Plain (read ++ text)) :
    profile.kindFrom? .symbols read used text = profile.symbolsKind? (read ++ text) := by
  induction text generalizing read used with
  | nil => rw [List.append_nil, kindFrom?_symbols_nil]
  | cons c text ih =>
    rw [List.append_cons] at plain ⊢
    have head' : (read ++ [c]).head? = some lead := by
      rw [List.head?_append, head]
      rfl
    rcases symbolState?_of_plain plain (List.prefix_append (read ++ [c]) text) with
      state | ⟨state, noOperator⟩
    · rw [kindFrom?_of_read .symbols text (by rw [onChar_symbols, Machine.onSymbols, state]),
        ih head' plain]
    · have moves : (profile.machineIn .symbols read used).onChar c = (.literal, .read) := by
        rw [onChar_symbols, Machine.onSymbols, state, head]
        exact if_pos leads
      rw [kindFrom?_of_read .literal text moves, kindFrom?_literal]
      exact isOperator_eq_false_of_front (List.prefix_append (read ++ [c]) text) noOperator

/-- Symbols are read up to the end of an operator, as every part of it starts one. -/
theorem kindFrom?_symbols_of_operator {text : List Char} (plain : profile.Plain (read ++ text))
    (operator : profile.isOperator (read ++ text) = true) :
    profile.kindFrom? .symbols read used text = profile.symbolsKind? (read ++ text) := by
  induction text generalizing read used with
  | nil => rw [List.append_nil, kindFrom?_symbols_nil]
  | cons c text ih =>
    rw [List.append_cons] at plain operator ⊢
    rcases symbolState?_of_plain plain (List.prefix_append (read ++ [c]) text) with
      state | ⟨_, noOperator⟩
    · rw [kindFrom?_of_read .symbols text (by rw [onChar_symbols, Machine.onSymbols, state]),
        ih plain operator]
    · rw [isOperator_eq_false_of_front (List.prefix_append (read ++ [c]) text) noOperator] at operator
      cases operator

theorem isIdentifier_of_append {text : List Char} (some_read : read ≠ [])
    (identifier : profile.isIdentifier (read ++ text) = true) :
    profile.isIdentifier read = true ∧ text.all profile.continuesIdentifier = true := by
  cases read with
  | nil => exact absurd rfl some_read
  | cons first read =>
    rw [List.cons_append, isIdentifier, Bool.and_eq_true, List.all_append, Bool.and_eq_true]
      at identifier
    rw [isIdentifier, Bool.and_eq_true]
    exact ⟨⟨identifier.1, identifier.2.1⟩, identifier.2.2⟩

/-- An identifier that starts like an operator is read to its end, when operators end where
identifiers do. Literals and numbers with a sign that start like it would take it over, so they are
excluded. -/
theorem kindFrom?_symbols_of_identifier {text : List Char} (plain : profile.Plain (read ++ text))
    (some_read : read ≠ []) (identifier : profile.isIdentifier (read ++ text) = true)
    (noLiteral : profile.literalKind? (read ++ text) = none)
    (noNumber : profile.numbers.signed = true → ∀ sign digit, isSign sign = true →
      digit.isDigit = true → ¬ [sign, digit] <+: read ++ text)
    (boundary : ∀ front, front <+: read ++ text → front ≠ read ++ text →
      profile.isOperator front = true → profile.definition.operatorBoundary = true) :
    profile.kindFrom? .symbols read used text = profile.symbolsKind? (read ++ text) := by
  induction text generalizing read used with
  | nil => rw [List.append_nil, kindFrom?_symbols_nil]
  | cons c text ih =>
    have front := isIdentifier_of_append some_read identifier
    rw [List.all_cons, Bool.and_eq_true] at front
    obtain ⟨isIdentifier, goesOn, rest⟩ := front
    have strict : read ≠ read ++ c :: text := by simp
    have operator := boundary read (List.prefix_append read _) strict
    rw [List.append_cons] at plain identifier noLiteral noNumber boundary ⊢
    rcases symbolState?_of_plain plain (List.prefix_append (read ++ [c]) text) with
      state | ⟨state, noOperator⟩
    · rw [kindFrom?_of_read .symbols text (by rw [onChar_symbols, Machine.onSymbols, state]),
        ih plain (by simp) identifier noLiteral noNumber boundary]
    have noOperator := isOperator_eq_false_of_front (List.prefix_append (read ++ [c]) text) noOperator
    have onChar : (profile.machineIn .symbols read used).onChar c = (.literal, .read) ∨
        (profile.machineIn .symbols read used).onChar c = (.word, .read) := by
      rw [onChar_symbols, Machine.onSymbols, state]
      dsimp only
      split
      · exact .inl rfl
      split
      · rename_i signed
        rw [Bool.and_eq_true, Bool.and_eq_true] at signed
        obtain ⟨⟨signed, single⟩, digit⟩ := signed
        obtain ⟨sign, rfl, isSign⟩ : ∃ sign, read = [sign] ∧ isSign sign = true := by
          rcases Bool.or_eq_true_iff.mp single with plus | minus
          · exact ⟨'+', eq_of_beq plus, rfl⟩
          · exact ⟨'-', eq_of_beq minus, rfl⟩
        exact absurd ⟨text, rfl⟩ (noNumber signed sign c isSign digit)
      split
      · rename_i isOperator
        rw [operator isOperator, goesOn, isIdentifier]
        exact .inr rfl
      · rw [isIdentifier, goesOn]
        exact .inr rfl
    rcases onChar with moves | moves
    · rw [kindFrom?_of_read .literal text moves, kindFrom?_literal text noOperator]
    · rw [kindFrom?_of_read .word text moves, kindFrom?_word rest, symbolsKind?, noLiteral]
      dsimp only
      rw [noOperator, if_neg Bool.false_ne_true, if_pos identifier]

/-- A comment marker is read character by character when nothing in front of its end is a marker.
The state behind it is that of its comment. -/
theorem kindFrom?_symbols_marker {marker text : List Char} {state : State} (some_left : marker ≠ [])
    (some_read : read ≠ [])
    (unfinished : ∀ front, front <+: read ++ marker → front ≠ [] → front ≠ read ++ marker →
      profile.symbolState? front = some .symbols)
    (finished : profile.symbolState? (read ++ marker) = some state) :
    profile.kindFrom? .symbols read used (marker ++ text) =
      profile.kindFrom? state (read ++ marker)
        (usedBehind .symbols state used (read ++ marker).length) text := by
  induction marker generalizing read with
  | nil => exact absurd rfl some_left
  | cons c marker ih =>
    cases marker with
    | nil =>
      rw [List.singleton_append, kindFrom?_of_read state text
        (by rw [onChar_symbols, Machine.onSymbols, finished]), List.length_append, List.length_singleton]
    | cons next marker =>
      have symbols : profile.symbolState? (read ++ [c]) = some .symbols :=
        unfinished _ ⟨next :: marker, by simp⟩ (by simp) (by simp)
      rw [List.append_cons] at unfinished finished ⊢
      rw [List.cons_append, kindFrom?_of_read .symbols _
        (by rw [onChar_symbols, Machine.onSymbols, symbols])]
      exact ih (by simp) (by simp) unfinished finished

theorem kindFrom?_marker {marker text : List Char} {state : State} (nonempty : marker ≠ [])
    (unquoted : profile.Unquoted (marker ++ text))
    (unfinished : ∀ front, front <+: marker → front ≠ [] → front ≠ marker →
      profile.symbolState? front = some .symbols)
    (finished : profile.symbolState? marker = some state) :
    profile.kindFrom? .initial [] 0 (marker ++ text) =
      profile.kindFrom? state marker (usedBehind .initial state 0 marker.length) text := by
  cases marker with
  | nil => exact absurd rfl nonempty
  | cons c marker =>
    rw [List.cons_append] at unquoted ⊢
    by_cases single : marker = []
    · subst single
      exact kindFrom?_initial_of_symbolState unquoted finished
    · have symbols : profile.symbolState? [c] = some .symbols :=
        unfinished [c] ⟨marker, rfl⟩ (by simp) (by simpa using Ne.symm single)
      rw [kindFrom?_initial_of_symbolState unquoted symbols]
      refine (kindFrom?_symbols_marker single (by simp) unfinished finished).trans ?_
      cases state <;> rfl

end Profile

end ProfileLexer
