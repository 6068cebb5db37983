import ProfileLexer.Proofs.Automaton.Number
import ProfileLexer.Proofs.Classifier.Coherent
import ProfileLexer.Proofs.Classifier.Shapes

/-!
Shapes and automaton agree on the lexemes of a coherent profile that start with no blank, string or
comment: literals, delimiters, operators, numbers, identifiers and what no rule claims.
-/

namespace ProfileLexer

namespace Profile

variable {profile : Profile} {front text : List Char}

/-- A form that a text does not start with does not start the front of the text either, when the
front has another form. Without the other form the front could be the spelling of a boolean
literal. -/
theorem Coherent.literalExtent?_eq_none (coherent : profile.Coherent) (prefix_ : front <+: text)
    {form other : LiteralForm} (inLiterals : form ∈ profile.literals)
    (otherIn : other ∈ profile.literals) {extent : Extent}
    (found : profile.literalExtent? form front = some extent)
    (different : form ≠ other) (nothing : profile.literalExtent? other text = none) :
    profile.literalExtent? other front = none := by
  refine literalExtent?_eq_none_of_front prefix_ (fun spelling member same => ?_) nothing
  have distinct := coherent.booleans other otherIn spelling member
  have declined := distinct.others form inLiterals different
  rw [same, found] at declined
  cases declined

theorem symbolsKind?_of_literalKind? {kind : TokenKind} (literal : profile.literalKind? text = some kind) :
    profile.symbolsKind? text = some kind := by
  rw [symbolsKind?, literal]

/-- A literal that is left open is nothing else, as far as symbols go. -/
theorem Coherent.symbolsKind?_of_open (coherent : profile.Coherent) {form : LiteralForm}
    (member : form ∈ profile.literals) {extent : Extent}
    (found : profile.literalExtent? form text = some extent) (still_open : extent.closed = false) :
    profile.symbolsKind? text = none := by
  rcases literalExtent?_open found still_open with
    ⟨lead, names, rfl, rfl⟩ | ⟨sigil, rest, rfl, rfl⟩
  · exact coherent.characters lead names member
  · have opening := coherent.quotedSymbols sigil member
    have literal : profile.literalKind? (sigil :: '(' :: rest) = none := by
      rw [literalKind?, Option.map_eq_none_iff, List.find?_eq_none]
      intro other otherIn closed
      by_cases same : other = .quotedSymbol sigil
      · rw [same, found, beq_iff_eq, Option.some.injEq] at closed
        rw [closed] at still_open
        cases still_open
      · have solid := coherent.wellFormed.literals other otherIn
        exact opening.others other otherIn same
          (mem_leads_of_literalExtent? solid (eq_of_beq closed))
    have operator : profile.isOperator (sigil :: '(' :: rest) = false := by
      rw [Bool.eq_false_iff]
      intro isOperator
      exact opening.operators _ (List.contains_iff_mem.mp isOperator) ⟨rest, rfl⟩
    have identifier : profile.isIdentifier (sigil :: '(' :: rest) = false := by
      rw [isIdentifier, List.all_cons, opening.identifier, Bool.false_and, Bool.and_false]
    rw [symbolsKind?, literal, operator, identifier]
    rfl

/-- A literal is valid when it is closed. The form has to be the first that starts the text, and has
to cover all of it. -/
theorem Coherent.agrees_literal (coherent : profile.Coherent) {c : Char} {rest : List Char}
    (plain : profile.Plain (c :: rest)) (leads : profile.isLiteralLead c = true)
    {before after : List LiteralForm} {form : LiteralForm}
    (split : profile.literals = before ++ form :: after)
    (nothing : ∀ other ∈ before, profile.literalExtent? other (c :: rest) = none) {extent : Extent}
    (found : profile.literalExtent? form (c :: rest) = some extent)
    (whole : extent.length = (c :: rest).length) : profile.Agrees (c :: rest) := by
  have member : form ∈ profile.literals := by
    rw [split]
    simp
  have judged : profile.judge? (c :: rest) = some (.ofClosed form.kind extent.closed) := by
    refine judge?_of_shape .literal (by simp) (fun other earlier => ?_) ?_
    · cases other with
      | string | lineComment | blockComment => exact judgeAs?_of_plain plain (by simp)
      | _ => exact absurd earlier (by decide)
    · rw [judgeAs?, List.head?_cons, Option.map_some, Option.getD_some, if_pos leads, split,
        List.findSome?_append, List.findSome?_eq_none_iff.mpr, Option.none_or, List.findSome?_cons,
        found, whole?_of_length whole]
      intro other earlier
      rw [nothing other earlier]
      rfl
  have automaton : profile.kindFrom? .initial [] 0 (c :: rest) = profile.symbolsKind? (c :: rest) := by
    rw [kindFrom?_initial_symbols plain (.inr (.inl leads))]
    exact kindFrom?_symbols_of_lead rfl leads plain
  refine agrees_of_eq ?_
  rw [automaton, judged, Option.bind_some, Judgement.valid?_ofClosed]
  cases closed : extent.closed with
  | false => exact coherent.symbolsKind?_of_open member found closed
  | true =>
    refine symbolsKind?_of_literalKind? ?_
    rw [literalKind?, split, List.find?_append, List.find?_eq_none.mpr, Option.none_or,
      List.find?_cons_of_pos]
    · rfl
    · rw [found, beq_iff_eq, ← whole]
      rw [← closed]
    · intro other earlier
      rw [nothing other earlier]
      simp

/-- A text that starts with no literal. It may still start with a character that some literal starts
with. -/
def NoLiteral (profile : Profile) (text : List Char) : Prop :=
  ∀ form ∈ profile.literals, profile.literalExtent? form text = none

theorem NoLiteral.of_declines (wellFormed : profile.WellFormed)
    (leads : ∀ form ∈ profile.literals, ∀ c ∈ form.leads, profile.isLiteralLead c = true)
    (declines : Rule.literal.Declines profile text) : profile.NoLiteral text := by
  intro form member
  rw [Option.eq_none_iff_forall_ne_some]
  intro extent found
  have fits := fits_literalExtent? wellFormed member found
  cases text with
  | nil =>
    have positive := fits.pos
    have nothing := fits.le
    rw [List.length_nil] at nothing
    omega
  | cons c rest =>
    have solid := wellFormed.literals form member
    have lead := leads form member c (mem_leads_of_literalExtent? solid found)
    rw [literalExtent?_eq_none_of_declines wellFormed declines rfl lead member] at found
    cases found

theorem Coherent.noLiteral_of_declines (coherent : profile.Coherent)
    (declines : Rule.literal.Declines profile text) : profile.NoLiteral text :=
  .of_declines coherent.wellFormed coherent.literalLeads declines

theorem NoLiteral.of_front (noLiteral : profile.NoLiteral text) (prefix_ : front <+: text)
    (apart : ∀ form ∈ profile.literals, ∀ spelling ∈ form.spellings, spelling.toList ≠ front) :
    profile.NoLiteral front := fun form member =>
  literalExtent?_eq_none_of_front prefix_ (apart form member) (noLiteral form member)

theorem NoLiteral.literalKind? (noLiteral : profile.NoLiteral text) :
    profile.literalKind? text = none := by
  rw [Profile.literalKind?, Option.map_eq_none_iff, List.find?_eq_none]
  intro form member closed
  rw [noLiteral form member] at closed
  cases closed

theorem NoLiteral.judgeAs? (noLiteral : profile.NoLiteral text) :
    profile.judgeAs? text .literal = none :=
  judgeAs?_literal_eq_none fun _ _ _ form member => noLiteral form member

theorem length?_of_apart {c : Char} {rest : List Char} (noSign : isSign c = false)
    (noDigit : c.isDigit = false) : Number.length? profile.numbers (c :: rest) = none := by
  rw [Number.length?, noSign, noDigit, Bool.and_false]
  rfl

theorem Coherent.agrees_delimiter (coherent : profile.Coherent) {c : Char}
    (plain : profile.Plain [c]) (delimits : profile.isDelimiter c = true) : profile.Agrees [c] := by
  obtain ⟨idle, noDigit, noSign⟩ := coherent.delimiters c (List.contains_iff_mem.mp delimits)
  have moves : (profile.machineIn .initial [] 0).onChar c = (.delimiter, .read) := by
    rw [onChar_initial, Machine.onInitial, plain.blank c rfl, plain.quote c rfl, idle.symbol,
      if_neg Bool.false_ne_true, if_neg Bool.false_ne_true]
    dsimp only
    rw [idle.literal, noSign, delimits, Bool.and_false]
    rfl
  have automaton : profile.kindFrom? .initial [] 0 [c] = some .delimiter := by
    rw [kindFrom?_of_read _ _ moves, kindFrom?_of_accept rfl]
    rfl
  have judged : profile.judge? [c] = some (.valid .delimiter) := by
    refine judge?_of_shape .delimiter (by simp) (fun other earlier => ?_) ?_
    · cases other with
      | string | lineComment | blockComment => exact judgeAs?_of_plain plain (by simp)
      | literal => exact judgeAs?_literal_eq_none (by simp [idle.literal])
      | number => exact judgeAs?_number_eq_none (length?_of_apart noSign noDigit)
      | operator => exact judgeAs?_operator_eq_none (idle.isOperator [])
      | _ => exact absurd earlier (by decide)
    · rw [Profile.judgeAs?, kindIf, if_pos delimits]
  exact agrees_of_eq (by rw [automaton, judged]; rfl)

/-- An operator is an operator, if no literal starts the text. Whether a boundary is behind it is
not asked, since nothing is. -/
theorem Coherent.agrees_operator (coherent : profile.Coherent) (plain : profile.Plain front)
    (nonempty : front ≠ []) (noLiteral : profile.NoLiteral front)
    (operator : profile.isOperator front = true) : profile.Agrees front := by
  have automaton : profile.kindFrom? .initial [] 0 front = some .operator := by
    cases front with
    | nil => exact absurd rfl nonempty
    | cons c rest =>
      have symbols : profile.symbolState? [c] = some .symbols := by
        rcases @symbolState?_of_plain profile _ [c] plain ⟨rest, rfl⟩ with symbols | ⟨_, none_starts⟩
        · exact symbols
        · have nothing : profile.isOperator (c :: rest) = false :=
            isOperator_eq_false_of_front ⟨rest, rfl⟩ none_starts
          rw [nothing] at operator
          cases operator
      rw [kindFrom?_initial_symbols plain (.inl symbols),
        @kindFrom?_symbols_of_operator profile [c] 0 rest plain operator, symbolsKind?,
        List.singleton_append, noLiteral.literalKind?]
      exact if_pos operator
  have judged : profile.judge? front = some (.valid .operator) := by
    refine judge?_of_shape .operator nonempty (fun other earlier => ?_) ?_
    · cases other with
      | string | lineComment | blockComment => exact judgeAs?_of_plain plain (by simp)
      | literal => exact noLiteral.judgeAs?
      | number =>
        exact judgeAs?_number_eq_none (coherent.operators front (List.contains_iff_mem.mp operator))
      | _ => exact absurd earlier (by decide)
    · rw [Profile.judgeAs?, kindIf, if_pos operator]
  exact agrees_of_eq (by rw [automaton, judged]; rfl)

/-- The automaton reads a number from its first digit on, behind the sign. The letter of a base may
be followed by no digit of the base, and then it rejects the text. -/
theorem Coherent.kindFrom?_of_number (coherent : profile.Coherent) {base : Option Radix}
    {sign body : List Char} (isSign : Number.Sign sign)
    (signed : sign ≠ [] → profile.numbers.signed = true)
    (unsigned : Number.Unsigned profile.numbers base body) (plain : profile.Plain (sign ++ body))
    (noDelimiter : ∀ c, (sign ++ body).head? = some c → profile.isDelimiter c = false) :
    profile.kindFrom? .initial [] 0 (sign ++ body) =
      if Number.inBase base body then some .number else none := by
  obtain ⟨digit, _, _⟩ := unsigned.length
  obtain ⟨c, rest, rfl, first⟩ := Number.startsWithDigit_iff.mp digit
  have number : ∀ read used, profile.kindFrom? .number read used (c :: rest) =
      profile.kindFrom? .number (read ++ [c]) used rest := fun read used =>
    kindFrom?_of_read _ _ (onChar_number first read used)
  obtain ⟨idle, _⟩ := coherent.digits c first
  rcases isSign with rfl | ⟨mark, isMark, rfl⟩
  · have moves : (profile.machineIn .initial [] 0).onChar c = (.number, .read) := by
      rw [onChar_initial, Machine.onInitial, plain.blank c rfl, plain.quote c rfl, idle.symbol,
        if_neg Bool.false_ne_true, if_neg Bool.false_ne_true]
      dsimp only
      rw [idle.literal, Number.isSign_eq_false_of_isDigit first, noDelimiter c rfl, first,
        Bool.and_false]
      rfl
    rw [← @kindFrom?_number profile 0 base _ _ (.inl rfl) unsigned, number]
    exact kindFrom?_of_read _ _ moves
  · have hasSigns := signed (by simp)
    obtain ⟨noLead, noSymbol⟩ := (coherent.signs hasSigns).2 mark c isMark first
    have single : ([mark] == ['+'] || [mark] == ['-']) = true := by
      rcases Bool.or_eq_true_iff.mp isMark with plus | minus
      · rw [eq_of_beq plus]
        rfl
      · rw [eq_of_beq minus]
        rfl
    have moves : (profile.machineIn .symbols [mark] 0).onChar c = (.number, .read) := by
      rw [onChar_symbols, Machine.onSymbols, List.singleton_append, noSymbol]
      dsimp only
      rw [List.head?_cons, Option.map_some, Option.getD_some, noLead, hasSigns, single, first]
      rfl
    have symbols : (profile.numbers.signed && ProfileLexer.isSign mark) = true := by
      rw [hasSigns, isMark]
      rfl
    rw [List.singleton_append] at plain ⊢
    rw [← @kindFrom?_number profile 0 base _ _ (.inr ⟨mark, isMark, rfl⟩) unsigned, number,
      kindFrom?_initial_symbols plain (.inr (.inr symbols))]
    exact kindFrom?_of_read _ _ moves

theorem isLayout_eq_false_of_isDigit {c : Char} (digit : c.isDigit = true) : isLayout c = false := by
  have apart : ∀ other : Char, other.isDigit = false → (c == other) = false := by
    intro other noDigit
    rw [beq_eq_false_iff_ne]
    rintro rfl
    rw [noDigit] at digit
    cases digit
  rw [isLayout, apart ' ' rfl, apart '\t' rfl, apart '\n' rfl, apart '\r' rfl]
  rfl

/-- What follows the letter of a base without being a digit of it makes a text of no shape, so the
judgement is left to the automaton. -/
theorem Coherent.judge?_of_garbage (coherent : profile.Coherent) {base : Option Radix}
    {sign body : List Char} (isSign : Number.Sign sign)
    (signed : sign ≠ [] → profile.numbers.signed = true)
    (unsigned : Number.Unsigned profile.numbers base body) (plain : profile.Plain (sign ++ body))
    (garbage : Number.inBase base body = false) : profile.judge? (sign ++ body) = none := by
  have noForm := Number.ofText?_isSome isSign signed unsigned
  rw [garbage] at noForm
  cases unsigned with
  | decimal => cases garbage
  | based based =>
    obtain ⟨chosen, run⟩ := based
    rename_i base letter digits
    have unsigned_ : sign = [] := by
      by_contra some_sign
      rw [(coherent.signs (signed some_sign)).1 letter] at chosen
      cases chosen
    subst unsigned_
    rw [List.nil_append] at plain noForm ⊢
    obtain ⟨idle, noIdentifier⟩ := coherent.digits '0' rfl
    refine judge?_eq_none fun shape _ => ?_
    cases shape with
    | string | lineComment | blockComment => exact judgeAs?_of_plain plain (by simp)
    | literal => exact judgeAs?_literal_eq_none (by simp [idle.literal])
    | number =>
      rw [Profile.judgeAs?, noForm]
      rfl
    | operator => exact judgeAs?_operator_eq_none (idle.isOperator _)
    | delimiter => rfl
    | word => exact judgeAs?_word_eq_none (coherent.words '0' _ (.inr rfl))
    | layout =>
      rw [Profile.judgeAs?, List.all_cons, isLayout_eq_false_of_isDigit (c := '0') rfl]
      rfl
    | identifier =>
      rw [Profile.judgeAs?, isIdentifier, noIdentifier]
      rfl

theorem Coherent.isLiteralLead_of_number (coherent : profile.Coherent) {base : Option Radix}
    {sign body : List Char} (isSign : Number.Sign sign)
    (signed : sign ≠ [] → profile.numbers.signed = true)
    (unsigned : Number.Unsigned profile.numbers base body) {c : Char}
    (head : (sign ++ body).head? = some c) : profile.isLiteralLead c = false := by
  obtain ⟨first, rest, rfl, digit⟩ := Number.startsWithDigit_iff.mp unsigned.length.1
  rcases isSign with rfl | ⟨mark, isMark, rfl⟩
  · cases head
    exact (coherent.digits c digit).1.literal
  · cases head
    exact ((coherent.signs (signed (by simp))).2 c first isMark digit).1

/-- A number is a number when it has a form. Texts with garbage behind the letter of a base are
covered, too: both ways find nothing. -/
theorem Coherent.agrees_number (coherent : profile.Coherent) {base : Option Radix}
    {sign body : List Char} (isSign : Number.Sign sign)
    (signed : sign ≠ [] → profile.numbers.signed = true)
    (unsigned : Number.Unsigned profile.numbers base body) (plain : profile.Plain (sign ++ body))
    (noDelimiter : ∀ c, (sign ++ body).head? = some c → profile.isDelimiter c = false) :
    profile.Agrees (sign ++ body) := by
  refine agrees_of_eq ?_
  rw [coherent.kindFrom?_of_number isSign signed unsigned plain noDelimiter]
  cases form : Number.inBase base body with
  | false =>
    rw [coherent.judge?_of_garbage isSign signed unsigned plain form]
    rfl
  | true =>
    obtain ⟨first, rest, split, _⟩ := Number.startsWithDigit_iff.mp unsigned.length.1
    have judged : profile.judge? (sign ++ body) = some (.valid .number) := by
      refine judge?_of_shape .number (by simp [split]) (fun other earlier => ?_) ?_
      · cases other with
        | string | lineComment | blockComment => exact judgeAs?_of_plain plain (by simp)
        | literal =>
          refine judgeAs?_literal_eq_none fun c head leads => ?_
          rw [coherent.isLiteralLead_of_number isSign signed unsigned head] at leads
          cases leads
        | _ => exact absurd earlier (by decide)
      · rw [Profile.judgeAs?, Number.ofText?_isSome isSign signed unsigned, form]
        rfl
    rw [judged]
    rfl

/-- What is read as symbols up to the end of an identifier is a word: a reserved one or an
identifier. -/
theorem symbolsKind?_of_identifier (noLiteral : profile.NoLiteral front)
    (noOperator : profile.isOperator front = false) (identifier : profile.isIdentifier front = true) :
    profile.symbolsKind? front = some (profile.wordOr front) := by
  rw [symbolsKind?, noLiteral.literalKind?, noOperator]
  exact if_pos identifier

/-- The words that the judgement by shape and the automaton name alike. All that could take
precedence over a word is excluded by name. -/
theorem judge?_of_identifier (plain : profile.Plain front) (noLiteral : profile.NoLiteral front)
    (noNumber : Number.length? profile.numbers front = none)
    (noOperator : profile.isOperator front = false)
    (noDelimiter : ∀ c, front.head? = some c → profile.isDelimiter c = false)
    (identifier : profile.isIdentifier front = true) :
    profile.judge? front = some (.valid (profile.wordOr front)) := by
  have nonempty : front ≠ [] := by
    rintro rfl
    cases identifier
  have none_before : ∀ other ∈ Shape.word.earlier, profile.judgeAs? front other = none := by
    intro other earlier
    cases other with
    | string | lineComment | blockComment => exact judgeAs?_of_plain plain (by simp)
    | literal => exact noLiteral.judgeAs?
    | number => exact judgeAs?_number_eq_none noNumber
    | operator => exact judgeAs?_operator_eq_none noOperator
    | delimiter => exact judgeAs?_delimiter_eq_none noDelimiter
    | _ => exact absurd earlier (by decide)
  rw [wordOr]
  cases word : profile.wordKind? front with
  | some kind =>
    refine judge?_of_shape .word nonempty none_before ?_
    rw [Profile.judgeAs?, word]
    rfl
  | none =>
    refine judge?_of_shape .identifier nonempty (fun other earlier => ?_) ?_
    · cases other with
      | word => exact judgeAs?_word_eq_none word
      | layout =>
        cases front with
        | nil => exact absurd rfl nonempty
        | cons c rest =>
          rw [Profile.judgeAs?, List.all_cons, plain.blank c rfl]
          rfl
      | identifier => exact absurd earlier (by decide)
      | _ => exact none_before _ (by decide)
    · rw [Profile.judgeAs?, kindIf, if_pos identifier]
      rfl

/-- Where the operator rule claims nothing, no operator ends where an identifier ends, because there
is a boundary. -/
theorem Coherent.isOperator_eq_false (coherent : profile.Coherent) {c : Char} {rest : List Char}
    (operators : Rule.operator.Declines profile (c :: rest)) :
    profile.isOperator (c :: rest.takeWhile profile.continuesIdentifier) = false := by
  rw [Bool.eq_false_iff]
  intro operator
  have run := List.takeWhile_prefix (l := rest) profile.continuesIdentifier
  rw [List.prefix_iff_eq_take.mp run, ← List.take_succ_cons] at operator
  obtain ⟨asked, longest, long, within, isOperator, runsOn⟩ := operator_of_declines operators
    (Nat.succ_pos _) (by simpa using run.length_le) coherent.operatorLength operator
  obtain ⟨n, rfl⟩ : ∃ n, longest = n + 1 := ⟨longest - 1, by omega⟩
  have identifier := coherent.boundary asked _ (List.contains_iff_mem.mp isOperator)
  rw [List.take_succ_cons, isIdentifier, Bool.and_eq_true] at identifier
  rw [List.drop_succ_cons] at runsOn
  cases left : rest.drop n with
  | nil =>
    rw [left] at runsOn
    cases runsOn
  | cons next left' =>
    rw [left, atBoundary, Bool.not_eq_false'] at runsOn
    have split : rest = rest.take n ++ next :: left' := by rw [← left, List.take_append_drop]
    have longer : n + 1 ≤ (rest.takeWhile profile.continuesIdentifier).length := by
      rw [split, List.takeWhile_append_of_pos (by simpa using identifier.2), List.takeWhile_cons,
        if_pos runsOn, List.length_append, List.length_take, List.length_cons]
      rw [List.length_cons] at within
      omega
    omega

/-- The run of an identifier is read to its end. An operator inside it does not stop the automaton,
if operators need a boundary. -/
theorem kindFrom?_of_identifier {c : Char} {run : List Char}
    (plain : profile.Plain (c :: run)) (noLiteral : profile.NoLiteral (c :: run))
    (noNumber : Number.length? profile.numbers (c :: run) = none)
    (noOperator : profile.isOperator (c :: run) = false) (noDelimiter : profile.isDelimiter c = false)
    (identifier : profile.isIdentifier (c :: run) = true)
    (boundary : ∀ front, front <+: c :: run → front ≠ c :: run → profile.isOperator front = true →
      profile.definition.operatorBoundary = true) :
    profile.kindFrom? .initial [] 0 (c :: run) = some (profile.wordOr (c :: run)) := by
  have parts := identifier
  rw [isIdentifier, Bool.and_eq_true] at parts
  have noSigned : profile.numbers.signed = true → ∀ sign digit, isSign sign = true →
      digit.isDigit = true → ¬ [sign, digit] <+: [c] ++ run := by
    rintro signed sign digit isSign isDigit ⟨rest, split⟩
    cases split
    rw [Number.length?, signed, isSign] at noNumber
    simp [Number.startsWithDigit, isDigit] at noNumber
  by_cases symbols : profile.symbolState? [c] = some .symbols ∨ profile.isLiteralLead c = true ∨
      (profile.numbers.signed && isSign c) = true
  · rw [kindFrom?_initial_symbols plain symbols, kindFrom?_symbols_of_identifier plain (by simp)
      identifier noLiteral.literalKind? noSigned boundary]
    exact symbolsKind?_of_identifier noLiteral noOperator identifier
  · rw [not_or, not_or] at symbols
    have noSymbol : profile.symbolState? [c] = none := by
      rcases @symbolState?_of_plain profile _ [c] plain ⟨run, rfl⟩ with state | ⟨state, _⟩
      · exact absurd state symbols.1
      · exact state
    have noDigit : c.isDigit = false := by
      rw [Bool.eq_false_iff]
      intro digit
      rw [Number.length?, Number.isSign_eq_false_of_isDigit digit, digit, Bool.and_false] at noNumber
      cases noNumber
    have moves : (profile.machineIn .initial [] 0).onChar c = (.word, .read) := by
      rw [onChar_initial, Machine.onInitial, plain.blank c rfl, plain.quote c rfl, noSymbol,
        if_neg Bool.false_ne_true, if_neg Bool.false_ne_true]
      dsimp only
      rw [Bool.eq_false_iff.mpr symbols.2.1, Bool.eq_false_iff.mpr symbols.2.2, noDelimiter, noDigit,
        parts.1]
      rfl
    rw [kindFrom?_of_read _ _ moves, kindFrom?_word parts.2]
    rfl

/-- A boolean literal that ends where an identifier ends is not left to the identifier rule, as
there is a boundary behind it. -/
theorem NoLiteral.of_identifier {c : Char} {rest : List Char}
    (noLiteral : profile.NoLiteral (c :: rest)) :
    profile.NoLiteral (c :: rest.takeWhile profile.continuesIdentifier) := by
  have prefix_ : c :: rest.takeWhile profile.continuesIdentifier <+: c :: rest :=
    List.cons_prefix_cons.mpr ⟨rfl, List.takeWhile_prefix _⟩
  refine noLiteral.of_front prefix_ fun form member spelling inForm same => ?_
  cases form with
  | sigilName _ => cases inForm
  | character _ _ => cases inForm
  | quotedSymbol _ => cases inForm
  | boolean spellings =>
    have nothing := noLiteral _ member
    rw [literalExtent?, Option.map_eq_none_iff] at nothing
    refine longestWord?_eq_none.mp nothing spelling inForm ⟨same ▸ prefix_, ?_⟩
    rw [same]
    exact atBoundary_drop_takeWhile rest

/-- An identifier is a word on both ways, where all rules in front of the one for identifiers claim
nothing. -/
theorem Coherent.agrees_identifier (coherent : profile.Coherent) {c : Char} {rest : List Char}
    (declines : ∀ rule ∈ Rule.identifier.earlier, rule.Declines profile (c :: rest))
    (plain : profile.Plain (c :: rest)) (starts : profile.startsIdentifier c = true)
    (noNumber : Number.length? profile.numbers (c :: rest) = none) :
    profile.Agrees (c :: rest.takeWhile profile.continuesIdentifier) := by
  have prefix_ : c :: rest.takeWhile profile.continuesIdentifier <+: c :: rest :=
    List.cons_prefix_cons.mpr ⟨rfl, List.takeWhile_prefix _⟩
  have noLiteral := (coherent.noLiteral_of_declines (declines _ (by decide))).of_identifier
  have operators := declines .operator (by decide)
  have noOperator := coherent.isOperator_eq_false operators
  have noDelimiter : profile.isDelimiter c = false :=
    isDelimiter_eq_false_of_declines (declines .delimiter (by decide)) rfl
  have identifier : profile.isIdentifier (c :: rest.takeWhile profile.continuesIdentifier) = true := by
    rw [isIdentifier, starts, List.all_takeWhile]
    rfl
  have boundary : ∀ front, front <+: c :: rest.takeWhile profile.continuesIdentifier →
      front ≠ c :: rest.takeWhile profile.continuesIdentifier → profile.isOperator front = true →
      profile.definition.operatorBoundary = true := by
    intro front inRun _ operator
    have inText := inRun.trans prefix_
    have nonempty : front ≠ [] := by
      rintro rfl
      exact coherent.wellFormed.operators (List.contains_iff_mem.mp operator)
    rw [List.prefix_iff_eq_take.mp inText] at operator
    exact (operator_of_declines operators (List.length_pos_iff.mpr nonempty) inText.length_le
      coherent.operatorLength operator).1
  have plain := plain.of_front prefix_
  have noNumber := length?_eq_none_of_front prefix_ noNumber
  refine agrees_of_eq ?_
  rw [kindFrom?_of_identifier plain noLiteral noNumber noOperator noDelimiter identifier boundary,
    judge?_of_identifier plain noLiteral noNumber noOperator (by simp [noDelimiter]) identifier]
  rfl

/-- A character that no rule claims. It may still be a reserved word by itself. -/
structure Unclaimed (profile : Profile) (c : Char) : Prop where
  plain : profile.Plain [c]
  literal : profile.NoLiteral [c]
  operator : profile.isOperator [c] = false
  delimiter : profile.isDelimiter c = false
  digit : c.isDigit = false
  start : profile.startsIdentifier c = false

namespace Unclaimed

variable {c : Char} (unclaimed : profile.Unclaimed c)
include unclaimed

theorem isIdentifier : profile.isIdentifier [c] = false := by
  rw [Profile.isIdentifier, unclaimed.start]
  rfl

/-- A character that no rule claims is a reserved word or has no shape. The first happens only where
the tables hold words that are no identifiers, or where letter case is folded. -/
theorem judge? : profile.judge? [c] = (profile.wordKind? [c]).map .valid := by
  have noNumber : Number.length? profile.numbers [c] = none := by
    rw [Number.length?, unclaimed.digit]
    split <;> rfl
  have none_before : ∀ other ∈ Shape.word.earlier, profile.judgeAs? [c] other = none := by
    intro other earlier
    cases other with
    | string | lineComment | blockComment => exact judgeAs?_of_plain unclaimed.plain (by simp)
    | literal => exact unclaimed.literal.judgeAs?
    | number => exact judgeAs?_number_eq_none noNumber
    | operator => exact judgeAs?_operator_eq_none unclaimed.operator
    | delimiter => exact judgeAs?_delimiter_eq_none (by simp [unclaimed.delimiter])
    | _ => exact absurd earlier (by decide)
  cases word : profile.wordKind? [c] with
  | some kind =>
    refine judge?_of_shape .word (by simp) none_before ?_
    rw [Profile.judgeAs?, word]
    rfl
  | none =>
    refine judge?_eq_none fun shape _ => ?_
    cases shape with
    | word => exact judgeAs?_word_eq_none word
    | layout =>
      rw [Profile.judgeAs?, List.all_cons, unclaimed.plain.blank c rfl]
      rfl
    | identifier =>
      rw [Profile.judgeAs?, unclaimed.isIdentifier]
      rfl
    | _ => exact none_before _ (by decide)

/-- The automaton rejects a character that no rule claims. -/
theorem kindFrom? : profile.kindFrom? .initial [] 0 [c] = none := by
  by_cases symbols : profile.symbolState? [c] = some .symbols ∨ profile.isLiteralLead c = true ∨
      (profile.numbers.signed && isSign c) = true
  · rw [kindFrom?_initial_symbols unclaimed.plain symbols, kindFrom?_symbols_nil, symbolsKind?,
      unclaimed.literal.literalKind?, unclaimed.operator, unclaimed.isIdentifier]
    rfl
  · rw [not_or, not_or] at symbols
    have noSymbol : profile.symbolState? [c] = none := by
      rcases @symbolState?_of_plain profile _ [c] unclaimed.plain (List.prefix_refl _) with
        state | ⟨state, _⟩
      · exact absurd state symbols.1
      · exact state
    have stops : (profile.machineIn .initial [] 0).onChar c = (.rejected, .reject) := by
      rw [onChar_initial, Machine.onInitial, unclaimed.plain.blank c rfl, unclaimed.plain.quote c rfl,
        noSymbol, if_neg Bool.false_ne_true, if_neg Bool.false_ne_true]
      dsimp only
      rw [Bool.eq_false_iff.mpr symbols.2.1, Bool.eq_false_iff.mpr symbols.2.2, unclaimed.delimiter,
        unclaimed.digit, unclaimed.start]
      rfl
    exact kindFrom?_of_stop [] (by rw [stops]; simp)

end Unclaimed

/-- What no rule claims has no shape, and the automaton rejects it. Coherence excludes reserved
words of one character that no identifier starts with. -/
theorem Coherent.agrees_fallback (coherent : profile.Coherent) {c : Char} {rest : List Char}
    (declines : ∀ rule ∈ Rule.fallback.earlier, rule.Declines profile (c :: rest))
    (plain : profile.Plain (c :: rest))
    (noNumber : Number.length? profile.numbers (c :: rest) = none) : profile.Agrees [c] := by
  have prefix_ : [c] <+: c :: rest := ⟨rest, rfl⟩
  have noStart : profile.startsIdentifier c = false :=
    startsIdentifier_eq_false_of_declines (declines .identifier (by decide)) rfl
  have noIdentifier : profile.isIdentifier [c] = false := by
    rw [isIdentifier, noStart]
    rfl
  have unclaimed : profile.Unclaimed c := by
    refine ⟨plain.of_front prefix_, ?_, ?_,
      isDelimiter_eq_false_of_declines (declines .delimiter (by decide)) rfl, ?_, noStart⟩
    · refine (coherent.noLiteral_of_declines (declines _ (by decide))).of_front prefix_ ?_
      intro form member spelling inForm same
      exact (coherent.booleans form member spelling inForm).long (by rw [same]; rfl)
    · rw [Bool.eq_false_iff]
      intro operator
      have asked := (operator_of_declines (declines .operator (by decide)) Nat.one_pos
        (Nat.succ_pos _) coherent.operatorLength operator).1
      rw [coherent.boundary asked _ (List.contains_iff_mem.mp operator)] at noIdentifier
      cases noIdentifier
    · rw [Bool.eq_false_iff]
      intro digit
      rw [Number.length?, Number.isSign_eq_false_of_isDigit digit, digit, Bool.and_false] at noNumber
      cases noNumber
  have noWord : profile.wordKind? [c] = none := by
    rw [Option.eq_none_iff_forall_ne_some]
    intro kind word
    rw [coherent.singles c kind word] at noStart
    cases noStart
  exact agrees_of_eq (by rw [unclaimed.kindFrom?, unclaimed.judge?, noWord]; rfl)

end Profile

end ProfileLexer
