import ProfileLexer.Profile.Builtin
import ProfileLexer.Proofs.Scan.Claims
import ProfileLexer.Proofs.Token.Tiling

/-!
Lexemes by themselves. Some rules look at what is behind a lexeme before they let it go. When
nothing is behind it any more, another rule may take it, but none takes less than all of it.
-/

namespace ProfileLexer

namespace Rule

/-- A rule that claims all of a text or nothing of it. Claims of no character are nothing: a rule
that makes one has not taken the text. -/
def Spares (rule : Rule) (profile : Profile) (text : List Char) : Prop :=
  ∀ n, rule.claim? profile text = some n → n = 0 ∨ n = text.length

/-- The rules that go by the first character alone, and the characters they go for. -/
def opener? (profile : Profile) : Rule → Option (Char → Bool)
  | whitespace => some fun c => c == ' ' || c == '\t'
  | newline => some isLineBreak
  | quotedString => some profile.isQuote
  | delimiter => some profile.isDelimiter
  | identifier => some profile.startsIdentifier
  | leadString | lineComment | blockComment | literal | operator | number | fallback => none

variable {profile : Profile} {text : List Char}

theorem Declines.spares {rule : Rule} (declines : rule.Declines profile text) :
    rule.Spares profile text :=
  fun n claims => .inl (declines n claims)

theorem declines_of_claim?_eq_none {rule : Rule} (nothing : rule.claim? profile text = none) :
    rule.Declines profile text := by
  intro n claims
  rw [nothing] at claims
  cases claims

/-- A rule that goes by the first character declines when it does not go for that character. What is
behind the character never matters for this, though it decides how much is claimed. -/
theorem declines_cons_iff {rule : Rule} {opens : Char → Bool}
    (found : rule.opener? profile = some opens) {c : Char} {rest : List Char} :
    rule.Declines profile (c :: rest) ↔ opens c = false := by
  constructor
  · intro declines
    rw [Bool.eq_false_iff]
    intro opened
    cases rule with
    | whitespace =>
      cases found
      have some_ := declines ((rest.takeWhile fun c => c == ' ' || c == '\t').length + 1)
        (by simp [claim?, opened, positive?])
      omega
    | newline =>
      cases found
      have one := declines 1 (by simp [claim?, opened])
      cases one
    | quotedString =>
      cases found
      rw [Profile.isQuote_eq_false_of_declines declines rfl] at opened
      cases opened
    | delimiter =>
      cases found
      rw [Profile.isDelimiter_eq_false_of_declines declines rfl] at opened
      cases opened
    | identifier =>
      cases found
      rw [Profile.startsIdentifier_eq_false_of_declines declines rfl] at opened
      cases opened
    | leadString | lineComment | blockComment | literal | operator | number | fallback =>
      cases found
  · intro closed
    apply declines_of_claim?_eq_none
    cases rule <;> cases found <;> simp [claim?, positive?, closed]

theorem mem_earlier_trichotomy (first second : Rule) :
    first ∈ second.earlier ∨ first = second ∨ second ∈ first.earlier := by
  cases first <;> cases second <;> decide

end Rule

namespace Profile

variable {profile : Profile} {front text : List Char}

/-- No operator ends inside a text where an identifier could not go on. Whether the text as a whole
is an operator is left open. -/
def Unbroken (profile : Profile) (text : List Char) : Prop :=
  ∀ length, 0 < length → length < text.length → profile.isOperator (text.take length) = true →
    profile.atBoundary (text.drop length) = false

theorem declines_of_opener {rule : Rule} {opens : Char → Bool}
    (found : rule.opener? profile = some opens) (prefix_ : front <+: text) (nonempty : front ≠ [])
    (declines : rule.Declines profile text) : rule.Declines profile front := by
  obtain ⟨rest, rfl⟩ := prefix_
  cases front with
  | nil => exact absurd rfl nonempty
  | cons c front =>
    exact (Rule.declines_cons_iff found).mpr ((Rule.declines_cons_iff found).mp declines)

theorem declines_leadString (nothing : profile.stringLead? text = none) :
    Rule.leadString.Declines profile text := by
  apply Rule.declines_of_claim?_eq_none
  rw [Rule.claim?, nothing]
  rfl

theorem declines_lineComment
    (nowhere : ∀ marker, profile.lineComment = some marker → ¬ marker <+: text) :
    Rule.lineComment.Declines profile text := by
  apply Rule.declines_of_claim?_eq_none
  rw [Rule.claim?]
  split
  · rfl
  · rename_i marker marked
    rw [if_neg]
    exact fun starts => nowhere marker marked (List.isPrefixOf_iff_prefix.mp starts)

theorem declines_blockComment
    (nowhere : ∀ markers, profile.blockComment = some markers → ¬ markers.opener <+: text) :
    Rule.blockComment.Declines profile text := by
  apply Rule.declines_of_claim?_eq_none
  rw [Rule.claim?, Option.map_eq_none_iff, commentExtent?]
  split
  · rfl
  · rename_i markers marked
    rw [if_neg]
    exact fun starts => nowhere markers marked (List.isPrefixOf_iff_prefix.mp starts)

theorem spares_literal (wellFormed : profile.WellFormed) (prefix_ : front <+: text)
    (declines : Rule.literal.Declines profile text) : Rule.literal.Spares profile front := by
  intro n claims
  cases front with
  | nil => cases claims
  | cons c front =>
    rw [Rule.claim?, Rule.literal?] at claims
    split at claims
    · rename_i leads
      obtain ⟨extent, found, rfl⟩ := Option.map_eq_some_iff.mp claims
      obtain ⟨form, member, reaches⟩ := List.exists_of_findSome?_eq_some found
      have nothing := literalExtent?_eq_none_of_declines wellFormed declines
        (head?_of_front prefix_ rfl) leads member
      exact .inr (congrArg Extent.length (literalExtent?_of_front prefix_ nothing reaches))
    · cases claims

/-- Where the operator rule declines an operator, it is because of a boundary that is missing. A
shorter operator in front of it misses its boundary too, as long as the front is not broken by
it. -/
theorem spares_operator
    (short : ∀ operator ∈ profile.operators, operator.length ≤ profile.operatorLength)
    (prefix_ : front <+: text) (unbroken : profile.Unbroken front)
    (declines : Rule.operator.Declines profile text) : Rule.operator.Spares profile front := by
  intro n claims
  obtain ⟨operator, positive, within, ends⟩ := isOperator_of_claim claims
  rcases Nat.lt_or_eq_of_le within with inside | whole
  · have runsOn := unbroken n positive inside operator
    have inText : text.take n = front.take n := by
      obtain ⟨rest, rfl⟩ := prefix_
      exact List.take_append_of_le_length within
    have asks := (operator_of_declines declines positive (within.trans prefix_.length_le) short
      (inText ▸ operator)).1
    rw [ends asks] at runsOn
    cases runsOn
  · exact .inr whole

/-- What the rules before a rule leave of a text they leave of its front, or they take the front as
a whole. A condition is put on the front only where the operator rule has been tried. -/
theorem spares_of_front (wellFormed : profile.WellFormed)
    (short : ∀ operator ∈ profile.operators, operator.length ≤ profile.operatorLength)
    {rule : Rule} (declines : ∀ other ∈ rule.earlier, other.Declines profile text)
    (prefix_ : front <+: text) (nonempty : front ≠ [])
    (unbroken : .operator ∈ rule.earlier → profile.Unbroken front) :
    ∀ other ∈ rule.earlier, other.Spares profile front := by
  intro other earlier
  have declined := declines other earlier
  cases other with
  | whitespace | newline | quotedString | delimiter | identifier =>
    exact (declines_of_opener rfl prefix_ nonempty declined).spares
  | leadString =>
    have strings := declines .quotedString (by revert earlier; cases rule <;> decide)
    exact (declines_leadString (stringLead?_eq_none_of_front prefix_
      (stringLead?_eq_none_of_declines strings declined))).spares
  | lineComment =>
    exact (declines_lineComment fun marker marked starts =>
      lineComment_of_declines wellFormed declined marked (starts.trans prefix_)).spares
  | blockComment =>
    exact (declines_blockComment fun markers marked starts =>
      blockComment_of_declines wellFormed declined marked (starts.trans prefix_)).spares
  | literal => exact spares_literal wellFormed prefix_ declined
  | operator => exact spares_operator short prefix_ (unbroken earlier) declined
  | number =>
    have nothing : Rule.number.claim? profile front = none :=
      length?_eq_none_of_front prefix_ (length?_of_declines declined)
    exact (Rule.declines_of_claim?_eq_none nothing).spares
  | fallback => exact absurd earlier (by cases rule <;> decide)

theorem unbroken_singleton (c : Char) : profile.Unbroken [c] := by
  intro length positive inside
  rw [List.length_singleton] at inside
  omega

/-- An identifier goes on at every place inside it. -/
theorem unbroken_identifier {c : Char} {rest : List Char}
    (all : rest.all profile.continuesIdentifier = true) : profile.Unbroken (c :: rest) := by
  intro length positive inside _
  obtain ⟨passed, rfl⟩ : ∃ passed, length = passed + 1 := ⟨length - 1, by omega⟩
  rw [List.length_cons] at inside
  rw [List.drop_succ_cons, List.drop_eq_getElem_cons (by omega), atBoundary,
    List.all_eq_true.mp all _ (List.getElem_mem _)]
  rfl

/-- Without digits in it, an operator at the start of a number is its sign, and there is no boundary
behind a sign. -/
theorem unbroken_number
    (digitFree : ∀ operator ∈ profile.operators, operator.any Char.isDigit = false)
    {base : Option Radix} {sign body : List Char} (isSign : Number.Sign sign)
    (unsigned : Number.Unsigned profile.numbers base body) : profile.Unbroken (sign ++ body) := by
  obtain ⟨digit, rest, rfl, isDigit⟩ := Number.startsWithDigit_iff.mp unsigned.length.1
  intro length positive inside operator
  have none_inside := digitFree _ (List.contains_iff_mem.mp operator)
  have upToSign : length ≤ sign.length := by
    by_contra longer
    have inFront : digit ∈ (sign ++ digit :: rest).take length := by
      obtain ⟨more, rfl⟩ : ∃ more, length = sign.length + (more + 1) :=
        ⟨length - sign.length - 1, by omega⟩
      simp [List.take_length_add_append]
    rw [List.any_eq_false] at none_inside
    exact none_inside digit inFront isDigit
  have goesOn : profile.continuesIdentifier digit = true := by
    rw [continuesIdentifier, Char.isAlphanum, isDigit, Bool.or_true]
    rfl
  rcases isSign with rfl | ⟨mark, _, rfl⟩
  · rw [List.length_nil] at upToSign
    omega
  · rw [List.length_singleton] at upToSign
    obtain rfl : length = 1 := by omega
    rw [List.singleton_append, List.drop_succ_cons, List.drop_zero, atBoundary, goesOn]
    rfl

variable {n : Nat}

theorem claim?_take_quotedString (claims : Rule.quotedString.claim? profile text = some n) :
    Rule.quotedString.claim? profile (text.take n) = some (text.take n).length := by
  cases text with
  | nil => cases claims
  | cons c rest =>
    rw [Rule.claim?, List.head?_cons, Option.map_some, Option.getD_some] at claims
    split at claims
    case isFalse => cases claims
    rename_i quoted
    obtain ⟨extent, found, rfl⟩ := Option.map_eq_some_iff.mp claims
    have fits := fits_stringExtent? found
    rw [← fits.length_take]
    obtain ⟨length, width⟩ : ∃ length, extent.length = length + 1 :=
      ⟨extent.length - 1, by have := fits.pos; omega⟩
    have alone := fits.alone
    rw [width, List.take_succ_cons] at alone ⊢
    rw [Rule.claim?, List.head?_cons, Option.map_some, Option.getD_some, if_pos quoted, alone,
      Option.map_some, width]

theorem claim?_take_leadString (claims : Rule.leadString.claim? profile text = some n)
    (noQuote : ∀ c, text.head? = some c → profile.isQuote c = false) :
    Rule.leadString.claim? profile (text.take n) = some (text.take n).length := by
  rw [Rule.claim?] at claims
  split at claims
  case isFalse => cases claims
  obtain ⟨extent, found, rfl⟩ := Option.map_eq_some_iff.mp claims
  have fits := fits_stringExtent? found
  have alone := fits.alone
  have lead : (profile.stringLead? (text.take extent.length)).isSome = true := by
    have prefix_ := List.take_prefix extent.length text
    cases front : text.take extent.length with
    | nil =>
      rw [front] at alone
      cases alone
    | cons c rest =>
      rw [front] at alone prefix_
      rw [stringExtent?, noQuote c (head?_of_front prefix_ rfl), if_neg Bool.false_ne_true] at alone
      cases found : profile.stringLead? (c :: rest) with
      | none =>
        rw [found] at alone
        cases alone
      | some lead => rfl
  rw [← fits.length_take, Rule.claim?, if_pos lead, alone, Option.map_some]

theorem claim?_take_lineComment (claims : Rule.lineComment.claim? profile text = some n) :
    Rule.lineComment.claim? profile (text.take n) = some (text.take n).length := by
  rw [Rule.claim?] at claims
  split at claims
  · cases claims
  rename_i marker marked
  split at claims
  case isFalse => cases claims
  rename_i front
  obtain ⟨rest, rfl⟩ := List.isPrefixOf_iff_prefix.mp front
  rw [List.drop_left] at claims
  have width := Rule.positive?_eq_some claims
  have prefix_ : marker ++ rest.takeWhile (!isLineBreak ·) <+: marker ++ rest :=
    (List.prefix_append_right_inj marker).mpr (List.takeWhile_prefix _)
  rw [take_of_front prefix_ (by rw [List.length_append, width]), Rule.claim?, marked]
  dsimp only
  rw [if_pos (List.isPrefixOf_iff_prefix.mpr (List.prefix_append _ _)), List.drop_left,
    List.takeWhile_idem, List.length_append, width]
  rwa [width] at claims

theorem claim?_take_literal (wellFormed : profile.WellFormed)
    (claims : Rule.literal.claim? profile text = some n) :
    Rule.literal.claim? profile (text.take n) = some (text.take n).length := by
  obtain ⟨⟨c, rest, rfl, leads⟩, before, form, after, extent, split, earlier, reaches, rfl⟩ :=
    literal_of_claim claims
  have member : form ∈ profile.literals := by
    rw [split]
    simp
  have fits := fits_literalExtent? wellFormed member reaches
  have prefix_ := List.take_prefix extent.length (c :: rest)
  have whole := fits.length_take
  have alone := fits.alone
  obtain ⟨length, width⟩ : ∃ length, extent.length = length + 1 :=
    ⟨extent.length - 1, by have := fits.pos; omega⟩
  rw [width, List.take_succ_cons] at whole alone prefix_ ⊢
  rw [Rule.claim?, Rule.literal?, if_pos leads, split, List.findSome?_append]
  cases taken : before.findSome? (profile.literalExtent? · (c :: rest.take length)) with
  | none => rw [Option.none_or, List.findSome?_cons, alone, Option.map_some, width, whole]
  | some other =>
    obtain ⟨otherForm, inBefore, otherReaches⟩ := List.exists_of_findSome?_eq_some taken
    rw [Option.some_or, Option.map_some,
      literalExtent?_of_front prefix_ (earlier otherForm inBefore) otherReaches]

theorem claim?_take_operator
    (short : ∀ operator ∈ profile.operators, operator.length ≤ profile.operatorLength)
    (claims : Rule.operator.claim? profile text = some n) :
    Rule.operator.claim? profile (text.take n) = some (text.take n).length := by
  obtain ⟨operator, positive, within, _⟩ := isOperator_of_claim claims
  have width : (text.take n).length = n := by
    rw [List.length_take]
    omega
  have fits := short _ (List.contains_iff_mem.mp operator)
  obtain ⟨length, rfl⟩ : ∃ length, n = length + 1 := ⟨n - 1, by omega⟩
  have boundary : profile.atBoundary ((text.take (length + 1)).drop (length + 1)) = true := by
    rw [List.drop_of_length_le width.le]
    rfl
  rw [Rule.claim?, Rule.operator?, List.take_of_length_le fits, width, Rule.longestOperator?,
    List.take_of_length_le width.le, if_pos operator]
  dsimp only
  rw [boundary, Bool.not_true, Bool.and_false]
  rfl

theorem claim?_take_number (claims : Rule.number.claim? profile text = some n) :
    Rule.number.claim? profile (text.take n) = some (text.take n).length := by
  obtain ⟨sign, base, body, split, isSign, signed, unsigned⟩ := Number.length?_take claims
  rw [split]
  exact (Number.length?_of_unsigned isSign signed unsigned).1

/-- The rule that bounds a lexeme claims all of it when nothing is behind it. That no rule before it
does is another matter. -/
theorem Bounds.claim?_take (wellFormed : profile.WellFormed)
    (short : ∀ operator ∈ profile.operators, operator.length ≤ profile.operatorLength) {rule : Rule}
    (bounds : profile.Bounds text rule n) :
    rule.claim? profile (text.take n) = some (text.take n).length := by
  have claims := bounds.claims
  cases rule with
  | whitespace =>
    have width := Rule.positive?_eq_some claims
    rw [take_of_front (List.takeWhile_prefix _) width, Rule.claim?, List.takeWhile_idem, width]
    rwa [Rule.claim?, width] at claims
  | newline =>
    cases text with
    | nil => cases claims
    | cons c rest =>
      rw [Rule.claim?] at claims
      split at claims
      · rename_i feed
        cases claims
        exact if_pos feed
      · cases claims
  | quotedString => exact claim?_take_quotedString claims
  | leadString =>
    exact claim?_take_leadString claims fun c =>
      isQuote_eq_false_of_declines (bounds.first _ (by decide))
  | lineComment => exact claim?_take_lineComment claims
  | blockComment =>
    obtain ⟨extent, found, rfl⟩ := Option.map_eq_some_iff.mp claims
    have fits := fits_commentExtent? wellFormed found
    rw [← fits.length_take, Rule.claim?, fits.alone, Option.map_some]
  | literal => exact claim?_take_literal wellFormed claims
  | delimiter =>
    obtain ⟨c, _, _, delimits, single⟩ := delimiter_of_claim claims
    rw [single]
    exact if_pos delimits
  | operator => exact claim?_take_operator short claims
  | number => exact claim?_take_number claims
  | identifier =>
    obtain ⟨c, rest, _, starts, run⟩ := identifier_of_claim claims
    rw [run, Rule.claim?, if_pos starts, List.takeWhile_idem, List.length_cons, Nat.add_comm]
  | fallback =>
    obtain ⟨c, _, _, single⟩ := fallback_of_claim claims
    rw [single]
    rfl

/-- No operator ends inside a lexeme that has been left by the operator rule. Operators with digits
in them are the exception, as they may end inside a number. -/
theorem Bounds.unbroken
    (digitFree : ∀ operator ∈ profile.operators, operator.any Char.isDigit = false) {rule : Rule}
    (bounds : profile.Bounds text rule n) (left : .operator ∈ rule.earlier) :
    profile.Unbroken (text.take n) := by
  have claims := bounds.claims
  cases rule with
  | number =>
    obtain ⟨sign, base, body, split, isSign, _, unsigned⟩ := Number.length?_take claims
    rw [split]
    exact unbroken_number digitFree isSign unsigned
  | identifier =>
    obtain ⟨c, rest, _, _, run⟩ := identifier_of_claim claims
    rw [run]
    exact unbroken_identifier List.all_takeWhile
  | fallback =>
    obtain ⟨c, _, _, single⟩ := fallback_of_claim claims
    rw [single]
    exact unbroken_singleton c
  | _ => exact absurd left (by decide)

/-- A text that one rule claims as a whole, and that the rules before it claim as a whole or not at
all, is one lexeme. Which of them bounds it is left open. -/
theorem boundary_of_claim? {rule : Rule} (nonempty : text ≠ [])
    (claims : rule.claim? profile text = some text.length)
    (spared : ∀ other ∈ rule.earlier, other.Spares profile text) :
    (profile.boundary text).2 = text.length := by
  have bounds := profile.bounds_boundary nonempty
  have positive := bounds.pos
  have some_left := List.length_pos_iff.mpr nonempty
  rcases Rule.mem_earlier_trichotomy (profile.boundary text).1 rule with before | same | behind
  · have all_or_none := spared _ before _ bounds.claims
    omega
  · have claimed := bounds.claims
    rw [same, claims, Option.some.injEq] at claimed
    exact claimed.symm
  · have zero := bounds.first rule behind _ claims
    omega

/-- The first lexeme of a text is the only one when nothing is behind it. The rule that bounds it
then need not be the rule that has bounded it in the text. -/
theorem boundary_take (wellFormed : profile.WellFormed)
    (short : ∀ operator ∈ profile.operators, operator.length ≤ profile.operatorLength)
    (digitFree : ∀ operator ∈ profile.operators, operator.any Char.isDigit = false)
    (nonempty : text ≠ []) :
    (profile.boundary (text.take (profile.boundary text).2)).2 =
      (text.take (profile.boundary text).2).length := by
  have bounds := profile.bounds_boundary nonempty
  have some_taken : text.take (profile.boundary text).2 ≠ [] := by
    have positive := bounds.pos
    rw [Ne, List.take_eq_nil_iff, not_or]
    exact ⟨by omega, nonempty⟩
  exact boundary_of_claim? some_taken (bounds.claim?_take wellFormed short)
    (spares_of_front wellFormed short bounds.first (List.take_prefix _ _) some_taken
      (bounds.unbroken digitFree))

/-- A lexeme by itself has no lexemes but itself, wherever it starts. Only the lexeme is kept, not
the rule that has bounded it. -/
theorem pieces_of_mem_pieces (wellFormed : profile.WellFormed)
    (short : ∀ operator ∈ profile.operators, operator.length ≤ profile.operatorLength)
    (digitFree : ∀ operator ∈ profile.operators, operator.any Char.isDigit = false) {start : Nat}
    {piece : Bounded} (member : piece ∈ profile.pieces start text) (offset : Nat) :
    (profile.pieces offset piece.lexeme.text.toList).map (·.lexeme) =
      [⟨piece.lexeme.text, offset⟩] := by
  induction start, text using profile.pieces_induction with
  | nil start =>
    rw [pieces_nil] at member
    cases member
  | piece start text nonempty ih =>
    rw [profile.pieces_of_ne_nil start nonempty] at member
    rcases List.mem_cons.mp member with rfl | later
    · have whole := boundary_take wellFormed short digitFree nonempty
      have some_taken : text.take (profile.boundary text).2 ≠ [] := by
        have positive := profile.boundary_pos text
        rw [Ne, List.take_eq_nil_iff, not_or]
        exact ⟨by omega, nonempty⟩
      rw [firstPiece, String.toList_ofList, profile.pieces_of_ne_nil offset some_taken, whole,
        List.drop_length, pieces_nil, List.map_singleton, firstPiece, whole, List.take_length]
    · exact ih later

end Profile

/-- A definition whose operators have no digits in them. Markers, literals and names may have
some. -/
def Definition.DigitFree (definition : Definition) : Prop :=
  ∀ operator ∈ definition.operators, operator.toList.any Char.isDigit = false

namespace Profile

/-- Where operators have no digits in them, as in the built-in languages, a lexeme of a source is
cut again into itself when it is a source by itself. The two scans may have different preferences,
and that the second one succeeds is part of the result. -/
theorem scan_lexeme : (∀ definition ∈ Builtin.all, definition.DigitFree) ∧
    ∀ (definition : Definition) (profile : Profile), ofDefinition definition = .ok profile →
      definition.DigitFree → ∀ preferences source scan,
        (profile.scan preferences source).result = .ok scan → ∀ lexeme ∈ scan.lexemes,
          ∀ others, ∃ alone, (profile.scan others lexeme.text).result = .ok alone ∧
            alone.lexemes = [⟨lexeme.text, 0⟩] := by
  refine ⟨by unfold Definition.DigitFree; decide, ?_⟩
  intro definition profile accepted digitFree preferences source scan scanned lexeme member others
  have wellFormed := wellFormed_of_accepted accepted
  obtain ⟨_, rfl⟩ := eq_build_of_accepted accepted
  have digitFree : ∀ operator ∈ (build definition).operators, operator.any Char.isDigit = false := by
    intro operator inTable
    obtain ⟨word, inDefinition, rfl⟩ := List.mem_map.mp inTable
    exact digitFree word inDefinition
  have scannable := scannable_of_scan _ scanned
  rw [scan_of_scannable _ preferences scannable, Except.ok.injEq] at scanned
  subst scanned
  have short := (cover_scanned (build definition) preferences source).size_le member
  obtain ⟨piece, inPieces, rfl⟩ := List.mem_map.mp member
  have alone := pieces_of_mem_pieces wellFormed (fun _ => length_le_operatorLength) digitFree
    inPieces 0
  have one := congrArg List.length alone
  rw [List.length_map, List.length_singleton] at one
  have scannable : (build definition).Scannable piece.lexeme.text :=
    ⟨short.trans scannable.size, by rw [one]; decide⟩
  exact ⟨_, scan_of_scannable _ others scannable, alone⟩

/-- An operator that an identifier runs into and that is a boolean literal when nothing does. -/
theorem scan_lexeme_of_two_rules :
    let definition := { Definition.ofId "marks" with
      operators := ["#t"]
      literals := [.boolean ["#t"]] }
    ∃ profile scan alone, ofDefinition definition = .ok profile ∧ definition.DigitFree ∧
      (profile.scan default "#tx").result = .ok scan ∧ ⟨"#t", 0⟩ ∈ scan.lexemes ∧
      (profile.scan default "#t").result = .ok alone ∧ alone.lexemes = [⟨"#t", 0⟩] ∧
      scan.hits .operator = 1 ∧ alone.hits .literal = 1 := by
  intro definition
  have accepted : ofDefinition definition = .ok (build definition) := by
    have sound : definition.problem? = none := by decide
    rw [ofDefinition, sound]
  have digitFree : definition.DigitFree := by
    unfold Definition.DigitFree
    decide
  have scannable : ∀ source : String, source.utf8ByteSize ≤ Limits.maxSourceBytes →
      source.toList.length ≤ Limits.maxLexemes → (build definition).Scannable source :=
    fun source size count => ⟨size, ((build definition).length_pieces_le 0 _).trans count⟩
  have scanned := (build definition).scan_of_scannable default
    (scannable "#tx" (by decide) (by decide))
  have member : (⟨"#t", 0⟩ : Lexeme) ∈ ((build definition).scanned default "#tx").lexemes := by
    decide +kernel
  obtain ⟨alone, ran, lexemes⟩ :=
    scan_lexeme.2 definition _ accepted digitFree default "#tx" _ scanned _ member default
  refine ⟨_, _, alone, accepted, digitFree, scanned, member, ran, lexemes, by decide +kernel, ?_⟩
  rw [scan_of_scannable _ _ (scannable "#t" (by decide) (by decide)), Except.ok.injEq] at ran
  rw [← ran]
  decide +kernel

/-- With digits in operators it would not do: where `1.a` runs into an identifier a number takes its
place, and `1` takes that number apart. -/
example :
    let profile := build { Definition.ofId "digits" with
      operatorBoundary := true
      operators := ["1", "1.a"] }
    (profile.pieces 0 "1.ab".toList).map (·.lexeme.text) = ["1.", "ab"] ∧
      (profile.pieces 0 "1.".toList).map (·.lexeme.text) = ["1", "."] := by
  decide +kernel

end Profile

end ProfileLexer
