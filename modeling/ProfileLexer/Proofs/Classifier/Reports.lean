import ProfileLexer.Proofs.Classifier.Independence
import ProfileLexer.Proofs.Classifier.Marks
import ProfileLexer.Proofs.Scan.Claims

/-!
What a token says about the form that its lexeme has been bounded as. Scanner and classifier look at
delimited forms in orders of their own and come to the same ends, as long as no form is marked by
blanks.
-/

namespace ProfileLexer

namespace Definition

/-- A definition that delimits nothing by blanks. -/
def BlankFree (definition : Definition) : Prop :=
  ∀ c ∈ definition.marks, isLayout c = false

instance (definition : Definition) : Decidable definition.BlankFree :=
  List.decidableBAll _ definition.marks

end Definition

namespace Profile

/-- A profile that delimits nothing by blanks. -/
def BlankFree (profile : Profile) : Prop :=
  ∀ c, isLayout c = true → c ∉ profile.marks

theorem blankFree_of_accepted {definition : Definition} {profile : Profile}
    (accepted : ofDefinition definition = .ok profile) (blankFree : definition.BlankFree) :
    profile.BlankFree := by
  intro c blank mark
  rw [blankFree c (mem_marks_of_accepted accepted mark)] at blank
  cases blank

variable {profile : Profile} {front text : List Char} {n : Nat}

/-- A text that starts with a blank starts with no delimited form. It has the shape of whitespace or
of nothing that is delimited, whatever comes behind the blank. -/
theorem BlankFree.of_blank (blankFree : profile.BlankFree) (wellFormed : profile.WellFormed) {c : Char}
    (blank : isLayout c = true) (rest : List Char) :
    profile.judgeAs? (c :: rest) .string = none ∧ profile.judgeAs? (c :: rest) .blockComment = none ∧
      profile.NoLiteral (c :: rest) := by
  have unmarked := blankFree c blank
  refine ⟨judgeAs?_string_eq_none ?_ (stringLead?_of_unmarked unmarked rest),
    judgeAs?_blockComment_eq_none (blockComment_of_unmarked unmarked wellFormed rest),
    noLiteral_of_unmarked unmarked wellFormed rest⟩
  rintro _ ⟨⟩
  exact isQuote_of_unmarked unmarked

/-- Nothing is wrong with a text that has a shape, unless the shape is that of a form left open. A
text without a shape is left to the automaton. -/
theorem issue_of_judge? {judgement : Judgement} (judged : profile.judge? text = some judgement)
    (noString : profile.judgeAs? text .string = none)
    (noComment : profile.judgeAs? text .blockComment = none)
    (closed : ∀ form ∈ profile.literals, ∀ extent, profile.literalExtent? form text = some extent →
      extent.closed = true) : judgement.issue = none := by
  have ofKind : ∀ test kind, kindIf test kind = some judgement → judgement.issue = none := by
    intro test kind has
    rw [kindIf] at has
    split at has
    · cases has
      rfl
    · cases has
  rw [judge?] at judged
  split at judged
  · cases judged
  obtain ⟨shape, _, has⟩ := List.exists_of_findSome?_eq_some judged
  cases shape with
  | string =>
    rw [noString] at has
    cases has
  | blockComment =>
    rw [noComment] at has
    cases has
  | lineComment =>
    rw [judgeAs?] at has
    split at has
    · exact ofKind _ _ has
    · cases has
  | literal =>
    rw [judgeAs?] at has
    split at has
    case isFalse => cases has
    obtain ⟨form, member, whole⟩ := List.exists_of_findSome?_eq_some has
    cases found : profile.literalExtent? form text with
    | none =>
      rw [found] at whole
      cases whole
    | some extent =>
      rw [found, whole?] at whole
      split at whole
      · cases whole
        rw [closed form member extent found]
        rfl
      · cases whole
  | delimiter =>
    obtain _ | ⟨c, _ | ⟨second, rest⟩⟩ := text
    · cases has
    · exact ofKind _ _ has
    · cases has
  | word =>
    obtain ⟨kind, _, rfl⟩ := Option.map_eq_some_iff.mp has
    rfl
  | number | operator | layout | identifier => exact ofKind _ _ has

/-- A literal is a literal of the form that the scanner has found, or of one before it that has come
to stand alone. It is closed when that form is. Which of the two it is does not show in whether it
is closed. -/
theorem judge?_of_literal (wellFormed : profile.WellFormed) (plain : profile.Plain text) {c : Char}
    (head : text.head? = some c) (leads : profile.isLiteralLead c = true)
    {before after : List LiteralForm} {form : LiteralForm}
    (split : profile.literals = before ++ form :: after)
    (nothing : ∀ other ∈ before, profile.literalExtent? other text = none) {extent : Extent}
    (found : profile.literalExtent? form text = some extent) :
    ∃ declared ∈ profile.literals, profile.judge? (text.take extent.length) =
      some (.ofClosed declared.kind extent.closed) := by
  have member : form ∈ profile.literals := by
    rw [split]
    simp
  have fits := fits_literalExtent? wellFormed member found
  have prefix_ := List.take_prefix extent.length text
  have whole := fits.length_take
  have headFront : (text.take extent.length).head? = some c := by
    rw [List.head?_take, if_neg (by have := fits.pos; omega), head]
  -- Before the form that the scanner has found, the front may only have spellings as a whole.
  have earlier : ∃ declared ∈ profile.literals,
      (before ++ form :: after).findSome? (fun other =>
        whole? (text.take extent.length) other.kind
          (profile.literalExtent? other (text.take extent.length))) =
        some (.ofClosed declared.kind extent.closed) := by
    rw [List.findSome?_append]
    cases taken : before.findSome? (fun other => whole? (text.take extent.length) other.kind
        (profile.literalExtent? other (text.take extent.length))) with
    | none =>
      refine ⟨form, member, ?_⟩
      rw [Option.none_or, List.findSome?_cons, fits.alone, whole?_of_length whole]
    | some judgement =>
      obtain ⟨other, inBefore, judged⟩ := List.exists_of_findSome?_eq_some taken
      refine ⟨other, by rw [split]; exact List.mem_append_left _ inBefore, ?_⟩
      cases alone : profile.literalExtent? other (text.take extent.length) with
      | none =>
        rw [alone] at judged
        cases judged
      | some otherExtent =>
        have closed : extent.closed = true := by
          by_contra still_open
          have atEnd := fits.open_end (Bool.not_eq_true _ ▸ still_open)
          rw [atEnd, List.take_length, nothing other inBefore] at alone
          cases alone
        rw [alone, literalExtent?_of_front prefix_ (nothing other inBefore) alone,
          whole?_of_length rfl] at judged
        rw [closed, Option.some_or, ← judged]
  obtain ⟨declared, inLiterals, judged⟩ := earlier
  refine ⟨declared, inLiterals, judge?_of_shape .literal ?_ (fun other earlier => ?_) ?_⟩
  · intro empty
    rw [empty] at headFront
    cases headFront
  · cases other with
    | string | lineComment | blockComment =>
      exact judgeAs?_of_plain (plain.of_front prefix_) (by simp)
    | _ => exact absurd earlier (by decide)
  · rw [judgeAs?, headFront, Option.map_some, Option.getD_some, if_pos leads, split]
    exact judged

end Profile

/-- A token of a kind, valid when its form is closed. No other issue can be with it. -/
structure Token.OfForm (token : Token) (kind : TokenKind) (closed : Bool) : Prop where
  kind : token.kind = kind
  valid : token.valid = closed
  issue : token.issue = if closed then none else some .unterminatedLiteral

theorem Token.OfForm.closed_of_issue {token : Token} {kind : TokenKind} {closed : Bool}
    (ofForm : token.OfForm kind closed) (unterminated : token.issue = some .unterminatedLiteral) :
    closed = false := by
  rw [ofForm.issue] at unterminated
  cases closed with
  | true => cases unterminated
  | false => rfl

namespace Profile

variable {profile : Profile} {text : List Char} {n : Nat}

theorem token_ofForm {lexeme : Lexeme} {kind : TokenKind} {closed : Bool}
    (judged : profile.judge? lexeme.text.toList = some (.ofClosed kind closed)) :
    (profile.token lexeme).OfForm kind closed := by
  rw [token, judgement, judged]
  cases closed with
  | true => exact ⟨rfl, rfl, rfl⟩
  | false => exact ⟨rfl, rfl, rfl⟩

/-- A token is said to be left open only where its judgement by shape says so. The automaton never
says so: what it rejects has other issues. -/
theorem issue_token {lexeme : Lexeme}
    (settled : ∀ judgement, profile.judge? lexeme.text.toList = some judgement →
      judgement.issue = none) : (profile.token lexeme).issue ≠ some .unterminatedLiteral := by
  have rejected : ∀ text, profile.rejection text ≠ .unterminatedLiteral := by
    intro text
    rw [rejection.eq_def]
    split
    · split <;> decide
    · decide
  rw [token, judgement]
  cases judged : profile.judge? lexeme.text.toList with
  | some judgement =>
    rw [settled judgement judged]
    simp [Token.ofLexeme]
  | none =>
    dsimp only
    cases ((Machine.ofProfile profile).classify lexeme.text.toList).1 with
    | some kind => simp [Judgement.valid, Token.ofLexeme]
    | none => simpa [Token.invalid] using rejected _

/-- What a token says about the form that a rule has found at the start of a text. -/
def Reports (profile : Profile) (text : List Char) (token : Token) : Rule → Prop
  | .quotedString | .leadString =>
    ∃ extent, profile.stringExtent? text = some extent ∧
      token.text.toList = text.take extent.length ∧ token.OfForm .string extent.closed
  | .lineComment => token.OfForm .comment true
  | .blockComment =>
    ∃ extent, profile.commentExtent? text = some extent ∧
      token.text.toList = text.take extent.length ∧ token.OfForm .comment extent.closed
  | .literal =>
    ∃ before form after extent, profile.literals = before ++ form :: after ∧
      (∀ other ∈ before, profile.literalExtent? other text = none) ∧
      profile.literalExtent? form text = some extent ∧
      token.text.toList = text.take extent.length ∧
      ∃ declared ∈ profile.literals, token.OfForm declared.kind extent.closed
  | .whitespace | .newline | .delimiter | .operator | .number | .identifier | .fallback =>
    token.issue ≠ some .unterminatedLiteral

section

variable {lexeme : Lexeme} {rule : Rule} (own : lexeme.text.toList = text.take n)
include own

theorem issue_of_blank (wellFormed : profile.WellFormed) (blankFree : profile.BlankFree)
    (layout : rule = .whitespace ∨ rule = .newline) (claims : rule.claim? profile text = some n)
    (positive : 0 < n) : (profile.token lexeme).issue ≠ some .unterminatedLiteral := by
  obtain ⟨nonempty, blanks⟩ := blanks_of_claim layout claims positive
  refine issue_token fun judgement judged => ?_
  rw [own] at judged
  cases front : text.take n with
  | nil => exact absurd front nonempty
  | cons c rest =>
    rw [front] at judged blanks
    obtain ⟨noString, noComment, noLiteral⟩ :=
      blankFree.of_blank wellFormed (List.all_eq_true.mp blanks c List.mem_cons_self) rest
    refine issue_of_judge? judged noString noComment fun form member extent found => ?_
    rw [noLiteral form member] at found
    cases found

theorem issue_of_plain (plain : profile.Plain text) (noLiteral : profile.NoLiteral text) :
    (profile.token lexeme).issue ≠ some .unterminatedLiteral := by
  have prefix_ := List.take_prefix n text
  have plain := plain.of_front prefix_
  refine issue_token fun judgement judged => ?_
  rw [own] at judged
  refine issue_of_judge? judged (judgeAs?_of_plain plain (by simp))
    (judgeAs?_of_plain plain (by simp)) fun form member extent found => ?_
  rw [literalExtent?_of_front prefix_ (noLiteral form member) found]

theorem reports_string (string : rule = .quotedString ∨ rule = .leadString)
    (claims : rule.claim? profile text = some n) :
    ∃ extent, profile.stringExtent? text = some extent ∧
      (profile.token lexeme).text.toList = text.take extent.length ∧
      (profile.token lexeme).OfForm .string extent.closed := by
  obtain ⟨extent, found, rfl⟩ := string_of_claim string claims
  have fits := fits_stringExtent? found
  refine ⟨extent, found, by rw [token_text, own], token_ofForm ?_⟩
  rw [own]
  exact judge?_of_string fits.alone fits.length_take

theorem reports_lineComment (wellFormed : profile.WellFormed) (blankFree : profile.BlankFree)
    (claims : Rule.lineComment.claim? profile text = some n) (unquoted : profile.Unquoted text) :
    (profile.token lexeme).OfForm .comment true := by
  obtain ⟨marker, body, marked, split, sameLine⟩ := lineComment_of_claim claims
  have unquoted := unquoted.of_front (List.take_prefix n text)
  have nonempty : marker ≠ [] := fun empty => wellFormed.lineComment (by rw [marked, empty])
  have unbroken : marker.any isLineBreak = false := by
    rw [List.any_eq_false]
    intro c member feed
    refine blankFree c (isLayout_of_isLineBreak feed) ?_
    simp [marks, marked, member]
  rw [split] at unquoted own
  refine token_ofForm ?_
  rw [own]
  exact judge?_of_lineComment marked nonempty unquoted unbroken sameLine

theorem reports_blockComment (wellFormed : profile.WellFormed)
    (claims : Rule.blockComment.claim? profile text = some n) (unquoted : profile.Unquoted text)
    (unmarked : ∀ marker, profile.lineComment = some marker → ¬ marker <+: text) :
    ∃ extent, profile.commentExtent? text = some extent ∧
      (profile.token lexeme).text.toList = text.take extent.length ∧
      (profile.token lexeme).OfForm .comment extent.closed := by
  obtain ⟨extent, found, rfl⟩ := Option.map_eq_some_iff.mp claims
  have fits := fits_commentExtent? wellFormed found
  have prefix_ := List.take_prefix extent.length text
  have nonempty : text.take extent.length ≠ [] := by
    rw [← List.length_pos_iff, ← fits.length_take]
    exact fits.pos
  refine ⟨extent, found, by rw [token_text, own], token_ofForm ?_⟩
  rw [own]
  exact judge?_of_blockComment (unquoted.of_front prefix_)
    (fun marker marked starts => unmarked marker marked (starts.trans prefix_))
    fits.alone fits.length_take nonempty

theorem reports_literal (wellFormed : profile.WellFormed) (plain : profile.Plain text)
    (claims : Rule.literal.claim? profile text = some n) :
    ∃ before form after extent, profile.literals = before ++ form :: after ∧
      (∀ other ∈ before, profile.literalExtent? other text = none) ∧
      profile.literalExtent? form text = some extent ∧
      (profile.token lexeme).text.toList = text.take extent.length ∧
      ∃ declared ∈ profile.literals, (profile.token lexeme).OfForm declared.kind extent.closed := by
  obtain ⟨⟨c, rest, head, leads⟩, before, form, after, extent, split, earlier, found, rfl⟩ :=
    literal_of_claim claims
  obtain ⟨declared, member, judged⟩ := judge?_of_literal wellFormed plain
    (by rw [head]; rfl) leads split earlier found
  refine ⟨before, form, after, extent, split, earlier, found, by rw [token_text, own],
    declared, member, token_ofForm ?_⟩
  rw [own]
  exact judged

end

/-- The classifier reports what the scanner has found. It sees the lexeme alone and the scanner has
seen all that is behind it. -/
theorem reports_of_bounds {definition : Definition}
    (accepted : ofDefinition definition = .ok profile) (blankFree : definition.BlankFree)
    {rule : Rule} (bounds : profile.Bounds text rule n) {lexeme : Lexeme}
    (own : lexeme.text.toList = text.take n) :
    profile.Reports text (profile.token lexeme) rule := by
  have wellFormed := wellFormed_of_accepted accepted
  have blankFree := blankFree_of_accepted accepted blankFree
  have declines := bounds.first
  have claims := bounds.claims
  have plain : (∀ other ∈ Rule.literal.earlier, other ∈ rule.earlier) → profile.Plain text :=
    fun later => .of_declines wellFormed fun other earlier => declines other (later other earlier)
  have noLiteral : Rule.literal ∈ rule.earlier → profile.NoLiteral text := fun later =>
    .of_declines wellFormed (fun _ member _ => literalLeads_of_accepted accepted member)
      (declines _ later)
  cases rule with
  | whitespace => exact issue_of_blank own wellFormed blankFree (.inl rfl) claims bounds.pos
  | newline => exact issue_of_blank own wellFormed blankFree (.inr rfl) claims bounds.pos
  | quotedString => exact reports_string own (.inl rfl) claims
  | leadString => exact reports_string own (.inr rfl) claims
  | lineComment => exact reports_lineComment own wellFormed blankFree claims (.of_declines declines)
  | blockComment =>
    have unquoted : profile.Unquoted text := by
      refine .of_declines fun other earlier => declines other ?_
      revert earlier
      cases other <;> decide
    exact reports_blockComment own wellFormed claims unquoted fun _ =>
      lineComment_of_declines wellFormed (declines _ (by decide))
  | literal => exact reports_literal own wellFormed (.of_declines wellFormed declines) claims
  | delimiter | operator | number | identifier | fallback =>
    exact issue_of_plain own (plain (by decide)) (noLiteral (by decide))

/-- A token that is left open is the rest of the text, since only the end of a text leaves a form
open. -/
theorem Reports.text_eq (wellFormed : profile.WellFormed) {token : Token} {rule : Rule}
    (reports : profile.Reports text token rule)
    (unterminated : token.issue = some .unterminatedLiteral) : token.text.toList = text := by
  have atEnd : ∀ {find? : List Char → Option Extent} {extent : Extent} {kind : TokenKind},
      Extent.Fits find? text extent → token.text.toList = text.take extent.length →
      token.OfForm kind extent.closed → token.text.toList = text := by
    intro find? extent kind fits own ofForm
    rw [own, fits.open_end (ofForm.closed_of_issue unterminated), List.take_length]
  cases rule with
  | quotedString | leadString =>
    obtain ⟨extent, found, own, ofForm⟩ := reports
    exact atEnd (fits_stringExtent? found) own ofForm
  | lineComment => cases reports.closed_of_issue unterminated
  | blockComment =>
    obtain ⟨extent, found, own, ofForm⟩ := reports
    exact atEnd (fits_commentExtent? wellFormed found) own ofForm
  | literal =>
    obtain ⟨before, form, after, extent, split, _, found, own, declared, _, ofForm⟩ := reports
    have member : form ∈ profile.literals := by
      rw [split]
      simp
    exact atEnd (fits_literalExtent? wellFormed member found) own ofForm
  | whitespace | newline | delimiter | operator | number | identifier | fallback =>
    exact absurd unterminated reports

end Profile

end ProfileLexer
