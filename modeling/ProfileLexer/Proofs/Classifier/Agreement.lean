import ProfileLexer.Proofs.Classifier.DelimitedShapes
import ProfileLexer.Proofs.Classifier.Independence
import ProfileLexer.Proofs.Classifier.OpenShapes
import ProfileLexer.Proofs.Scan.Claims

/-!
Shapes and automaton agree on every lexeme of a coherent profile, whatever rule has bounded it. A
classifier that checks itself finds nothing to report.
-/

namespace ProfileLexer

namespace Profile

variable {profile : Profile} {text : List Char} {n : Nat}

namespace Coherent

variable (coherent : profile.Coherent)
include coherent

theorem agrees_of_layout_claim {rule : Rule} (layout : rule = .whitespace ∨ rule = .newline)
    (claims : rule.claim? profile text = some n) (positive : 0 < n) :
    profile.Agrees (text.take n) := by
  obtain ⟨nonempty, blanks⟩ := blanks_of_claim layout claims positive
  exact coherent.agrees_layout nonempty blanks

theorem agrees_of_string_claim {rule : Rule} (string : rule = .quotedString ∨ rule = .leadString)
    (claims : rule.claim? profile text = some n) : profile.Agrees (text.take n) := by
  obtain ⟨extent, found, rfl⟩ := string_of_claim string claims
  have fits := fits_stringExtent? found
  exact coherent.agrees_string fits.alone fits.length_take

theorem agrees_of_lineComment_claim (claims : Rule.lineComment.claim? profile text = some n)
    (unquoted : profile.Unquoted text) : profile.Agrees (text.take n) := by
  obtain ⟨marker, body, marked, split, sameLine⟩ := lineComment_of_claim claims
  have prefix_ := List.take_prefix n text
  rw [split] at prefix_ ⊢
  exact coherent.agrees_lineComment marked (unquoted.of_front prefix_) sameLine

theorem agrees_of_blockComment_claim (claims : Rule.blockComment.claim? profile text = some n)
    (unquoted : profile.Unquoted text) (declines : Rule.lineComment.Declines profile text) :
    profile.Agrees (text.take n) := by
  obtain ⟨extent, found, rfl⟩ := Option.map_eq_some_iff.mp claims
  have fits := fits_commentExtent? coherent.wellFormed found
  have prefix_ := List.take_prefix extent.length text
  refine coherent.agrees_blockComment (unquoted.of_front prefix_) (fun marker marked starts => ?_)
    fits.alone fits.length_take
  exact lineComment_of_declines coherent.wellFormed declines marked (starts.trans prefix_)

theorem agrees_of_literal_claim (claims : Rule.literal.claim? profile text = some n)
    (plain : profile.Plain text) : profile.Agrees (text.take n) := by
  obtain ⟨⟨c, rest, rfl, leads⟩, before, form, after, extent, split, earlier, reaches, rfl⟩ :=
    literal_of_claim claims
  have member : form ∈ profile.literals := by
    rw [split]
    simp
  have fits := fits_literalExtent? coherent.wellFormed member reaches
  have prefix_ := List.take_prefix extent.length (c :: rest)
  have whole := fits.length_take
  obtain ⟨length, width⟩ : ∃ length, extent.length = length + 1 :=
    ⟨extent.length - 1, by have := fits.pos; omega⟩
  have alone := fits.alone
  rw [width, List.take_succ_cons] at whole alone prefix_ ⊢
  refine coherent.agrees_literal (plain.of_front prefix_) leads split (fun other inBefore => ?_)
    alone (by rw [width, whole])
  have otherIn : other ∈ profile.literals := by
    rw [split]
    exact List.mem_append_left _ inBefore
  have nothing := earlier other inBefore
  refine coherent.literalExtent?_eq_none prefix_ member otherIn alone ?_ nothing
  rintro rfl
  rw [nothing] at reaches
  cases reaches

theorem agrees_of_delimiter_claim (claims : Rule.delimiter.claim? profile text = some n)
    (plain : profile.Plain text) : profile.Agrees (text.take n) := by
  obtain ⟨c, rest, rfl, delimits, single⟩ := delimiter_of_claim claims
  rw [single]
  exact coherent.agrees_delimiter (plain.of_front ⟨rest, rfl⟩) delimits

theorem agrees_of_operator_claim (claims : Rule.operator.claim? profile text = some n)
    (plain : profile.Plain text) (literals : Rule.literal.Declines profile text) :
    profile.Agrees (text.take n) := by
  obtain ⟨operator, positive, within, _⟩ := isOperator_of_claim claims
  have prefix_ := List.take_prefix n text
  have some_read : text.take n ≠ [] := by
    rw [← List.length_pos_iff, List.length_take]
    omega
  refine coherent.agrees_operator (plain.of_front prefix_) some_read ?_ operator
  refine (coherent.noLiteral_of_declines literals).of_front prefix_ ?_
  intro form member spelling inForm same
  have distinct := (coherent.booleans form member spelling inForm).operator
  rw [same, operator] at distinct
  cases distinct

theorem agrees_of_number_claim (claims : Rule.number.claim? profile text = some n)
    (plain : profile.Plain text) (delimiters : Rule.delimiter.Declines profile text) :
    profile.Agrees (text.take n) := by
  obtain ⟨sign, base, body, split, isSign, signed, unsigned⟩ := Number.length?_take claims
  have prefix_ := List.take_prefix n text
  rw [split] at prefix_ ⊢
  refine coherent.agrees_number isSign signed unsigned (plain.of_front prefix_) fun c head => ?_
  exact isDelimiter_eq_false_of_declines delimiters (head?_of_front prefix_ head)

/-- Shapes and automaton agree on what a rule claims when no rule before it claims anything. What a
rule would claim behind others need not have one kind. -/
theorem agrees_of_bounds {rule : Rule} (bounds : profile.Bounds text rule n) :
    profile.Agrees (text.take n) := by
  have declines := bounds.first
  have claims := bounds.claims
  have wellFormed := coherent.wellFormed
  have plain : (∀ other ∈ Rule.literal.earlier, other ∈ rule.earlier) → profile.Plain text :=
    fun later => .of_declines wellFormed fun other earlier => declines other (later other earlier)
  cases rule with
  | whitespace => exact coherent.agrees_of_layout_claim (.inl rfl) claims bounds.pos
  | newline => exact coherent.agrees_of_layout_claim (.inr rfl) claims bounds.pos
  | quotedString => exact coherent.agrees_of_string_claim (.inl rfl) claims
  | leadString => exact coherent.agrees_of_string_claim (.inr rfl) claims
  | lineComment => exact coherent.agrees_of_lineComment_claim claims (.of_declines declines)
  | blockComment =>
    have unquoted : profile.Unquoted text := by
      refine .of_declines fun other earlier => declines other ?_
      revert earlier
      cases other <;> decide
    exact coherent.agrees_of_blockComment_claim claims unquoted (declines _ (by decide))
  | literal => exact coherent.agrees_of_literal_claim claims (.of_declines wellFormed declines)
  | delimiter => exact coherent.agrees_of_delimiter_claim claims (plain (by decide))
  | operator => exact coherent.agrees_of_operator_claim claims (plain (by decide)) (declines _ (by decide))
  | number =>
    exact coherent.agrees_of_number_claim claims (plain (by decide)) (declines _ (by decide))
  | identifier =>
    obtain ⟨c, rest, rfl, starts, run⟩ := identifier_of_claim claims
    rw [run]
    exact coherent.agrees_identifier declines (plain (by decide)) starts
      (length?_of_declines (declines _ (by decide)))
  | fallback =>
    obtain ⟨c, rest, rfl, single⟩ := fallback_of_claim claims
    rw [single]
    exact coherent.agrees_fallback declines (plain (by decide))
      (length?_of_declines (declines _ (by decide)))

end Coherent

/-- Shapes and automaton agree on every lexeme of a text, however long the text is. -/
theorem Coherent.agrees_of_mem_pieces (coherent : profile.Coherent) {offset : Nat} {piece : Bounded}
    (member : piece ∈ profile.pieces offset text) : profile.Agrees piece.lexeme.text.toList := by
  obtain ⟨_, rest, n, _, _, _, own, bounds⟩ := exists_bounds_of_mem_pieces member
  rw [own]
  exact coherent.agrees_of_bounds bounds

end Profile

end ProfileLexer
