import ProfileLexer.Proofs.Scan.Cut
import ProfileLexer.Proofs.Scan.Front

/-!
What a text starts with when a rule claims some of it, rule by rule.
-/

namespace ProfileLexer

namespace Profile

variable {profile : Profile} {text : List Char} {n : Nat}

theorem isLayout_of_isLineBreak {c : Char} (feed : isLineBreak c = true) : isLayout c = true := by
  rw [isLineBreak] at feed
  rw [isLayout, Bool.or_assoc, feed, Bool.or_true]

/-- The rules for blanks claim blanks. Line breaks and other blanks are not told apart here. -/
theorem blanks_of_claim {rule : Rule} (layout : rule = .whitespace ∨ rule = .newline)
    (claims : rule.claim? profile text = some n) (positive : 0 < n) :
    text.take n ≠ [] ∧ (text.take n).all isLayout = true := by
  rcases layout with rfl | rfl
  · have run := Rule.positive?_eq_some claims
    rw [take_of_front (List.takeWhile_prefix _) run]
    refine ⟨List.ne_nil_of_length_pos (by rwa [run]), List.all_eq_true.mpr fun c member => ?_⟩
    have blank := List.mem_takeWhile_imp member
    rw [isLayout, blank]
    rfl
  · cases text with
    | nil => cases claims
    | cons c rest =>
      rw [Rule.claim?, List.head?_cons, Option.map_some, Option.getD_some] at claims
      split at claims
      · rename_i feed
        cases claims
        refine ⟨by simp, ?_⟩
        rw [List.take_succ_cons, List.take_zero, List.all_cons, isLayout_of_isLineBreak feed]
        rfl
      · cases claims

/-- The rules for strings claim what a string covers, whether or not it is closed. -/
theorem string_of_claim {rule : Rule} (string : rule = .quotedString ∨ rule = .leadString)
    (claims : rule.claim? profile text = some n) :
    ∃ extent, profile.stringExtent? text = some extent ∧ extent.length = n := by
  have covers : (profile.stringExtent? text).map (·.length) = some n := by
    rcases string with rfl | rfl
    · rw [Rule.claim?] at claims
      split at claims
      · exact claims
      · cases claims
    · rw [Rule.claim?] at claims
      split at claims
      · exact claims
      · cases claims
  exact Option.map_eq_some_iff.mp covers

/-- The line comment rule claims its marker and the rest of the line, without the line break. -/
theorem lineComment_of_claim (claims : Rule.lineComment.claim? profile text = some n) :
    ∃ marker body, profile.lineComment = some marker ∧ text.take n = marker ++ body ∧
      body.any isLineBreak = false := by
  rw [Rule.claim?] at claims
  split at claims
  · cases claims
  rename_i marker marked
  split at claims
  case isFalse => cases claims
  rename_i front
  obtain ⟨rest, rfl⟩ := List.isPrefixOf_iff_prefix.mp front
  rw [List.drop_left] at claims
  have prefix_ : marker ++ rest.takeWhile (!isLineBreak ·) <+: marker ++ rest :=
    (List.prefix_append_right_inj marker).mpr (List.takeWhile_prefix _)
  refine ⟨marker, rest.takeWhile (!isLineBreak ·), marked, take_of_front prefix_ ?_, ?_⟩
  · rw [List.length_append]
    exact Rule.positive?_eq_some claims
  · rw [List.any_eq_false]
    intro c member
    simpa using List.mem_takeWhile_imp member

/-- The literal rule claims what the first form covers that starts a text. The order of the forms
counts, not how much they cover, and the first character has to be one that some form starts
with. -/
theorem literal_of_claim (claims : Rule.literal.claim? profile text = some n) :
    (∃ c rest, text = c :: rest ∧ profile.isLiteralLead c = true) ∧
    ∃ before form after extent, profile.literals = before ++ form :: after ∧
      (∀ other ∈ before, profile.literalExtent? other text = none) ∧
      profile.literalExtent? form text = some extent ∧ extent.length = n := by
  cases text with
  | nil => cases claims
  | cons c rest =>
    rw [Rule.claim?, Rule.literal?] at claims
    split at claims
    case isFalse => cases claims
    rename_i leads
    obtain ⟨extent, found, length⟩ := Option.map_eq_some_iff.mp claims
    obtain ⟨before, form, after, split, reaches, earlier⟩ := List.findSome?_eq_some_iff.mp found
    exact ⟨⟨c, rest, rfl, leads⟩, before, form, after, extent, split, earlier, reaches, length⟩

theorem delimiter_of_claim (claims : Rule.delimiter.claim? profile text = some n) :
    ∃ c rest, text = c :: rest ∧ profile.isDelimiter c = true ∧ text.take n = [c] := by
  cases text with
  | nil => cases claims
  | cons c rest =>
    rw [Rule.claim?, List.head?_cons, Option.map_some, Option.getD_some] at claims
    split at claims
    · rename_i delimits
      cases claims
      exact ⟨c, rest, rfl, delimits, rfl⟩
    · cases claims

/-- The operator rule claims an operator, and where the definition asks for a boundary there is one
behind it. That it is the longest is not told. -/
theorem isOperator_of_claim {n : Nat} (claims : Rule.operator.claim? profile text = some n) :
    profile.isOperator (text.take n) = true ∧ 0 < n ∧ n ≤ text.length ∧
      (profile.definition.operatorBoundary = true → profile.atBoundary (text.drop n) = true) := by
  rw [Rule.claim?, Rule.operator?] at claims
  split at claims
  · cases claims
  rename_i length found
  split at claims
  · cases claims
  rename_i ends
  cases claims
  obtain ⟨operator, positive, within, _⟩ := longestOperator?_eq_some found
  rw [List.length_take] at within
  refine ⟨operator, positive, by omega, fun asks => ?_⟩
  rw [asks, Bool.true_and, Bool.not_eq_true', Bool.not_eq_false] at ends
  exact ends

/-- The identifier rule claims an identifier, as far as it goes. -/
theorem identifier_of_claim (claims : Rule.identifier.claim? profile text = some n) :
    ∃ c rest, text = c :: rest ∧ profile.startsIdentifier c = true ∧
      text.take n = c :: rest.takeWhile profile.continuesIdentifier := by
  cases text with
  | nil => cases claims
  | cons c rest =>
    rw [Rule.claim?] at claims
    split at claims
    · rename_i starts
      cases claims
      refine ⟨c, rest, rfl, starts, ?_⟩
      rw [Nat.add_comm, List.take_succ_cons, take_of_front (List.takeWhile_prefix _) rfl]
    · cases claims

/-- What nothing else claims is taken character by character. -/
theorem fallback_of_claim (claims : Rule.fallback.claim? profile text = some n) :
    ∃ c rest, text = c :: rest ∧ text.take n = [c] := by
  cases text with
  | nil => cases claims
  | cons c rest =>
    cases claims
    exact ⟨c, rest, rfl, rfl⟩

/-- Every lexeme of a text is what its rule claims where it starts, with all that follows still in
sight. Rules therefore speak of the rest of the source, not of the lexeme. -/
theorem exists_bounds_of_mem_pieces {offset : Nat} {piece : Bounded}
    (member : piece ∈ profile.pieces offset text) :
    ∃ passed rest n, text = passed ++ rest ∧ rest ≠ [] ∧
      piece.lexeme.offset = offset + Text.byteLength passed ∧
      piece.lexeme.text.toList = rest.take n ∧ profile.Bounds rest piece.rule n := by
  induction offset, text using profile.pieces_induction with
  | nil offset =>
    rw [pieces_nil] at member
    cases member
  | piece offset text nonempty ih =>
    rw [profile.pieces_of_ne_nil offset nonempty] at member
    rcases List.mem_cons.mp member with rfl | later
    · exact ⟨[], text, _, rfl, nonempty, rfl, String.toList_ofList, profile.bounds_boundary nonempty⟩
    · obtain ⟨passed, rest, n, split, some_left, place, own, bounds⟩ := ih later
      refine ⟨text.take (profile.boundary text).2 ++ passed, rest, n, ?_, some_left, ?_, own, bounds⟩
      · rw [List.append_assoc, ← split, List.take_append_drop]
      · rw [place, Lexeme.stop, firstPiece, Text.byteLength_ofList, Text.byteLength_append,
          Nat.add_assoc]

end Profile

end ProfileLexer
