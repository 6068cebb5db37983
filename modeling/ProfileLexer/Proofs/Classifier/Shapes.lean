import ProfileLexer.Classifier
import ProfileLexer.Proofs.Automaton.Verdict
import ProfileLexer.Proofs.Scan.Front

/-!
The shapes of lexemes. A text that starts with no string and no comment has only the later shapes,
and what the automaton says of a text is compared with the valid judgements by shape.
-/

namespace ProfileLexer

namespace Judgement

/-- The kind of a judgement that finds nothing wrong. -/
def valid? (judgement : Judgement) : Option TokenKind :=
  match judgement.issue with
  | none => some judgement.kind
  | some _ => none

theorem valid?_eq_some {judgement : Judgement} {kind : TokenKind} :
    judgement.valid? = some kind ↔ judgement = .valid kind := by
  obtain ⟨own, issue⟩ := judgement
  cases issue <;> simp [valid?, valid]

@[simp] theorem valid?_valid (kind : TokenKind) : (valid kind).valid? = some kind := rfl

theorem valid?_ofClosed (kind : TokenKind) (closed : Bool) :
    (ofClosed kind closed).valid? = if closed then some kind else none := by
  cases closed <;> rfl

end Judgement

theorem Extent.eq_closed_iff {extent : Extent} {n : Nat} (length : extent.length = n) :
    extent = ⟨n, true⟩ ↔ extent.closed = true := by
  rw [← length]
  exact ⟨fun same => by rw [same], fun closed => by rw [← closed]⟩

namespace Profile

variable {profile : Profile} {text : List Char}

/-- The automaton accepts a text exactly when the text has a shape that nothing is wrong with, and
it finds the same kind. A text that has a shape and an issue has to be rejected, as has one without
a shape. -/
def Agrees (profile : Profile) (text : List Char) : Prop :=
  ∀ kind, ((Machine.ofProfile profile).classify text).1 = some kind ↔
    profile.judge? text = some (.valid kind)

theorem agrees_of_eq (same : profile.kindFrom? .initial [] 0 text =
    (profile.judge? text).bind Judgement.valid?) : profile.Agrees text := by
  intro kind
  rw [classify_ofProfile, same, Option.bind_eq_some_iff]
  simp only [Judgement.valid?_eq_some, exists_eq_right]

def Shape.earlier (shape : Shape) : List Shape :=
  all.takeWhile (· != shape)

theorem Shape.exists_split (shape : Shape) : ∃ after, all = shape.earlier ++ shape :: after := by
  cases shape <;> exact ⟨_, rfl⟩

/-- The first shape that a text has decides. The shapes behind it may fit, too. -/
theorem judge?_of_shape (shape : Shape) {judgement : Judgement} (nonempty : text ≠ [])
    (none_before : ∀ other ∈ shape.earlier, profile.judgeAs? text other = none)
    (judged : profile.judgeAs? text shape = some judgement) :
    profile.judge? text = some judgement := by
  obtain ⟨after, split⟩ := shape.exists_split
  rw [judge?, List.isEmpty_eq_false_iff.mpr nonempty, if_neg Bool.false_ne_true, split,
    List.findSome?_append, List.findSome?_eq_none_iff.mpr none_before, Option.none_or,
    List.findSome?_cons, judged]

theorem judge?_eq_none (nothing : ∀ shape ∈ Shape.all, profile.judgeAs? text shape = none) :
    profile.judge? text = none := by
  rw [judge?]
  split
  · rfl
  · exact List.findSome?_eq_none_iff.mpr nothing

theorem whole?_of_length {kind : TokenKind} {extent : Extent} (length : extent.length = text.length) :
    whole? text kind (some extent) = some (.ofClosed kind extent.closed) :=
  if_pos length

theorem judgeAs?_string_eq_none
    (unquoted : ∀ c, text.head? = some c → profile.isQuote c = false)
    (lead : profile.stringLead? text = none) : profile.judgeAs? text .string = none := by
  have nothing : profile.stringExtent? text = none := by
    cases text with
    | nil => rfl
    | cons c rest => rw [stringExtent?, unquoted c rfl, if_neg Bool.false_ne_true, lead]
  rw [judgeAs?, nothing]
  rfl

theorem judgeAs?_lineComment_eq_none
    (unmarked : ∀ marker, profile.lineComment = some marker → ¬ marker <+: text) :
    profile.judgeAs? text .lineComment = none := by
  rw [judgeAs?]
  split
  · rename_i marker marked
    rw [kindIf, if_neg]
    rw [Bool.and_eq_true, List.isPrefixOf_iff_prefix]
    exact fun both => unmarked marker marked both.1
  · rfl

theorem judgeAs?_blockComment_eq_none
    (unmarked : ∀ markers, profile.blockComment = some markers → ¬ markers.opener <+: text) :
    profile.judgeAs? text .blockComment = none := by
  have nothing : profile.commentExtent? text = none := by
    rw [commentExtent?]
    split
    · rfl
    · rename_i markers marked
      exact if_neg fun front => unmarked markers marked (List.isPrefixOf_iff_prefix.mp front)
  rw [judgeAs?, nothing]
  rfl

theorem judgeAs?_string_of_unquoted (unquoted : profile.Unquoted text) :
    profile.judgeAs? text .string = none :=
  judgeAs?_string_eq_none unquoted.quote unquoted.lead

/-- A text that starts with no string and no comment has no shape of one. What other shapes it has
is left open. -/
theorem judgeAs?_of_plain (plain : profile.Plain text) {shape : Shape}
    (member : shape ∈ [Shape.string, .lineComment, .blockComment]) :
    profile.judgeAs? text shape = none := by
  simp only [List.mem_cons, List.not_mem_nil, or_false] at member
  rcases member with rfl | rfl | rfl
  · exact judgeAs?_string_of_unquoted plain.toUnquoted
  · exact judgeAs?_lineComment_eq_none plain.line
  · exact judgeAs?_blockComment_eq_none plain.block

theorem judgeAs?_literal_eq_none
    (nothing : ∀ c, text.head? = some c → profile.isLiteralLead c = true →
      ∀ form ∈ profile.literals, profile.literalExtent? form text = none) :
    profile.judgeAs? text .literal = none := by
  rw [judgeAs?]
  cases head : text.head? with
  | none => rfl
  | some c =>
    rw [Option.map_some, Option.getD_some]
    split
    · rename_i lead
      refine List.findSome?_eq_none_iff.mpr fun form member => ?_
      rw [nothing c head lead form member]
      rfl
    · rfl

theorem judgeAs?_number_eq_none (nothing : Number.length? profile.numbers text = none) :
    profile.judgeAs? text .number = none := by
  have form : NumberForm.ofText? profile.numbers text = none := by
    rw [NumberForm.ofText?, nothing]
    exact if_neg (by simp)
  rw [judgeAs?, form]
  rfl

theorem judgeAs?_operator_eq_none (nothing : profile.isOperator text = false) :
    profile.judgeAs? text .operator = none := by
  rw [judgeAs?, nothing]
  rfl

theorem judgeAs?_delimiter_eq_none
    (nothing : ∀ c, text.head? = some c → profile.isDelimiter c = false) :
    profile.judgeAs? text .delimiter = none := by
  match text with
  | [] => rfl
  | [c] =>
    rw [judgeAs?, nothing c rfl]
    rfl
  | _ :: _ :: _ => rfl

theorem judgeAs?_word_eq_none (nothing : profile.wordKind? text = none) :
    profile.judgeAs? text .word = none := by
  rw [judgeAs?, nothing]
  rfl

/-- A string is a string, closed or not, if it is the whole text. No other shape is tried in front
of it. -/
theorem judge?_of_string {extent : Extent} (found : profile.stringExtent? text = some extent)
    (whole : extent.length = text.length) :
    profile.judge? text = some (.ofClosed .string extent.closed) := by
  have nonempty : text ≠ [] := by
    rintro rfl
    cases found
  refine judge?_of_shape .string nonempty (fun other member => absurd member ?_) ?_
  · cases other <;> decide
  · rw [judgeAs?, found, whole?_of_length whole]

/-- A line comment whose marker is on one line is a comment. With a line break in its marker it
would not be seen as one. -/
theorem judge?_of_lineComment {marker body : List Char} (marked : profile.lineComment = some marker)
    (nonempty : marker ≠ []) (unquoted : profile.Unquoted (marker ++ body))
    (unbroken : marker.any isLineBreak = false) (sameLine : body.any isLineBreak = false) :
    profile.judge? (marker ++ body) = some (.valid .comment) := by
  refine judge?_of_shape .lineComment (by simp [nonempty]) (fun other member => ?_) ?_
  · cases other with
    | string => exact judgeAs?_string_of_unquoted unquoted
    | _ => exact absurd member (by decide)
  · have front := List.isPrefixOf_iff_prefix.mpr (List.prefix_append marker body)
    rw [judgeAs?, marked]
    dsimp only
    rw [front, List.any_append, unbroken, sameLine]
    rfl

/-- A block comment is a comment, closed or not, if no line comment starts the text. -/
theorem judge?_of_blockComment {extent : Extent} (unquoted : profile.Unquoted text)
    (unmarked : ∀ marker, profile.lineComment = some marker → ¬ marker <+: text)
    (found : profile.commentExtent? text = some extent) (whole : extent.length = text.length)
    (nonempty : text ≠ []) : profile.judge? text = some (.ofClosed .comment extent.closed) := by
  refine judge?_of_shape .blockComment nonempty (fun other member => ?_) ?_
  · cases other with
    | string => exact judgeAs?_string_of_unquoted unquoted
    | lineComment => exact judgeAs?_lineComment_eq_none unmarked
    | _ => exact absurd member (by decide)
  · rw [judgeAs?, found, whole?_of_length whole]

end Profile

end ProfileLexer
