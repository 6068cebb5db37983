import ProfileLexer.Proofs.Classifier.Coherent
import ProfileLexer.Proofs.Classifier.Shapes

/-!
Shapes and automaton agree on the delimited lexemes of a coherent profile: blanks, strings and
comments.
-/

namespace ProfileLexer

namespace Profile

variable {profile : Profile} {text : List Char}

theorem Coherent.stringLead?_of_blank (coherent : profile.Coherent) {c : Char}
    (blank : isLayout c = true) (text : List Char) : profile.stringLead? (c :: text) = none := by
  rw [Option.eq_none_iff_forall_ne_some]
  intro lead found
  obtain ⟨quote, rest, split, _⟩ := quote_of_stringLead? found
  obtain ⟨first, word, rfl, initial, _⟩ := coherent.leads lead (List.mem_of_find?_eq_some found)
  cases split
  rw [Machine.onInitial, if_pos blank] at initial
  cases initial

theorem length?_of_blank {c : Char} (blank : isLayout c = true) (text : List Char) :
    Number.length? profile.numbers (c :: text) = none := by
  have apart : ∀ other, isSign other = false → other.isDigit = false → (c == other) = true →
      Number.length? profile.numbers (c :: text) = none := by
    intro other noSign noDigit same
    rw [eq_of_beq same, Number.length?, noSign, noDigit, Bool.and_false]
    rfl
  simp only [isLayout, Bool.or_eq_true] at blank
  rcases blank with ((space | tab) | feed) | back
  · exact apart ' ' rfl rfl space
  · exact apart '\t' rfl rfl tab
  · exact apart '\n' rfl rfl feed
  · exact apart '\r' rfl rfl back

/-- Blanks are whitespace, line breaks among them, on both ways. -/
theorem Coherent.agrees_layout (coherent : profile.Coherent) (nonempty : text ≠ [])
    (blanks : text.all isLayout = true) : profile.Agrees text := by
  cases text with
  | nil => exact absurd rfl nonempty
  | cons c text =>
    have all := blanks
    rw [List.all_cons, Bool.and_eq_true] at all
    obtain ⟨blank, rest⟩ := all
    obtain ⟨noQuote, noDelimiter, idle⟩ := coherent.blanks c blank
    have automaton : profile.kindFrom? .initial [] 0 (c :: text) = some .whitespace := by
      have moves : (profile.machineIn .initial [] 0).onChar c = (.layout, .read) := if_pos blank
      rw [kindFrom?_of_read _ _ moves, kindFrom?_layout, if_pos rest]
    have judged : profile.judge? (c :: text) = some (.valid .whitespace) := by
      refine judge?_of_shape .layout nonempty (fun other member => ?_) ?_
      · cases other with
        | string =>
          exact judgeAs?_string_eq_none (by simp [noQuote]) (coherent.stringLead?_of_blank blank text)
        | lineComment =>
          exact judgeAs?_lineComment_eq_none fun _ marked => idle.line coherent.wellFormed marked text
        | blockComment =>
          exact judgeAs?_blockComment_eq_none fun _ marked =>
            idle.block coherent.wellFormed marked text
        | literal => exact judgeAs?_literal_eq_none (by simp [idle.literal])
        | number => exact judgeAs?_number_eq_none (length?_of_blank blank text)
        | operator => exact judgeAs?_operator_eq_none (idle.isOperator text)
        | delimiter => exact judgeAs?_delimiter_eq_none (by simp [noDelimiter])
        | word => exact judgeAs?_word_eq_none (coherent.words c text (.inl blank))
        | layout => exact absurd member (by decide)
        | identifier => exact absurd member (by decide)
      · rw [judgeAs?, kindIf, if_pos blanks]
    exact agrees_of_eq (by rw [automaton, judged]; rfl)

theorem Coherent.blank_of_quote (coherent : profile.Coherent) {quote : Char}
    (quoted : profile.isQuote quote = true) : isLayout quote = false := by
  rw [Bool.eq_false_iff]
  intro blank
  rw [(coherent.blanks quote blank).1] at quoted
  cases quoted

/-- A string behind a lead or without one is read from its quote on. It is accepted only if it is
closed by the last character of the text. -/
theorem Coherent.kindFrom?_of_string (coherent : profile.Coherent) {extent : Extent}
    (found : profile.stringExtent? text = some extent) :
    profile.kindFrom? .initial [] 0 text =
      if extent = ⟨text.length, true⟩ then some .string else none := by
  cases text with
  | nil => cases found
  | cons c text =>
    cases quoted : profile.isQuote c with
    | true =>
      rw [stringExtent?_of_quote quoted] at found
      cases found
      exact kindFrom?_quote quoted (coherent.blank_of_quote quoted) text
    | false =>
      cases lead? : profile.stringLead? (c :: text) with
      | none => simp [stringExtent?, quoted, lead?] at found
      | some lead =>
        obtain ⟨quote, rest, split, isQuote⟩ := quote_of_stringLead? lead?
        rw [stringExtent?_of_lead quoted lead? split] at found
        cases found
        have member := List.mem_of_find?_eq_some lead?
        obtain ⟨first, word, rfl, initial, goesOn⟩ := coherent.leads lead member
        rw [List.cons_append, List.cons.injEq] at split
        obtain ⟨rfl, rfl⟩ := split
        have moves : (profile.machineIn .initial [] 0).onChar c = (.word, .read) := initial
        have read : [] ++ [c] ++ word ∈ profile.stringLeads := member
        rw [kindFrom?_of_read _ _ moves, kindFrom?_word_append _ goesOn,
          kindFrom?_word_quote rest read isQuote (coherent.quotes quote isQuote),
          kindFrom?_string quote ((c :: word).length + 1)]
        simp only [List.length_cons, List.length_append]
        congr 3
        omega

/-- A string is valid when it is closed. One that is left open is a string for the direct way only,
and not valid there. -/
theorem Coherent.agrees_string (coherent : profile.Coherent) {extent : Extent}
    (found : profile.stringExtent? text = some extent) (whole : extent.length = text.length) :
    profile.Agrees text := by
  refine agrees_of_eq ?_
  rw [coherent.kindFrom?_of_string found, judge?_of_string found whole, Option.bind_some,
    Judgement.valid?_ofClosed]
  simp only [Extent.eq_closed_iff whole]

/-- A line comment is a comment, unless a string starts where its marker does. -/
theorem Coherent.agrees_lineComment (coherent : profile.Coherent) {marker body : List Char}
    (marked : profile.lineComment = some marker) (unquoted : profile.Unquoted (marker ++ body))
    (sameLine : body.any isLineBreak = false) : profile.Agrees (marker ++ body) := by
  have nonempty : marker ≠ [] := fun empty => coherent.wellFormed.lineComment (by rw [marked, empty])
  have unfinished : ∀ front, front <+: marker → front ≠ [] → front ≠ marker →
      profile.symbolState? front = some .symbols := by
    intro front prefix_ _ shorter
    refine symbolState?_of_marker ?_ ?_ prefix_ (.inl marked)
    · rw [marked]
      exact fun same => shorter (Option.some.inj same).symm
    · intro block
      obtain ⟨markers, atMarkers, rfl⟩ := Option.map_eq_some_iff.mp block
      exact coherent.lineComment marker markers marked atMarkers prefix_
  have finished : profile.symbolState? marker = some .lineComment := if_pos marked
  have automaton : profile.kindFrom? .initial [] 0 (marker ++ body) = some .comment := by
    rw [kindFrom?_marker nonempty unquoted unfinished finished, kindFrom?_lineComment, sameLine,
      if_neg Bool.false_ne_true]
  have judged := judge?_of_lineComment marked nonempty unquoted (coherent.marker marker marked) sameLine
  exact agrees_of_eq (by rw [automaton, judged]; rfl)

/-- A block comment is valid when it is closed. Its markers have to be such that shapes and
automaton see the same ones, which is part of coherence. -/
theorem Coherent.agrees_blockComment (coherent : profile.Coherent) {extent : Extent}
    (unquoted : profile.Unquoted text)
    (unmarked : ∀ marker, profile.lineComment = some marker → ¬ marker <+: text)
    (found : profile.commentExtent? text = some extent) (whole : extent.length = text.length) :
    profile.Agrees text := by
  have judged := judge?_of_blockComment unquoted unmarked found whole
  rw [commentExtent?] at found
  split at found
  · cases found
  rename_i markers marked
  split at found
  case isFalse => cases found
  rename_i opens
  obtain ⟨rest, rfl⟩ := List.isPrefixOf_iff_prefix.mp opens
  rw [List.drop_left] at found
  have block : profile.blockComment.map (·.opener) = some markers.opener := by rw [marked]; rfl
  have nonempty := coherent.wellFormed.opener markers marked
  have noLine : ∀ front, front <+: markers.opener → profile.lineComment ≠ some front :=
    fun front prefix_ line => unmarked front line (prefix_.trans (List.prefix_append _ rest))
  have unfinished : ∀ front, front <+: markers.opener → front ≠ [] → front ≠ markers.opener →
      profile.symbolState? front = some .symbols := by
    intro front prefix_ _ shorter
    refine symbolState?_of_marker (noLine front prefix_) ?_ prefix_ (.inr block)
    rw [block]
    exact fun same => shorter (Option.some.inj same).symm
  have finished : profile.symbolState? markers.opener = some (.blockComment 1) := by
    rw [symbolState?]
    dsimp only
    rw [if_neg (noLine _ (List.prefix_refl _)), if_pos block]
  have automaton : profile.kindFrom? .initial [] 0 (markers.opener ++ rest) =
      if extent = ⟨(markers.opener ++ rest).length, true⟩ then some .comment else none := by
    rw [kindFrom?_marker nonempty unquoted unfinished finished, usedBehind_blockComment _ _ (by simp),
      kindFrom?_blockComment coherent.wellFormed marked (coherent.blockComment markers marked).apart
        _ markers.opener.length, Option.some.inj found, List.length_append]
  refine agrees_of_eq ?_
  rw [automaton, judged (by simp [nonempty]), Option.bind_some, Judgement.valid?_ofClosed]
  simp only [Extent.eq_closed_iff whole]

end Profile

end ProfileLexer
