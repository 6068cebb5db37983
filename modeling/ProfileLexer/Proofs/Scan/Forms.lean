import ProfileLexer.Proofs.Profile.Accepted
import ProfileLexer.Proofs.Scan.Extents

/-!
The delimited forms of a profile: strings, block comments and literals. What such a form covers at
the start of a text it covers also when nothing is behind it.
-/

namespace ProfileLexer

/-- A form at the start of a text that covers something, and the same without the rest of the text.
Only the end of the text leaves it open. That no other form starts the text is not part of it. -/
structure Extent.Fits (find? : List Char → Option Extent) (text : List Char) (extent : Extent) :
    Prop where
  pos : 0 < extent.length
  le : extent.length ≤ text.length
  alone : find? (text.take extent.length) = some extent
  open_end : extent.closed = false → extent.length = text.length

theorem Extent.Fits.length_take {find? : List Char → Option Extent} {text : List Char}
    {extent : Extent} (fits : Fits find? text extent) :
    extent.length = (text.take extent.length).length := by
  rw [List.length_take, Nat.min_eq_left fits.le]

/-- A form whose extent behind some characters is known fits. The characters in front are its lead
or its marker. -/
theorem Extent.Covers.fits {find? : List Char → Option Extent} {reach : List Char → Extent}
    (front : List Char) {body rest : List Char} (covers : Covers reach front.length body rest)
    (nonempty : front ≠ []) (found : find? (front ++ body) = some (reach body)) :
    Fits find? (front ++ (body ++ rest)) (reach (body ++ rest)) := by
  have long := List.length_pos_iff.mpr nonempty
  have length := covers.length
  refine ⟨by omega, by simp; omega, ?_, ?_⟩
  · have cut : (front ++ (body ++ rest)).take (front.length + body.length) = front ++ body := by
      rw [← List.append_assoc, ← List.length_append, List.take_left]
    rw [length, cut, found, covers.alone]
  · intro still_open
    rw [length, covers.open_end still_open]
    simp

namespace Profile

variable {profile : Profile}

theorem quote_of_stringLead? {text lead : List Char}
    (found : profile.stringLead? text = some lead) :
    ∃ quote rest, text = lead ++ quote :: rest ∧ profile.isQuote quote = true := by
  have fits := List.find?_some found
  rw [Bool.and_eq_true, List.isPrefixOf_iff_prefix] at fits
  obtain ⟨⟨rest, rfl⟩, quoted⟩ := fits
  rw [List.drop_left] at quoted
  cases rest with
  | nil => cases quoted
  | cons quote rest => exact ⟨quote, rest, rfl, quoted⟩

/-- A lead found in a text is found also when the text ends behind the quote. Of several leads the
same one is found. -/
theorem stringLead?_of_append {body rest lead : List Char}
    (found : profile.stringLead? (body ++ rest) = some lead) (long : lead.length < body.length) :
    profile.stringLead? body = some lead := by
  have same : ∀ other : List Char, ((body.drop other.length).head?.map profile.isQuote).getD false =
      true → (((body ++ rest).drop other.length).head?.map profile.isQuote).getD false = true := by
    intro other quoted
    cases left : body.drop other.length with
    | nil => simp [left] at quoted
    | cons c left' =>
      have inside : other.length ≤ body.length := by
        have short := congrArg List.length left
        rw [List.length_drop, List.length_cons] at short
        omega
      rw [List.drop_append_of_le_length inside, left]
      rw [left] at quoted
      exact quoted
  obtain ⟨passes, before, after, split, earlier⟩ := List.find?_eq_some_iff_append.mp found
  refine List.find?_eq_some_iff_append.mpr ⟨?_, before, after, split, ?_⟩
  · rw [Bool.and_eq_true] at passes ⊢
    refine ⟨Extent.isPrefixOf_of_length_le passes.1 (by omega), ?_⟩
    have quoted := passes.2
    rw [List.drop_append_of_le_length (by omega)] at quoted
    cases left : body.drop lead.length with
    | nil =>
      have short := congrArg List.length left
      rw [List.length_drop, List.length_nil] at short
      omega
    | cons c left' => simpa [left] using quoted
  · intro other member
    have fails := earlier other member
    rw [Bool.not_eq_true', Bool.and_eq_false_iff] at fails ⊢
    rcases fails with noPrefix | noQuote
    · exact .inl (Bool.eq_false_iff.mpr fun front =>
        Bool.eq_false_iff.mp noPrefix (Extent.isPrefixOf_of_append body rest front))
    · exact .inr (Bool.eq_false_iff.mpr fun quoted =>
        Bool.eq_false_iff.mp noQuote (same other quoted))

theorem stringExtent?_of_quote {quote : Char} (quoted : profile.isQuote quote = true)
    (rest : List Char) :
    profile.stringExtent? (quote :: rest) = some (.ofString quote 1 rest) := by
  rw [stringExtent?, if_pos quoted]

theorem stringExtent?_of_lead {c : Char} {text lead rest : List Char} {quote : Char}
    (plain : profile.isQuote c = false) (found : profile.stringLead? (c :: text) = some lead)
    (split : c :: text = lead ++ quote :: rest) :
    profile.stringExtent? (c :: text) = some (.ofString quote (lead.length + 1) rest) := by
  rw [stringExtent?, plain, if_neg Bool.false_ne_true]
  simp only [found]
  rw [split, List.drop_left]

theorem fits_stringExtent? {text : List Char} {extent : Extent}
    (found : profile.stringExtent? text = some extent) :
    Extent.Fits profile.stringExtent? text extent := by
  cases text with
  | nil => cases found
  | cons c text =>
    cases quoted : profile.isQuote c with
    | true =>
      rw [stringExtent?_of_quote quoted] at found
      cases found
      obtain ⟨body, rest, rfl, covers⟩ := Extent.exists_covers_ofString c 1 text
      exact Extent.Covers.fits [c] covers (by simp) (stringExtent?_of_quote quoted body)
    | false =>
      cases lead? : profile.stringLead? (c :: text) with
      | none => simp [stringExtent?, quoted, lead?] at found
      | some lead =>
        obtain ⟨quote, left, split, isQuote⟩ := quote_of_stringLead? lead?
        rw [stringExtent?_of_lead quoted lead? split] at found
        cases found
        obtain ⟨body, rest, rfl, covers⟩ :=
          Extent.exists_covers_ofString quote (lead.length + 1) left
        have whole : c :: text = (lead ++ [quote]) ++ (body ++ rest) := by
          rw [split, List.append_assoc, List.singleton_append]
        obtain ⟨lead', rfl⟩ : ∃ lead', lead = c :: lead' := by
          cases lead with
          | nil =>
            cases split
            rw [quoted] at isQuote
            cases isQuote
          | cons first lead' =>
            cases split
            exact ⟨lead', rfl⟩
        rw [whole]
        refine Extent.Covers.fits _ (by simpa using covers) (by simp) ?_
        have found : profile.stringLead? ((c :: lead') ++ [quote] ++ body) = some (c :: lead') := by
          rw [whole, ← List.append_assoc] at lead?
          exact stringLead?_of_append lead? (by simp)
        rw [List.append_assoc] at found ⊢
        have extent := stringExtent?_of_lead quoted found rfl
        simpa using extent

theorem fits_commentExtent? (wellFormed : profile.WellFormed) {text : List Char} {extent : Extent}
    (found : profile.commentExtent? text = some extent) :
    Extent.Fits profile.commentExtent? text extent := by
  cases markers? : profile.blockComment with
  | none => simp [commentExtent?, markers?] at found
  | some markers =>
    by_cases opens : markers.opener.isPrefixOf text = true
    · obtain ⟨rest, rfl⟩ := List.isPrefixOf_iff_prefix.mp opens
      have extentOf : ∀ rest, profile.commentExtent? (markers.opener ++ rest) =
          some (.ofComment markers 1 0 markers.opener.length rest) := by
        intro rest
        have front := List.isPrefixOf_iff_prefix.mpr (List.prefix_append markers.opener rest)
        simp only [commentExtent?, markers?, front, if_true, List.drop_left]
      rw [extentOf] at found
      cases found
      obtain ⟨body, left, rfl, _, covers⟩ := Extent.exists_covers_ofComment
        (wellFormed.closer markers markers?) 1 0 markers.opener.length rest
      exact covers.fits _ (wellFormed.opener markers markers?) (extentOf body)
    · simp [commentExtent?, markers?, opens] at found

/-- A word at the start of a text that ends at a boundary: what follows it does not go on with an
identifier. -/
def StartsWith (profile : Profile) (word text : List Char) : Prop :=
  word <+: text ∧ profile.atBoundary (text.drop word.length) = true

/-- The sizes of the words that start a text and end at a boundary. -/
theorem mem_wordSizes (size : List Char → Nat) {words : List String} {text : List Char} {n : Nat} :
    (n ∈ words.filterMap fun word =>
      if word.toList.isPrefixOf text && profile.atBoundary (text.drop word.toList.length) then
        some (size word.toList)
      else none) ↔
      ∃ word ∈ words, profile.StartsWith word.toList text ∧ size word.toList = n := by
  rw [List.mem_filterMap]
  refine exists_congr fun word => and_congr_right fun _ => ?_
  rw [StartsWith, ← List.isPrefixOf_iff_prefix, ← Bool.and_eq_true]
  split
  · simp [*]
  · simp [*]

theorem mem_wordLengths {words : List String} {text : List Char} {length : Nat} :
    (length ∈ words.filterMap fun word =>
      let chars := word.toList
      if chars.isPrefixOf text && profile.atBoundary (text.drop chars.length) then
        some chars.length
      else none) ↔
      ∃ word ∈ words, profile.StartsWith word.toList text ∧ word.toList.length = length :=
  mem_wordSizes List.length

/-- The longest word at the start of a text is one of the words, and none of the others there is
longer. Only words that end at a boundary count. -/
theorem longestWord?_eq_some {words : List String} {text : List Char} {length : Nat} :
    profile.longestWord? words text = some length ↔
      (∃ word ∈ words, profile.StartsWith word.toList text ∧ word.toList.length = length) ∧
      ∀ word ∈ words, profile.StartsWith word.toList text → word.toList.length ≤ length := by
  rw [longestWord?, List.max?_eq_some_iff, mem_wordLengths]
  refine and_congr_right fun _ => ⟨?_, ?_⟩
  · intro atMost word member starts
    exact atMost _ (mem_wordLengths.mpr ⟨word, member, starts, rfl⟩)
  · intro atMost other member
    obtain ⟨word, inWords, starts, rfl⟩ := mem_wordLengths.mp member
    exact atMost word inWords starts

theorem longestWord?_eq_none {words : List String} {text : List Char} :
    profile.longestWord? words text = none ↔
      ∀ word ∈ words, ¬ profile.StartsWith word.toList text := by
  rw [longestWord?, List.max?_eq_none_iff, List.eq_nil_iff_forall_not_mem]
  constructor
  · intro nothing word member starts
    exact nothing _ (mem_wordLengths.mpr ⟨word, member, starts, rfl⟩)
  · intro nothing length member
    obtain ⟨word, inWords, starts, _⟩ := mem_wordLengths.mp member
    exact nothing word inWords starts

theorem StartsWith.length_le {word text : List Char} (starts : profile.StartsWith word text) :
    word.length ≤ text.length :=
  starts.1.length_le

/-- A word that starts a text is the longest one when the text ends with it. Longer words have lost
their end then. -/
theorem longestWord?_take {words : List String} {text : List Char} {length : Nat}
    (found : profile.longestWord? words text = some length) :
    profile.longestWord? words (text.take length) = some length := by
  obtain ⟨⟨word, member, starts, rfl⟩, _⟩ := longestWord?_eq_some.mp found
  have whole : text.take word.toList.length = word.toList :=
    (List.prefix_iff_eq_take.mp starts.1).symm
  rw [whole]
  refine longestWord?_eq_some.mpr ⟨⟨word, member, ⟨List.prefix_refl _, ?_⟩, rfl⟩, ?_⟩
  · rw [List.drop_length]
    rfl
  · intro other _ otherStarts
    exact otherStarts.length_le

theorem longestWord?_le {words : List String} {text : List Char} {length : Nat}
    (found : profile.longestWord? words text = some length) : length ≤ text.length := by
  obtain ⟨⟨word, _, starts, rfl⟩, _⟩ := longestWord?_eq_some.mp found
  exact starts.length_le

theorem takeWhile_take_of_le {test : Char → Bool} {text : List Char} {n : Nat}
    (long : (text.takeWhile test).length ≤ n) :
    (text.take n).takeWhile test = text.takeWhile test := by
  rw [← List.take_takeWhile, List.take_of_length_le long]

theorem fits_sigilName {sigil : Char} {text : List Char} {extent : Extent}
    (found : profile.literalExtent? (.sigilName sigil) text = some extent) :
    Extent.Fits (profile.literalExtent? (.sigilName sigil)) text extent := by
  rw [literalExtent?] at found
  split at found
  · cases found
  rename_i present
  cases found
  have sigils := (List.takeWhile_prefix (l := text) (· == sigil)).length_le
  have name := (List.takeWhile_prefix (l := text.drop (text.takeWhile (· == sigil)).length)
    profile.continuesIdentifier).length_le
  rw [List.length_drop] at name
  refine ⟨by simp only; omega, by simp only; omega, ?_, by simp⟩
  have front : (text.take ((text.takeWhile (· == sigil)).length +
      ((text.drop (text.takeWhile (· == sigil)).length).takeWhile
        profile.continuesIdentifier).length)).takeWhile (· == sigil) =
      text.takeWhile (· == sigil) := takeWhile_take_of_le (by omega)
  rw [literalExtent?, front, List.drop_take, Nat.add_sub_cancel_left, takeWhile_take_of_le le_rfl,
    if_neg present]

theorem fits_boolean {spellings : List String} {text : List Char} {extent : Extent}
    (solid : (LiteralForm.boolean spellings).isVacuous = false)
    (found : profile.literalExtent? (.boolean spellings) text = some extent) :
    Extent.Fits (profile.literalExtent? (.boolean spellings)) text extent := by
  rw [literalExtent?, Option.map_eq_some_iff] at found
  obtain ⟨length, longest, rfl⟩ := found
  refine ⟨?_, longestWord?_le longest, ?_, by simp⟩
  · obtain ⟨⟨spelling, member, _, rfl⟩, _⟩ := longestWord?_eq_some.mp longest
    exact List.length_pos_iff.mpr (LiteralForm.spelling_ne_nil solid member)
  · rw [literalExtent?, longestWord?_take longest]
    rfl

/-- The extent of a character literal behind its lead: a name of a character, or else one character.
At the end of the text the lead stands alone and is left open. -/
theorem literalExtent?_character {lead : String} (names : List String) (rest : List Char) :
    profile.literalExtent? (.character lead names) (lead.toList ++ rest) =
      match profile.longestWord? names rest with
      | some length => some ⟨lead.toList.length + length, true⟩
      | none =>
        match rest with
        | [] => some ⟨lead.toList.length, false⟩
        | _ :: _ => some ⟨lead.toList.length + 1, true⟩ := by
  have front := List.isPrefixOf_iff_prefix.mpr (List.prefix_append lead.toList rest)
  rw [literalExtent?, List.drop_left]
  exact if_pos front

theorem fits_character {lead : String} {names : List String} {text : List Char} {extent : Extent}
    (solid : (LiteralForm.character lead names).isVacuous = false)
    (found : profile.literalExtent? (.character lead names) text = some extent) :
    Extent.Fits (profile.literalExtent? (.character lead names)) text extent := by
  have positive := List.length_pos_iff.mpr (LiteralForm.lead_ne_nil solid)
  have front : lead.toList.isPrefixOf text = true := by
    rw [literalExtent?] at found
    dsimp only at found
    split at found
    · assumption
    · cases found
  obtain ⟨rest, rfl⟩ := List.isPrefixOf_iff_prefix.mp front
  rw [literalExtent?_character] at found
  cases longest : profile.longestWord? names rest with
  | some length =>
    rw [longest] at found
    cases found
    have inside := longestWord?_le longest
    refine ⟨by simp only; omega, by simp; omega, ?_, by simp⟩
    dsimp only
    rw [List.take_append, List.take_of_length_le (by omega), Nat.add_sub_cancel_left,
      literalExtent?_character, longestWord?_take longest]
  | none =>
    rw [longest] at found
    cases rest with
    | nil =>
      cases found
      refine ⟨positive, by simp, ?_, by simp⟩
      rw [List.append_nil, List.take_length]
      have alone : profile.literalExtent? (.character lead names) (lead.toList ++ []) = _ :=
        literalExtent?_character names []
      rw [longest, List.append_nil] at alone
      exact alone
    | cons c rest =>
      cases found
      refine ⟨by simp, by simp, ?_, by simp⟩
      have cut : (lead.toList ++ c :: rest).take (lead.toList.length + 1) = lead.toList ++ [c] := by
        rw [List.take_append, List.take_of_length_le (by omega), Nat.add_sub_cancel_left]
        rfl
      rw [cut, literalExtent?_character]
      cases single : profile.longestWord? names [c] with
      | none => rfl
      | some length =>
        obtain ⟨⟨name, member, starts, rfl⟩, _⟩ := longestWord?_eq_some.mp single
        have short := starts.length_le
        cases empty : name.toList with
        | nil =>
          rw [empty] at starts
          have starts' : profile.StartsWith name.toList (c :: rest) := by
            rw [empty]
            exact ⟨List.nil_prefix, starts.2⟩
          exact absurd starts' (longestWord?_eq_none.mp longest name member)
        | cons first last =>
          rw [empty, List.length_cons, List.length_singleton] at short
          have one : (first :: last).length = 1 := by rw [List.length_cons]; omega
          simp only [one]

theorem fits_quotedSymbol {sigil : Char} {text : List Char} {extent : Extent}
    (found : profile.literalExtent? (.quotedSymbol sigil) text = some extent) :
    Extent.Fits (profile.literalExtent? (.quotedSymbol sigil)) text extent := by
  match text with
  | [] => cases found
  | [_] => cases found
  | first :: second :: rest =>
    by_cases other : (first != sigil) = true
    · simp [literalExtent?, other] at found
    by_cases opens : (second == '(') = true
    · have extentOf : ∀ rest, profile.literalExtent? (.quotedSymbol sigil) (first :: second :: rest) =
          some (.ofList 1 2 rest) := fun rest => by
        simp only [literalExtent?, if_neg other, if_pos opens]
      rw [extentOf] at found
      cases found
      obtain ⟨body, left, rfl, covers⟩ := Extent.exists_covers_ofList 1 2 rest
      exact Extent.Covers.fits [first, second] covers (by simp) (extentOf body)
    by_cases goesOn : profile.continuesIdentifier second = true
    · have extentOf : ∀ rest, profile.literalExtent? (.quotedSymbol sigil) (first :: second :: rest) =
          some ⟨2 + (rest.takeWhile profile.continuesIdentifier).length, true⟩ := fun rest => by
        simp only [literalExtent?, if_neg other, if_neg opens, if_pos goesOn]
      rw [extentOf] at found
      cases found
      have inside := (List.takeWhile_prefix (l := rest) profile.continuesIdentifier).length_le
      refine ⟨by simp only; omega, by simp; omega, ?_, by simp⟩
      dsimp only
      rw [Nat.add_comm, List.take_succ_cons, List.take_succ_cons, extentOf,
        takeWhile_take_of_le le_rfl, Nat.add_comm]
    · simp [literalExtent?, other, opens, goesOn] at found

theorem fits_literalExtent? (wellFormed : profile.WellFormed) {form : LiteralForm}
    (member : form ∈ profile.literals) {text : List Char} {extent : Extent}
    (found : profile.literalExtent? form text = some extent) :
    Extent.Fits (profile.literalExtent? form) text extent := by
  have solid := wellFormed.literals form member
  cases form with
  | sigilName sigil => exact fits_sigilName found
  | boolean spellings => exact fits_boolean solid found
  | character lead names => exact fits_character solid found
  | quotedSymbol sigil => exact fits_quotedSymbol found

end Profile

end ProfileLexer
