import ProfileLexer.Proofs.Number.Grammar
import ProfileLexer.Proofs.Scan.Plain

/-!
The front of a text. What does not start a text does not start its front either; only the spellings
of boolean literals can come to stand alone when the rest of a text is taken away.
-/

namespace ProfileLexer

/-- The words that a literal form is one of. -/
def LiteralForm.spellings : LiteralForm → List String
  | boolean spellings => spellings
  | sigilName _ | character _ _ | quotedSymbol _ => []

theorem Rule.positive?_eq_some {length n : Nat} (claimed : Rule.positive? length = some n) :
    length = n := by
  rw [Rule.positive?] at claimed
  split at claimed
  · cases claimed
  · exact Option.some.inj claimed

namespace Profile

variable {profile : Profile} {front text : List Char}

theorem head?_of_front (prefix_ : front <+: text) {c : Char} (head : front.head? = some c) :
    text.head? = some c := by
  obtain ⟨rest, rfl⟩ := prefix_
  cases front with
  | nil => cases head
  | cons first front => exact head

theorem take_of_front {n : Nat} (prefix_ : front <+: text) (length : front.length = n) :
    text.take n = front := by
  rw [← length]
  exact (List.prefix_iff_eq_take.mp prefix_).symm

theorem stringLead?_eq_none_of_front (prefix_ : front <+: text)
    (nothing : profile.stringLead? text = none) : profile.stringLead? front = none := by
  rw [stringLead?, List.find?_eq_none] at nothing ⊢
  intro lead member found
  apply nothing lead member
  obtain ⟨rest, rfl⟩ := prefix_
  rw [Bool.and_eq_true] at found ⊢
  refine ⟨Extent.isPrefixOf_of_append front rest found.1, ?_⟩
  have quoted := found.2
  cases left : front.drop lead.length with
  | nil => simp [left] at quoted
  | cons c left' =>
    have inside : lead.length ≤ front.length := by
      have short := congrArg List.length left
      rw [List.length_drop, List.length_cons] at short
      omega
    rw [List.drop_append_of_le_length inside, left]
    rw [left] at quoted
    exact quoted

theorem Unquoted.of_front (unquoted : profile.Unquoted text) (prefix_ : front <+: text) :
    profile.Unquoted front where
  blank := fun c head => unquoted.blank c (head?_of_front prefix_ head)
  quote := fun c head => unquoted.quote c (head?_of_front prefix_ head)
  lead := stringLead?_eq_none_of_front prefix_ unquoted.lead

theorem Plain.of_front (plain : profile.Plain text) (prefix_ : front <+: text) :
    profile.Plain front where
  toUnquoted := plain.toUnquoted.of_front prefix_
  line := fun marker marked starts => plain.line marker marked (starts.trans prefix_)
  block := fun markers marked starts => plain.block markers marked (starts.trans prefix_)

/-- A word at the start of the front is at the start of the text, unless it is the front. For the
front as a whole the boundary behind it may be missing in the text. -/
theorem StartsWith.of_front {word : List Char} (starts : profile.StartsWith word front)
    (shorter : word ≠ front) (prefix_ : front <+: text) : profile.StartsWith word text := by
  obtain ⟨rest, rfl⟩ := prefix_
  refine ⟨starts.1.trans (List.prefix_append front rest), ?_⟩
  have boundary := starts.2
  have inside := starts.length_le
  rw [List.drop_append_of_le_length inside]
  cases left : front.drop word.length with
  | nil =>
    have long := congrArg List.length left
    rw [List.length_drop, List.length_nil] at long
    exact absurd (starts.1.eq_of_length (by omega)) shorter
  | cons c left' =>
    rw [left] at boundary
    exact boundary

theorem takeWhile_append_of_head_false {test : Char → Bool} {body rest : List Char} {c : Char}
    (all : body.all test = true) (stops : test c = false) :
    (body ++ c :: rest).takeWhile test = body := by
  rw [List.takeWhile_append_of_pos (by simpa using all), List.takeWhile_cons, stops]
  simp

/-- Sigils and a name behind them are there also when more text follows, though the name may be
longer then. -/
theorem sigilName_isSome_of_front {sigil : Char} {extent : Extent} (rest : List Char)
    (found : profile.literalExtent? (.sigilName sigil) front = some extent) :
    (profile.literalExtent? (.sigilName sigil) (front ++ rest)).isSome = true := by
  have split := List.takeWhile_append_dropWhile (p := (· == sigil)) (l := front)
  have all : (front.takeWhile (· == sigil)).all (· == sigil) = true := List.all_takeWhile
  generalize sigils : front.takeWhile (· == sigil) = before at split all
  rw [literalExtent?, sigils] at found
  cases left : front.dropWhile (· == sigil) with
  | nil =>
    rw [left, List.append_nil] at split
    subst split
    simp at found
  | cons c name =>
    have stops := List.head?_dropWhile_not (· == sigil) front
    rw [left] at stops split
    subst split
    rw [List.drop_left] at found
    split at found
    · cases found
    rename_i present
    have whole : (before ++ c :: name ++ rest).takeWhile (· == sigil) = before := by
      rw [List.append_assoc, List.cons_append]
      exact takeWhile_append_of_head_false all stops
    have goesOn : profile.continuesIdentifier c = true := by
      by_contra ends
      simp [ends] at present
    have some_sigil : ¬ before.length = 0 := fun empty => present (.inl empty)
    rw [literalExtent?, whole, List.append_assoc, List.drop_left, List.cons_append,
      List.takeWhile_cons, if_pos goesOn]
    simp only [some_sigil, false_or, List.length_cons, Nat.succ_ne_zero, if_false,
      Option.isSome_some]

theorem literalExtent?_isSome_of_front {form : LiteralForm} {extent : Extent}
    (prefix_ : front <+: text) (apart : ∀ spelling ∈ form.spellings, spelling.toList ≠ front)
    (found : profile.literalExtent? form front = some extent) :
    (profile.literalExtent? form text).isSome = true := by
  obtain ⟨rest, rfl⟩ := prefix_
  cases form with
  | sigilName sigil =>
    exact sigilName_isSome_of_front rest found
  | boolean spellings =>
    rw [literalExtent?, Option.map_eq_some_iff] at found
    obtain ⟨length, longest, _⟩ := found
    obtain ⟨⟨spelling, member, starts, _⟩, _⟩ := longestWord?_eq_some.mp longest
    have inText := starts.of_front (apart spelling member) (List.prefix_append front rest)
    rw [literalExtent?, Option.isSome_map]
    cases nothing : profile.longestWord? spellings (front ++ rest) with
    | some _ => rfl
    | none => exact absurd inText (longestWord?_eq_none.mp nothing spelling member)
  | character lead names =>
    have leads : lead.toList.isPrefixOf front = true := by
      rw [literalExtent?] at found
      dsimp only at found
      split at found
      · assumption
      · cases found
    obtain ⟨body, rfl⟩ := List.isPrefixOf_iff_prefix.mp leads
    rw [List.append_assoc, literalExtent?_character]
    split
    · rfl
    · split <;> rfl
  | quotedSymbol sigil =>
    obtain _ | ⟨first, _ | ⟨second, front⟩⟩ := front
    · cases found
    · cases found
    · rw [List.cons_append, List.cons_append]
      simp only [literalExtent?] at found ⊢
      split
      · rename_i other
        rw [if_pos other] at found
        cases found
      split
      · rfl
      split
      · rfl
      · rename_i noList noName
        rw [if_neg noList, if_neg noName] at found
        split at found <;> cases found

theorem literalExtent?_eq_none_of_front {form : LiteralForm} (prefix_ : front <+: text)
    (apart : ∀ spelling ∈ form.spellings, spelling.toList ≠ front)
    (nothing : profile.literalExtent? form text = none) :
    profile.literalExtent? form front = none := by
  rw [Option.eq_none_iff_forall_ne_some]
  intro extent found
  have reaches := literalExtent?_isSome_of_front prefix_ apart found
  rw [nothing] at reaches
  cases reaches

/-- A literal form that a text does not start with takes all of its front and closes it, or takes
nothing of it: only the spelling of a boolean literal can be the whole front. No other form comes to
be by taking text away. -/
theorem literalExtent?_of_front {form : LiteralForm} {extent : Extent} (prefix_ : front <+: text)
    (nothing : profile.literalExtent? form text = none)
    (found : profile.literalExtent? form front = some extent) : extent = ⟨front.length, true⟩ := by
  by_cases spelled : ∃ spelling ∈ form.spellings, spelling.toList = front
  · obtain ⟨spelling, member, whole⟩ := spelled
    cases form with
    | boolean spellings =>
      rw [literalExtent?, Option.map_eq_some_iff] at found
      obtain ⟨length, longest, rfl⟩ := found
      have starts : profile.StartsWith spelling.toList front := by
        rw [whole]
        refine ⟨List.prefix_refl _, ?_⟩
        rw [List.drop_length]
        rfl
      have atLeast := (longestWord?_eq_some.mp longest).2 spelling member starts
      rw [whole] at atLeast
      rw [Nat.le_antisymm (longestWord?_le longest) atLeast]
    | sigilName _ | character _ _ | quotedSymbol _ => cases member
  · rw [literalExtent?_eq_none_of_front prefix_
      (fun spelling member whole => spelled ⟨spelling, member, whole⟩) nothing] at found
    cases found

/-- A literal starts with a lead of its form. Forms that could be empty are left out; no accepted
definition has one. -/
theorem mem_leads_of_literalExtent? {form : LiteralForm} (solid : form.isVacuous = false) {c : Char}
    {extent : Extent} (found : profile.literalExtent? form (c :: text) = some extent) :
    c ∈ form.leads := by
  cases form with
  | sigilName sigil =>
    rw [literalExtent?] at found
    split at found
    · cases found
    rename_i present
    have same : (c == sigil) = true := by
      by_contra other
      simp [other] at present
    rw [eq_of_beq same]
    exact List.mem_singleton_self sigil
  | boolean spellings =>
    rw [literalExtent?, Option.map_eq_some_iff] at found
    obtain ⟨length, longest, _⟩ := found
    obtain ⟨⟨spelling, member, starts, _⟩, _⟩ := longestWord?_eq_some.mp longest
    refine List.mem_filterMap.mpr ⟨spelling, member, ?_⟩
    have nonempty := LiteralForm.spelling_ne_nil solid member
    obtain ⟨rest, split⟩ := starts.1
    cases chars : spelling.toList with
    | nil => exact absurd chars nonempty
    | cons first last =>
      rw [chars] at split
      cases split
      rfl
  | character lead names =>
    rw [literalExtent?] at found
    dsimp only at found
    split at found
    · rename_i starts
      obtain ⟨rest, split⟩ := List.isPrefixOf_iff_prefix.mp starts
      rw [LiteralForm.leads]
      cases chars : lead.toList with
      | nil => exact absurd chars (LiteralForm.lead_ne_nil solid)
      | cons first last =>
        rw [chars] at split
        cases split
        simp
    · cases found
  | quotedSymbol sigil =>
    cases text with
    | nil => cases found
    | cons second text =>
      rw [literalExtent?] at found
      split at found
      · cases found
      rename_i same
      have same : c = sigil := by simpa using same
      rw [same]
      exact List.mem_singleton_self sigil

/-- Only the lead of a character literal and a list behind a sigil are left open. The lead is then
the whole text, while a list may have come to any depth. -/
theorem literalExtent?_open {form : LiteralForm} {extent : Extent}
    (found : profile.literalExtent? form text = some extent) (still_open : extent.closed = false) :
    (∃ lead names, form = .character lead names ∧ text = lead.toList) ∨
      ∃ sigil rest, form = .quotedSymbol sigil ∧ text = sigil :: '(' :: rest := by
  cases form with
  | sigilName sigil =>
    rw [literalExtent?] at found
    split at found
    · cases found
    · cases found
      cases still_open
  | boolean spellings =>
    rw [literalExtent?, Option.map_eq_some_iff] at found
    obtain ⟨length, _, rfl⟩ := found
    cases still_open
  | character lead names =>
    have starts : lead.toList.isPrefixOf text = true := by
      rw [literalExtent?] at found
      dsimp only at found
      split at found
      · assumption
      · cases found
    obtain ⟨rest, rfl⟩ := List.isPrefixOf_iff_prefix.mp starts
    rw [literalExtent?_character] at found
    split at found
    · cases found
      cases still_open
    · cases rest with
      | nil => exact .inl ⟨lead, names, rfl, List.append_nil _⟩
      | cons c rest =>
        cases found
        cases still_open
  | quotedSymbol sigil =>
    obtain _ | ⟨first, _ | ⟨second, rest⟩⟩ := text
    · cases found
    · cases found
    · rw [literalExtent?] at found
      split at found
      · cases found
      rename_i same
      have same : first = sigil := by simpa using same
      split at found
      · rename_i bracket
        rw [same, eq_of_beq bracket]
        exact .inr ⟨sigil, rest, rfl, rfl⟩
      split at found
      · cases found
        cases still_open
      · cases found

theorem length?_of_declines (numbers : Rule.number.Declines profile text) :
    Number.length? profile.numbers text = none := by
  rw [Option.eq_none_iff_forall_ne_some]
  intro length found
  have zero := numbers length found
  obtain ⟨sign, base, body, split, _, _, unsigned⟩ := Number.length?_take found
  obtain ⟨c, rest, rfl, _⟩ := Number.startsWithDigit_iff.mp unsigned.length.1
  rw [zero, List.take_zero] at split
  simp at split

theorem length?_eq_none_of_front (prefix_ : front <+: text)
    (nothing : Number.length? profile.numbers text = none) :
    Number.length? profile.numbers front = none := by
  obtain ⟨rest, rfl⟩ := prefix_
  cases front with
  | nil => rfl
  | cons c front =>
    rw [List.cons_append, Number.length?] at nothing
    rw [Number.length?]
    split
    · rename_i signed
      rw [if_pos signed] at nothing
      split
      · rename_i digit
        obtain ⟨first, left, rfl, isDigit⟩ := Number.startsWithDigit_iff.mp digit
        have digit : Number.startsWithDigit (first :: left ++ rest) = true := isDigit
        rw [if_pos digit] at nothing
        cases nothing
      · rfl
    · rename_i unsigned
      rw [if_neg unsigned] at nothing
      split
      · rename_i digit
        rw [if_pos digit] at nothing
        cases nothing
      · rfl

theorem atBoundary_drop_takeWhile (rest : List Char) :
    profile.atBoundary (rest.drop (rest.takeWhile profile.continuesIdentifier).length) = true := by
  have stops := List.head?_dropWhile_not profile.continuesIdentifier rest
  rw [drop_length_takeWhile]
  cases left : rest.dropWhile profile.continuesIdentifier with
  | nil => rfl
  | cons next left' =>
    rw [left, List.head?_cons] at stops
    rw [atBoundary, stops]
    rfl

end Profile

end ProfileLexer
