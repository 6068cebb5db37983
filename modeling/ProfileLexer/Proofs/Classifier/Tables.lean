import Mathlib.Tactic.Tauto
import ProfileLexer.Proofs.Classifier.Coherent

/-!
Coherence as a check of finite tables: an accepted profile whose tables pass the check is coherent.
-/

namespace ProfileLexer

/-- Only the listed characters are looked at, not all the characters there are. Without this
instance the search would go over every code point. -/
instance decidableForallMem (chars : List Char) (p : Char → Prop) [DecidablePred p] :
    Decidable (∀ c ∈ chars, p c) :=
  List.decidableBAll p chars

namespace Profile

variable (profile : Profile)

instance (c : Char) : Decidable (profile.Idle c) :=
  decidable_of_iff (profile.symbolState? [c] = none ∧ profile.isLiteralLead c = false)
    ⟨fun both => ⟨both.1, both.2⟩, fun idle => ⟨idle.symbol, idle.literal⟩⟩

instance (form : LiteralForm) (spelling : List Char) : Decidable (profile.Distinct form spelling) :=
  decidable_of_iff (spelling.length ≠ 1 ∧ profile.isOperator spelling = false ∧
      ∀ other ∈ profile.literals, other ≠ form → profile.literalExtent? other spelling = none)
    ⟨fun all => ⟨all.1, all.2.1, all.2.2⟩,
      fun distinct => ⟨distinct.long, distinct.operator, distinct.others⟩⟩

instance (sigil : Char) : Decidable (profile.Opening sigil) :=
  decidable_of_iff (profile.continuesIdentifier '(' = false ∧
      (∀ operator ∈ profile.operators, ¬ [sigil, '('] <+: operator) ∧
      ∀ other ∈ profile.literals, other ≠ .quotedSymbol sigil → sigil ∉ other.leads)
    ⟨fun all => ⟨all.1, all.2.1, all.2.2⟩,
      fun opening => ⟨opening.identifier, opening.operators, opening.others⟩⟩

/-- A form whose literals are nothing else. Sigils with a name need no condition: nothing else is
looked for behind them. -/
def Separate (form : LiteralForm) : Prop :=
  match form with
  | .sigilName _ => True
  | .boolean spellings => ∀ spelling ∈ spellings, profile.Distinct form spelling.toList
  | .character lead _ => profile.symbolsKind? lead.toList = none
  | .quotedSymbol sigil => profile.Opening sigil

instance (form : LiteralForm) : Decidable (profile.Separate form) :=
  match form with
  | .sigilName _ => isTrue trivial
  | .boolean spellings =>
    inferInstanceAs (Decidable (∀ spelling ∈ spellings, profile.Distinct _ spelling.toList))
  | .character lead _ => inferInstanceAs (Decidable (profile.symbolsKind? lead.toList = none))
  | .quotedSymbol sigil => inferInstanceAs (Decidable (profile.Opening sigil))

/-- A lead that is read as a word, from its first character to its last. -/
def ReadsLead : List Char → Prop
  | [] => False
  | c :: word =>
    Machine.onInitial profile c = (.word, .read) ∧ word.all profile.continuesIdentifier = true

instance (lead : List Char) : Decidable (profile.ReadsLead lead) :=
  match lead with
  | [] => isFalse fun impossible => impossible
  | c :: word => inferInstanceAs (Decidable (Machine.onInitial profile c = (.word, .read) ∧
      word.all profile.continuesIdentifier = true))

end Profile

instance (markers : BlockMarkers) : Decidable markers.Paired :=
  decidable_of_iff (markers.opener.length = 2 ∧ markers.closer.length = 2 ∧
      markers.opener ≠ markers.closer)
    ⟨fun all => ⟨all.1, all.2.1, all.2.2⟩,
      fun paired => ⟨paired.opener, paired.closer, paired.different⟩⟩

def layoutChars : List Char := [' ', '\t', '\n', '\r']

def digitChars : List Char := "0123456789".toList

def signChars : List Char := ['+', '-']

theorem mem_layoutChars {c : Char} (blank : isLayout c = true) : c ∈ layoutChars := by
  simp only [isLayout, Bool.or_eq_true, beq_iff_eq] at blank
  simp only [layoutChars, List.mem_cons, List.not_mem_nil, or_false]
  tauto

theorem mem_signChars {c : Char} (sign : isSign c = true) : c ∈ signChars := by
  simpa [isSign, signChars] using sign

theorem mem_digitChars {c : Char} (digit : c.isDigit = true) : c ∈ digitChars := by
  have every : ∀ code < 58, 48 ≤ code → Char.ofNat code ∈ digitChars := by decide
  have range : 48 ≤ c.toNat ∧ c.toNat ≤ 57 := by
    simpa [Char.isDigit, UInt32.le_iff_toNat_le] using digit
  rw [← Char.ofNat_toNat c]
  exact every c.toNat (by omega) range.1

theorem mem_blankOrDigit {c : Char} (member : isLayout c = true ∨ c.isDigit = true) :
    c ∈ layoutChars ++ digitChars := by
  rw [List.mem_append]
  exact member.imp mem_layoutChars mem_digitChars

theorem upperChar_of_blankOrDigit {c : Char} (member : c ∈ layoutChars ++ digitChars) :
    Text.upperChar c = [c] := by
  revert c
  decide

/-- What upper case makes of the characters that it makes several of. A reserved word that is one of
them could be a single character in the source. -/
def upperImages : List (List Char) :=
  Text.upperExpansions.toList.map fun entry => entry.2.map Char.ofNat

theorem upperImages_short : ∀ image ∈ upperImages, image.length ≤ 3 := by decide +kernel

theorem upperChar_cases (c : Char) :
    (Text.upperChar c).length = 1 ∨ Text.upperChar c ∈ upperImages := by
  rw [Text.upperChar]
  split
  · exact .inl rfl
  rw [Text.mapByTables]
  split
  · rename_i entry found
    have listed := Array.mem_toList_iff.mpr (Array.mem_of_find?_eq_some found)
    exact .inr (List.mem_map.mpr ⟨entry, listed, rfl⟩)
  · split <;> exact .inl rfl

theorem CaseRule.mem_fold (caseRule : CaseRule) {c : Char} (text : List Char)
    (member : c ∈ layoutChars ++ digitChars) : c ∈ (caseRule.fold (c :: text)).take 1 := by
  cases caseRule with
  | sensitive => exact List.mem_cons_self
  | insensitive =>
    rw [fold, Text.upper, List.flatMap_cons, upperChar_of_blankOrDigit member]
    exact List.mem_cons_self

namespace Profile

/-- All reserved words as they are looked up, in upper case where letter case does not matter. -/
def reserved (profile : Profile) : List (List Char) :=
  profile.keywords ++ profile.builtins ++ profile.functions ++ profile.datatypes

/-- A reserved word that looks like nothing else: not like a blank, a number or a single character.
Longer words are compared with the images of upper case only where letter case does not matter. -/
structure Reservable (profile : Profile) (word : List Char) : Prop where
  head : ∀ c ∈ word.take 1, c ∉ layoutChars ++ digitChars
  single : word.length = 1 →
    profile.definition.caseRule = .sensitive ∧ profile.isIdentifier word = true
  image : profile.definition.caseRule = .insensitive → word.length ≤ 3 → word ∉ upperImages

instance (profile : Profile) (word : List Char) : Decidable (profile.Reservable word) :=
  decidable_of_iff ((∀ c ∈ word.take 1, c ∉ layoutChars ++ digitChars) ∧
      (word.length = 1 →
        profile.definition.caseRule = .sensitive ∧ profile.isIdentifier word = true) ∧
      (profile.definition.caseRule = .insensitive → word.length ≤ 3 → word ∉ upperImages))
    ⟨fun all => ⟨all.1, all.2.1, all.2.2⟩,
      fun reservable => ⟨reservable.head, reservable.single, reservable.image⟩⟩

/-- The conditions of coherence over the tables themselves. They speak of finitely many characters,
words and forms, so they can be evaluated for a language at hand; they are sufficient, not
necessary. -/
structure Checked (profile : Profile) : Prop where
  blanks : ∀ c ∈ layoutChars, profile.isQuote c = false ∧ profile.isDelimiter c = false ∧
    profile.Idle c
  quotes : ∀ quote ∈ profile.quotes, profile.continuesIdentifier quote = false
  leads : ∀ lead ∈ profile.definition.stringLeads, profile.ReadsLead lead.toList
  marker : ∀ marker ∈ profile.lineComment, marker.any isLineBreak = false
  lineComment : ∀ marker ∈ profile.lineComment, ∀ markers ∈ profile.blockComment,
    ¬ markers.opener <+: marker
  blockComment : ∀ markers ∈ profile.blockComment, markers.Paired
  literals : ∀ form ∈ profile.literals, profile.Separate form
  delimiters : ∀ c ∈ profile.delimiters, profile.Idle c ∧ c.isDigit = false ∧ isSign c = false
  operatorLength : ∀ operator ∈ profile.operators, operator.length ≤ profile.operatorLength
  operators : ∀ operator ∈ profile.operators, Number.length? profile.numbers operator = none
  boundary : profile.definition.operatorBoundary = true →
    ∀ operator ∈ profile.operators, profile.isIdentifier operator = true
  digits : ∀ c ∈ digitChars, profile.Idle c ∧ profile.startsIdentifier c = false
  bases : profile.numbers.signed = true →
    profile.numbers.hex = false ∧ profile.numbers.octal = false ∧ profile.numbers.binary = false
  signs : profile.numbers.signed = true → ∀ sign ∈ signChars, ∀ digit ∈ digitChars,
    profile.isLiteralLead sign = false ∧ profile.symbolState? [sign, digit] = none
  words : ∀ word ∈ profile.reserved, profile.Reservable word

variable {profile : Profile}

theorem mem_reserved_of_wordKind? {word : List Char} {kind : TokenKind}
    (reserved : profile.wordKind? word = some kind) :
    profile.definition.caseRule.fold word ∈ profile.reserved := by
  by_contra nowhere
  simp only [Profile.reserved, List.mem_append, not_or] at nowhere
  obtain ⟨⟨⟨keywords, builtins⟩, functions⟩, datatypes⟩ := nowhere
  have nothing : profile.wordKind? word = none := by
    simp only [wordKind?, List.contains_eq_mem, keywords, builtins, functions, datatypes,
      decide_false, Bool.false_eq_true, if_false]
  rw [nothing] at reserved
  cases reserved

theorem mem_stringLeads_of_accepted {definition : Definition}
    (accepted : ofDefinition definition = .ok profile) {lead : List Char}
    (member : lead ∈ profile.stringLeads) :
    ∃ spelling ∈ profile.definition.stringLeads, spelling.toList = lead := by
  rw [ofDefinition] at accepted
  split at accepted
  · cases accepted
  cases accepted
  obtain ⟨spelling, sorted, rfl⟩ := List.mem_map.mp member
  exact ⟨spelling, List.mem_mergeSort.mp (List.mem_eraseDups.mp sorted), rfl⟩

theorem literalLeads_of_accepted {definition : Definition}
    (accepted : ofDefinition definition = .ok profile) {form : LiteralForm}
    (member : form ∈ profile.literals) {c : Char} (lead : c ∈ form.leads) :
    profile.isLiteralLead c = true := by
  rw [ofDefinition] at accepted
  split at accepted
  · cases accepted
  cases accepted
  exact List.contains_iff_mem.mpr (List.mem_flatMap.mpr ⟨form, member, lead⟩)

theorem Checked.word_eq_none (checked : profile.Checked) {c : Char} (text : List Char)
    (member : isLayout c = true ∨ c.isDigit = true) : profile.wordKind? (c :: text) = none := by
  rw [Option.eq_none_iff_forall_ne_some]
  intro kind reserved
  have listed := mem_blankOrDigit member
  have reservable := checked.words _ (mem_reserved_of_wordKind? reserved)
  exact reservable.head c (CaseRule.mem_fold _ text listed) listed

theorem Checked.single (checked : profile.Checked) {c : Char} {kind : TokenKind}
    (reserved : profile.wordKind? [c] = some kind) : profile.startsIdentifier c = true := by
  have reservable := checked.words _ (mem_reserved_of_wordKind? reserved)
  cases sensitivity : profile.definition.caseRule with
  | sensitive =>
    rw [sensitivity, CaseRule.fold] at reservable
    have identifier := (reservable.single rfl).2
    rw [isIdentifier, Bool.and_eq_true] at identifier
    exact identifier.1
  | insensitive =>
    rw [sensitivity, CaseRule.fold, Text.upper, List.flatMap_singleton] at reservable
    rcases upperChar_cases c with one | image
    · have impossible := (reservable.single one).1
      rw [sensitivity] at impossible
      cases impossible
    · exact absurd image (reservable.image sensitivity (upperImages_short _ image))

theorem ReadsLead.exists_cons {lead : List Char} (reads : profile.ReadsLead lead) :
    ∃ c word, lead = c :: word ∧ Machine.onInitial profile c = (.word, .read) ∧
      word.all profile.continuesIdentifier = true := by
  cases lead with
  | nil => exact reads.elim
  | cons c word => exact ⟨c, word, rfl, reads⟩

/-- An accepted profile whose tables pass the check is coherent. What is left of the conditions, on
words and leads of literals, comes from the definition's being accepted. -/
theorem Checked.coherent (checked : profile.Checked) {definition : Definition}
    (accepted : ofDefinition definition = .ok profile) : profile.Coherent where
  wellFormed := wellFormed_of_accepted accepted
  blanks := fun c blank => checked.blanks c (mem_layoutChars blank)
  quotes := fun quote quoted => checked.quotes quote (List.contains_iff_mem.mp quoted)
  leads := by
    intro lead member
    obtain ⟨spelling, inDefinition, rfl⟩ := mem_stringLeads_of_accepted accepted member
    exact (checked.leads spelling inDefinition).exists_cons
  marker := checked.marker
  lineComment := fun marker markers line block => checked.lineComment marker line markers block
  blockComment := checked.blockComment
  literalLeads := fun _ member _ lead => literalLeads_of_accepted accepted member lead
  booleans := by
    intro form member spelling inForm
    have separate := checked.literals form member
    cases form with
    | boolean spellings => exact separate spelling inForm
    | sigilName _ | character _ _ | quotedSymbol _ => cases inForm
  characters := fun lead names member => checked.literals (.character lead names) member
  quotedSymbols := fun sigil member => checked.literals (.quotedSymbol sigil) member
  delimiters := checked.delimiters
  operatorLength := checked.operatorLength
  operators := checked.operators
  boundary := checked.boundary
  digits := fun c digit => checked.digits c (mem_digitChars digit)
  signs := by
    intro signed
    obtain ⟨hex, octal, binary⟩ := checked.bases signed
    refine ⟨fun c => ?_, fun sign digit isSign isDigit => ?_⟩
    · simp [Radix.ofLetter?, hex, octal, binary]
    · exact checked.signs signed sign (mem_signChars isSign) digit (mem_digitChars isDigit)
  words := fun c text => checked.word_eq_none text
  singles := fun c kind => checked.single

end Profile

end ProfileLexer
