import ProfileLexer.Proofs.Classifier.Independence
import ProfileLexer.Proofs.Classifier.Marks
import ProfileLexer.Proofs.Scan.Claims

/-!
Characters outside the alphabet. Every character of every table is in it, so a foreign character is
met inside strings, comments, literals and numbers or by itself. By itself it has no shape, unless
the fold of letter case makes a reserved word of it, and the automaton rejects it even then.
-/

namespace ProfileLexer

/-- The rules whose lexemes may have characters that no table has. A number may have some behind the
letter of its base. -/
def Rule.admitsForeign : Rule → Bool
  | quotedString | leadString | lineComment | blockComment | literal | number => true
  | whitespace | newline | delimiter | operator | identifier | fallback => false

namespace Definition

theorem mem_commonAlphabet {c : Char}
    (common : c.isAlphanum = true ∨ c = '_' ∨ isLayout c = true) : c ∈ commonAlphabet := by
  rcases common with alphanumeric | rfl | blank
  · -- Letters and digits are ASCII, whose codes are few enough to go through.
    have every : ∀ code < 128, (Char.ofNat code).isAlphanum = true →
        Char.ofNat code ∈ commonAlphabet := by decide +kernel
    have range : (65 ≤ c.toNat ∧ c.toNat ≤ 90 ∨ 97 ≤ c.toNat ∧ c.toNat ≤ 122) ∨
        48 ≤ c.toNat ∧ c.toNat ≤ 57 := by
      delta Char.isAlphanum Char.isAlpha Char.isUpper Char.isLower at alphanumeric
      simpa [Char.isDigit, UInt32.le_iff_toNat_le] using alphanumeric
    rw [← Char.ofNat_toNat c] at alphanumeric ⊢
    exact every c.toNat (by omega) alphanumeric
  · decide
  · have every : ∀ blank ∈ layoutChars, blank ∈ commonAlphabet := by decide
    exact every c (mem_layoutChars blank)

/-- The words, the operators and the character sets of a definition. Markers and literal forms are
kept apart from them. -/
def texts (definition : Definition) : List String :=
  definition.keywords ++ definition.builtins ++ definition.functions ++ definition.datatypes ++
    definition.operators ++ definition.stringLeads ++
    [definition.delimiters, definition.quotes, definition.identifierStart,
      definition.identifierContinue, definition.alphabet]

theorem mem_allChars_of_mem_texts {definition : Definition} {text : String} {c : Char}
    (member : text ∈ definition.texts) (own : c ∈ text.toList) : c ∈ definition.allChars := by
  rw [allChars]
  exact List.mem_append_left _ (List.mem_append_left _ (List.mem_append_left _
    (List.mem_append_right _ (List.mem_flatMap.mpr ⟨text, member, own⟩))))

theorem mem_allChars_of_mem_marks {definition : Definition} {c : Char}
    (mark : c ∈ definition.marks) : c ∈ definition.allChars := by
  simp only [marks, List.mem_append] at mark
  rcases mark with (((quote | lead) | line) | block) | literal
  · exact mem_allChars_of_mem_texts (List.mem_append_right _ (by simp)) quote
  · obtain ⟨spelling, inTable, own⟩ := List.mem_flatMap.mp lead
    exact mem_allChars_of_mem_texts (List.mem_append_left _ (List.mem_append_right _ inTable)) own
  · cases found : definition.lineComment with
    | none => simp [found] at line
    | some marker =>
      have own : c ∈ marker.toList := by simpa [found] using line
      simp [allChars, found, own]
  · cases found : definition.blockComment with
    | none => simp [found] at block
    | some markers =>
      have own : c ∈ markers.opener.toList ++ markers.closer.toList := by simpa [found] using block
      rw [allChars, found]
      exact List.mem_append_left _ (List.mem_append_right _ own)
  · obtain ⟨form, member, own⟩ := List.mem_flatMap.mp literal
    exact List.mem_append_right _ (List.mem_flatMap.mpr
      ⟨form, member, LiteralForm.mem_chars_of_mem_marks own⟩)

end Definition

namespace Profile

variable {profile : Profile} {text : List Char} {n : Nat}

/-- A profile whose alphabet has every character of every table. Reserved words are an exception
where letter case does not matter: they are kept in upper case then, and may have become longer. -/
structure Spelled (profile : Profile) : Prop where
  common : ∀ c ∈ Definition.commonAlphabet, profile.inAlphabet c = true
  words : profile.definition.caseRule = .sensitive → ∀ word ∈ profile.reserved, ∀ c ∈ word,
    profile.inAlphabet c = true
  operators : ∀ operator ∈ profile.operators, ∀ c ∈ operator, profile.inAlphabet c = true
  delimiters : ∀ c ∈ profile.delimiters, profile.inAlphabet c = true
  identifierStart : ∀ c ∈ profile.identifierStart, profile.inAlphabet c = true
  identifierContinue : ∀ c ∈ profile.identifierContinue, profile.inAlphabet c = true
  marks : ∀ c ∈ profile.marks, profile.inAlphabet c = true

theorem inAlphabet_build {definition : Definition} {c : Char} :
    (build definition).inAlphabet c = true ↔ c ∈ definition.allChars := by
  rw [inAlphabet, build, List.contains_iff_mem, List.mem_eraseDups]

/-- The alphabet of an accepted profile has every character of every table, whether it is spelled
out in the definition or derived. -/
theorem spelled_of_accepted {definition : Definition} (accepted : ofDefinition definition = .ok profile) :
    profile.Spelled := by
  obtain ⟨_, rfl⟩ := eq_build_of_accepted accepted
  have listed : ∀ text ∈ definition.texts, ∀ c ∈ text.toList, (build definition).inAlphabet c = true :=
    fun _ member c own => inAlphabet_build.mpr (Definition.mem_allChars_of_mem_texts member own)
  simp only [Definition.texts, List.forall_mem_append, List.forall_mem_cons] at listed
  obtain ⟨⟨⟨⟨⟨⟨keywords, builtins⟩, functions⟩, datatypes⟩, operators⟩, _⟩, delimiters, _,
    identifierStart, identifierContinue, _⟩ := listed
  have folded : definition.caseRule = .sensitive → ∀ words : List String,
      (∀ spelling ∈ words, ∀ c ∈ spelling.toList, (build definition).inAlphabet c = true) →
      ∀ word ∈ words.map (fun word => definition.caseRule.fold word.toList), ∀ c ∈ word,
        (build definition).inAlphabet c = true := by
    intro sensitive words inAlphabet word member c own
    obtain ⟨spelling, inWords, rfl⟩ := List.mem_map.mp member
    rw [sensitive] at own
    exact inAlphabet spelling inWords c own
  exact {
    common := fun c member => inAlphabet_build.mpr (by simp [Definition.allChars, member])
    words := fun sensitive => List.forall_mem_append.mpr ⟨List.forall_mem_append.mpr
      ⟨List.forall_mem_append.mpr ⟨folded sensitive _ keywords, folded sensitive _ builtins⟩,
        folded sensitive _ functions⟩, folded sensitive _ datatypes⟩
    operators := List.forall_mem_map.mpr operators
    delimiters := delimiters
    identifierStart := identifierStart
    identifierContinue := List.forall_mem_append.mpr ⟨identifierContinue, identifierStart⟩
    marks := fun c mark => inAlphabet_build.mpr
      (Definition.mem_allChars_of_mem_marks (mem_marks_of_accepted accepted mark)) }

section

variable (spelled : profile.Spelled) {c : Char}
include spelled

theorem Spelled.startsIdentifier (starts : profile.startsIdentifier c = true) :
    profile.inAlphabet c = true := by
  simp only [Profile.startsIdentifier, Bool.or_eq_true, beq_iff_eq, List.contains_iff_mem] at starts
  rcases starts with (letter | underscore) | listed
  · refine spelled.common c (Definition.mem_commonAlphabet (.inl ?_))
    rw [Char.isAlphanum, letter, Bool.true_or]
  · exact spelled.common c (Definition.mem_commonAlphabet (.inr (.inl underscore)))
  · exact spelled.identifierStart c listed

theorem Spelled.continuesIdentifier (continues : profile.continuesIdentifier c = true) :
    profile.inAlphabet c = true := by
  simp only [Profile.continuesIdentifier, Bool.or_eq_true, beq_iff_eq, List.contains_iff_mem] at continues
  rcases continues with (alphanumeric | underscore) | listed
  · exact spelled.common c (Definition.mem_commonAlphabet (.inl alphanumeric))
  · exact spelled.common c (Definition.mem_commonAlphabet (.inr (.inl underscore)))
  · exact spelled.identifierContinue c listed

/-- No rule claims a foreign character for what it is. Behind the start of a delimited form it may
be claimed nevertheless. -/
theorem Spelled.unclaimed (wellFormed : profile.WellFormed) (foreign : profile.inAlphabet c = false) :
    profile.Unclaimed c := by
  have absent : ∀ {test : Bool}, (test = true → profile.inAlphabet c = true) → test = false := by
    intro test named
    rw [Bool.eq_false_iff]
    intro holds
    rw [named holds] at foreign
    cases foreign
  have unmarked : c ∉ profile.marks := by
    intro mark
    rw [spelled.marks c mark] at foreign
    cases foreign
  refine ⟨⟨⟨?_, ?_, stringLead?_of_unmarked unmarked []⟩, lineComment_of_unmarked unmarked wellFormed [],
    blockComment_of_unmarked unmarked wellFormed []⟩, noLiteral_of_unmarked unmarked wellFormed [],
    ?_, ?_, ?_, absent spelled.startsIdentifier⟩
  · rintro _ ⟨⟩
    exact absent fun blank => spelled.common c (Definition.mem_commonAlphabet (.inr (.inr blank)))
  · rintro _ ⟨⟩
    exact isQuote_of_unmarked unmarked
  · exact absent fun operator =>
      spelled.operators _ (List.contains_iff_mem.mp operator) c (List.mem_singleton_self c)
  · exact absent fun delimits => spelled.delimiters c (List.contains_iff_mem.mp delimits)
  · exact absent fun digit => spelled.common c
      (Definition.mem_commonAlphabet (.inl (by rw [Char.isAlphanum, digit, Bool.or_true])))

/-- A foreign character in what a rule claims is all that it claims, unless the rule is for
delimited forms or for numbers. Rules in front of this one need not be looked at. -/
theorem Spelled.fallback_of_claim {rule : Rule} (claims : rule.claim? profile text = some n)
    (positive : 0 < n) (strict : rule.admitsForeign = false) (member : c ∈ text.take n)
    (foreign : profile.inAlphabet c = false) : rule = .fallback ∧ text.take n = [c] := by
  have elsewhere : profile.inAlphabet c ≠ true := by
    rw [foreign]
    decide
  cases rule with
  | whitespace | newline =>
    have blanks := (blanks_of_claim (by simp) claims positive).2
    have blank := List.all_eq_true.mp blanks c member
    exact absurd (spelled.common c (Definition.mem_commonAlphabet (.inr (.inr blank)))) elsewhere
  | delimiter =>
    obtain ⟨d, _, _, delimits, single⟩ := delimiter_of_claim claims
    rw [single, List.mem_singleton] at member
    rw [← member] at delimits
    exact absurd (spelled.delimiters c (List.contains_iff_mem.mp delimits)) elsewhere
  | operator =>
    have operator := (isOperator_of_claim claims).1
    exact absurd (spelled.operators _ (List.contains_iff_mem.mp operator) c member) elsewhere
  | identifier =>
    obtain ⟨d, rest, _, starts, run⟩ := identifier_of_claim claims
    rw [run] at member
    rcases List.mem_cons.mp member with rfl | inRun
    · exact absurd (spelled.startsIdentifier starts) elsewhere
    · exact absurd (spelled.continuesIdentifier (List.mem_takeWhile_imp inRun)) elsewhere
  | fallback =>
    obtain ⟨d, _, _, single⟩ := Profile.fallback_of_claim claims
    rw [single, List.mem_singleton] at member
    rw [member]
    exact ⟨rfl, single⟩
  | quotedString | leadString | lineComment | blockComment | literal | number => cases strict

/-- Without a fold of letter case no foreign character is a reserved word, since then it would be in
the table itself. -/
theorem Spelled.insensitive_of_word (foreign : profile.inAlphabet c = false) {kind : TokenKind}
    (word : profile.wordKind? [c] = some kind) : profile.definition.caseRule = .insensitive := by
  cases sensitivity : profile.definition.caseRule with
  | insensitive => rfl
  | sensitive =>
    have reserved := mem_reserved_of_wordKind? word
    rw [sensitivity, CaseRule.fold] at reserved
    rw [spelled.words sensitivity _ reserved c (List.mem_singleton_self c)] at foreign
    cases foreign

end

/-- What a token says of a foreign character by itself: that it is none of the language, unless the
fold of letter case makes a reserved word of it. The automaton rejects it in either case, so that in
the second one the two ways part. -/
structure Discloses (profile : Profile) (c : Char) (token : Token) : Prop where
  alone : token.text.toList = [c]
  reported : profile.wordKind? [c] = none →
    token.kind = .unknown ∧ token.valid = false ∧ token.issue = some .invalidCharacter
  folded : ∀ kind, profile.wordKind? [c] = some kind → profile.definition.caseRule = .insensitive ∧
    token.kind = kind ∧ token.valid = true ∧ token.issue = none
  rejected : ((Machine.ofProfile profile).classify [c]).1 = none

theorem discloses_of_bounds {definition : Definition} (accepted : ofDefinition definition = .ok profile)
    {rule : Rule} (bounds : profile.Bounds text rule n) (strict : rule.admitsForeign = false)
    {lexeme : Lexeme} (own : lexeme.text.toList = text.take n) {c : Char}
    (member : c ∈ lexeme.text.toList) (foreign : profile.inAlphabet c = false) :
    rule = .fallback ∧ profile.Discloses c (profile.token lexeme) := by
  have spelled := spelled_of_accepted accepted
  rw [own] at member
  obtain ⟨fallback, single⟩ := spelled.fallback_of_claim bounds.claims bounds.pos strict member foreign
  have unclaimed := spelled.unclaimed (wellFormed_of_accepted accepted) foreign
  have rejected : ((Machine.ofProfile profile).classify [c]).1 = none := by
    rw [classify_ofProfile, unclaimed.kindFrom?]
  rw [single] at own
  refine ⟨fallback, by rw [token_text, own], fun noWord => ?_, fun kind word => ?_, rejected⟩
  · rw [token, judgement, own, unclaimed.judge?, noWord, rejected, rejection, foreign]
    exact ⟨rfl, rfl, rfl⟩
  · rw [token, judgement, own, unclaimed.judge?, word]
    exact ⟨spelled.insensitive_of_word foreign word, rfl, rfl, rfl⟩

end Profile

end ProfileLexer
