import ProfileLexer.Proofs.Scan.Forms
import ProfileLexer.Scan.Scanner

/-!
The rule that bounds a lexeme, and what is known because the rules before it have claimed nothing.
-/

namespace ProfileLexer

namespace Rule

/-- The rules that are tried before a rule, in the order in which they are tried. -/
def earlier (rule : Rule) : List Rule :=
  all.takeWhile (· != rule)

/-- A rule that claims nothing at the start of a text. A claim of no character counts as none, as it
does in the choice of the rule. -/
def Declines (rule : Rule) (profile : Profile) (text : List Char) : Prop :=
  ∀ n, rule.claim? profile text = some n → n = 0

/-- A rule with the number of characters that it claims at the start of a text, if that is not
zero. -/
def bid? (profile : Profile) (text : List Char) (rule : Rule) : Option (Rule × Nat) :=
  match rule.claim? profile text with
  | some (length + 1) => some (rule, length + 1)
  | _ => none

end Rule

theorem mem_of_mem_takeWhile_ne {α : Type} [BEq α] [LawfulBEq α] {before after : List α}
    {last other : α} (member : other ∈ (before ++ last :: after).takeWhile (· != last)) :
    other ∈ before := by
  induction before with
  | nil => simp at member
  | cons first before ih =>
    rw [List.cons_append, List.takeWhile_cons] at member
    split at member
    · rcases List.mem_cons.mp member with same | later
      · exact same ▸ List.mem_cons_self
      · exact List.mem_cons_of_mem _ (ih later)
    · cases member

namespace Profile

/-- The rule that bounds the first lexeme of a text: it claims something, and no rule before it
does. What the rules behind it would claim is left open. -/
structure Bounds (profile : Profile) (text : List Char) (rule : Rule) (n : Nat) : Prop where
  claims : rule.claim? profile text = some n
  pos : 0 < n
  first : ∀ other ∈ rule.earlier, other.Declines profile text

theorem boundary_eq_bid? (profile : Profile) (text : List Char) :
    profile.boundary text = (Rule.all.findSome? (Rule.bid? profile text)).getD (.fallback, 1) := rfl

theorem bounds_boundary (profile : Profile) {text : List Char} (nonempty : text ≠ []) :
    profile.Bounds text (profile.boundary text).1 (profile.boundary text).2 := by
  rw [boundary_eq_bid?]
  cases found : Rule.all.findSome? (Rule.bid? profile text) with
  | none =>
    have fallback := List.findSome?_eq_none_iff.mp found .fallback (by decide)
    simp [Rule.bid?, Rule.claim?, nonempty] at fallback
  | some bound =>
    obtain ⟨before, rule, after, split, claimed, earlier⟩ := List.findSome?_eq_some_iff.mp found
    unfold Rule.bid? at claimed earlier
    split at claimed
    · rename_i length claim
      cases claimed
      refine ⟨claim, Nat.succ_pos length, fun other member n claims => ?_⟩
      have inBefore : other ∈ before := by
        rw [Rule.earlier, split] at member
        exact mem_of_mem_takeWhile_ne member
      have declined := earlier other inBefore
      rw [claims] at declined
      cases n with
      | zero => rfl
      | succ n => cases declined
    · cases claimed

/-- A text that starts with no blank and no string. A lead that stands without its quote is no
string. -/
structure Unquoted (profile : Profile) (text : List Char) : Prop where
  blank : ∀ c, text.head? = some c → isLayout c = false
  quote : ∀ c, text.head? = some c → profile.isQuote c = false
  lead : profile.stringLead? text = none

/-- A text that starts with no blank, no string and no comment. -/
structure Plain (profile : Profile) (text : List Char) : Prop extends Unquoted profile text where
  line : ∀ marker, profile.lineComment = some marker → ¬ marker <+: text
  block : ∀ markers, profile.blockComment = some markers → ¬ markers.opener <+: text

variable {profile : Profile} {text : List Char}

theorem isLayout_eq_false_of_declines (layout : Rule.whitespace.Declines profile text)
    (lineBreak : Rule.newline.Declines profile text) {c : Char} (head : text.head? = some c) :
    isLayout c = false := by
  cases text with
  | nil => cases head
  | cons first rest =>
    cases head
    rw [Bool.eq_false_iff]
    intro blank
    cases feed : isLineBreak c with
    | true =>
      have one := lineBreak 1 (by simp [Rule.claim?, feed])
      cases one
    | false =>
      have space : (c == ' ' || c == '\t') = true := by
        simp only [isLayout, isLineBreak, Bool.or_assoc] at blank feed ⊢
        rwa [feed, Bool.or_false] at blank
      have some_ := layout ((rest.takeWhile fun c => c == ' ' || c == '\t').length + 1)
        (by simp [Rule.claim?, space, Rule.positive?])
      omega

theorem isQuote_eq_false_of_declines (strings : Rule.quotedString.Declines profile text) {c : Char}
    (head : text.head? = some c) : profile.isQuote c = false := by
  cases text with
  | nil => cases head
  | cons first rest =>
    cases head
    rw [Bool.eq_false_iff]
    intro quoted
    have extent := profile.stringExtent?_of_quote quoted rest
    have zero := strings _ (by rw [Rule.claim?, List.head?_cons, Option.map_some, Option.getD_some,
      if_pos quoted, extent, Option.map_some])
    have positive := (fits_stringExtent? extent).pos
    omega

theorem stringLead?_eq_none_of_declines (strings : Rule.quotedString.Declines profile text)
    (leads : Rule.leadString.Declines profile text) : profile.stringLead? text = none := by
  rw [Option.eq_none_iff_forall_ne_some]
  intro lead found
  obtain ⟨quote, rest, split, quoted⟩ := quote_of_stringLead? found
  cases text with
  | nil =>
    have empty := congrArg List.length split
    simp at empty
  | cons c text =>
    have plain := isQuote_eq_false_of_declines strings (c := c) rfl
    have extent := stringExtent?_of_lead plain found split
    have zero := leads _ (by rw [Rule.claim?, found, Option.isSome_some, if_pos rfl, extent,
      Option.map_some])
    have positive := (fits_stringExtent? extent).pos
    omega

theorem Unquoted.of_declines
    (declines : ∀ rule ∈ Rule.lineComment.earlier, rule.Declines profile text) :
    profile.Unquoted text where
  blank := fun _ => isLayout_eq_false_of_declines (declines _ (by decide)) (declines _ (by decide))
  quote := fun _ => isQuote_eq_false_of_declines (declines _ (by decide))
  lead := stringLead?_eq_none_of_declines (declines _ (by decide)) (declines _ (by decide))

theorem lineComment_of_declines (wellFormed : profile.WellFormed)
    (comments : Rule.lineComment.Declines profile text) {marker : List Char}
    (marked : profile.lineComment = some marker) : ¬ marker <+: text := by
  intro front
  have prefix_ := List.isPrefixOf_iff_prefix.mpr front
  have positive : marker.length ≠ 0 := fun empty => wellFormed.lineComment (by
    rw [marked, List.length_eq_zero_iff.mp empty])
  have zero := comments
    (marker.length + ((text.drop marker.length).takeWhile (!isLineBreak ·)).length) (by
      simp only [Rule.claim?, marked, if_pos prefix_, Rule.positive?]
      rw [if_neg (by omega)])
  omega

theorem blockComment_of_declines (wellFormed : profile.WellFormed)
    (comments : Rule.blockComment.Declines profile text) {markers : BlockMarkers}
    (marked : profile.blockComment = some markers) : ¬ markers.opener <+: text := by
  intro front
  have prefix_ := List.isPrefixOf_iff_prefix.mpr front
  obtain ⟨extent, found⟩ : ∃ extent, profile.commentExtent? text = some extent := by
    rw [commentExtent?, marked]
    exact ⟨_, if_pos prefix_⟩
  have zero := comments extent.length (by rw [Rule.claim?, found, Option.map_some])
  have positive := (fits_commentExtent? wellFormed found).pos
  omega

theorem Plain.of_declines (wellFormed : profile.WellFormed)
    (declines : ∀ rule ∈ Rule.literal.earlier, rule.Declines profile text) : profile.Plain text where
  toUnquoted := .of_declines fun rule member => declines rule (by
    revert member
    cases rule <;> decide)
  line := fun _ => lineComment_of_declines wellFormed (declines _ (by decide))
  block := fun _ => blockComment_of_declines wellFormed (declines _ (by decide))

theorem literalExtent?_eq_none_of_declines (wellFormed : profile.WellFormed)
    (literals : Rule.literal.Declines profile text) {c : Char} (head : text.head? = some c)
    (lead : profile.isLiteralLead c = true) {form : LiteralForm} (member : form ∈ profile.literals) :
    profile.literalExtent? form text = none := by
  cases text with
  | nil => cases head
  | cons first rest =>
    cases head
    cases found : profile.literals.findSome? (profile.literalExtent? · (c :: rest)) with
    | none => exact List.findSome?_eq_none_iff.mp found form member
    | some extent =>
      obtain ⟨other, inLiterals, reaches⟩ := List.exists_of_findSome?_eq_some found
      have positive := (fits_literalExtent? wellFormed inLiterals reaches).pos
      have zero := literals extent.length (by
        rw [Rule.claim?, Rule.literal?, if_pos lead, found, Option.map_some])
      omega

theorem isDelimiter_eq_false_of_declines (delimiters : Rule.delimiter.Declines profile text)
    {c : Char} (head : text.head? = some c) : profile.isDelimiter c = false := by
  rw [Bool.eq_false_iff]
  intro delimits
  have one := delimiters 1 (by simp [Rule.claim?, head, delimits])
  cases one

theorem startsIdentifier_eq_false_of_declines (identifiers : Rule.identifier.Declines profile text)
    {c : Char} (head : text.head? = some c) : profile.startsIdentifier c = false := by
  cases text with
  | nil => cases head
  | cons first rest =>
    cases head
    rw [Bool.eq_false_iff]
    intro starts
    have zero := identifiers _ (by rw [Rule.claim?, if_pos starts])
    omega

/-- The longest operator is an operator, and there is no longer one among those that are tried.
Whether it is declared is left to the table. -/
theorem longestOperator?_eq_some {length n : Nat}
    (found : Rule.longestOperator? profile text n = some length) :
    profile.isOperator (text.take length) = true ∧ 0 < length ∧ length ≤ n ∧
      ∀ longer, length < longer → longer ≤ n → profile.isOperator (text.take longer) = false := by
  induction n with
  | zero => cases found
  | succ n ih =>
    rw [Rule.longestOperator?] at found
    split at found
    · cases found
      exact ⟨‹_›, Nat.succ_pos n, Nat.le_refl _, fun longer above below => by omega⟩
    · rename_i shorter
      obtain ⟨isOperator, positive, below, longest⟩ := ih found
      refine ⟨isOperator, positive, by omega, fun longer above atMost => ?_⟩
      rcases Nat.lt_or_eq_of_le atMost with within | same
      · exact longest longer above (by omega)
      · rw [same]
        exact Bool.eq_false_iff.mpr shorter

theorem longestOperator?_eq_none {n : Nat} (nothing : Rule.longestOperator? profile text n = none)
    {length : Nat} (positive : 0 < length) (atMost : length ≤ n) :
    profile.isOperator (text.take length) = false := by
  induction n with
  | zero => omega
  | succ n ih =>
    rw [Rule.longestOperator?] at nothing
    split at nothing
    · cases nothing
    · rename_i shorter
      rcases Nat.lt_or_eq_of_le atMost with within | same
      · exact ih nothing (by omega)
      · rw [same]
        exact Bool.eq_false_iff.mpr shorter

/-- Where the operator rule claims nothing although an operator is there, the profile asks for a
boundary and the longest operator runs into an identifier. That one may be longer than the operator
that was given. -/
theorem operator_of_declines (operators : Rule.operator.Declines profile text) {length : Nat}
    (positive : 0 < length) (within : length ≤ text.length)
    (short : ∀ operator ∈ profile.operators, operator.length ≤ profile.operatorLength)
    (isOperator : profile.isOperator (text.take length) = true) :
    profile.definition.operatorBoundary = true ∧ ∃ longest, length ≤ longest ∧
      longest ≤ text.length ∧ profile.isOperator (text.take longest) = true ∧
      profile.atBoundary (text.drop longest) = false := by
  have fits : length ≤ (text.take profile.operatorLength).length := by
    have inTable := short _ (List.contains_iff_mem.mp isOperator)
    rw [List.length_take] at inTable ⊢
    omega
  cases found : Rule.longestOperator? profile text (text.take profile.operatorLength).length with
  | none =>
    rw [longestOperator?_eq_none found positive fits] at isOperator
    cases isOperator
  | some longest =>
    obtain ⟨longestIs, longestPositive, atMost, none_longer⟩ := longestOperator?_eq_some found
    by_cases runsOn : (profile.definition.operatorBoundary &&
        !profile.atBoundary (text.drop longest)) = true
    · rw [Bool.and_eq_true, Bool.not_eq_true'] at runsOn
      refine ⟨runsOn.1, longest, ?_, ?_, longestIs, runsOn.2⟩
      · by_contra shorter
        rw [none_longer length (by omega) fits] at isOperator
        cases isOperator
      · rw [List.length_take] at atMost
        omega
    · have zero := operators longest (by
        rw [Rule.claim?, Rule.operator?, found]
        exact if_neg runsOn)
      omega

end Profile

end ProfileLexer
