import ProfileLexer.Proofs.Guarded.Rules
import ProfileLexer.Proofs.Profile.Accepted
import ProfileLexer.Proofs.Scan.Claims

/-!
Maximal munch. The operator rule claims the longest declared operator that a text starts with, or
nothing: where that one may not run into an identifier and does, no shorter one takes its place.
-/

namespace ProfileLexer

/-- The longest of the declared operators that a text starts with. Nothing is said of how it is
looked for, nor of what is behind it. -/
structure Definition.LongestOperator (definition : Definition) (text : List Char)
    (operator : String) : Prop where
  declared : operator ∈ definition.operators
  starts : operator.toList <+: text
  longest : ∀ other ∈ definition.operators, other.toList <+: text →
    other.toList <+: operator.toList

theorem Definition.LongestOperator.eq {definition : Definition} {text : List Char}
    {operator other : String} (longest : definition.LongestOperator text operator)
    (otherLongest : definition.LongestOperator text other) : other = operator := by
  apply String.toList_injective
  have inside := longest.longest other otherLongest.declared otherLongest.starts
  have around := otherLongest.longest operator longest.declared longest.starts
  exact inside.eq_of_length_le around.length_le

namespace Profile

/-- A text that starts with a character that goes on with an identifier. At the end of a source
there is none, so nothing runs on there. -/
def RunsOn (profile : Profile) (text : List Char) : Prop :=
  ∃ c rest, text = c :: rest ∧ profile.continuesIdentifier c = true

variable {definition : Definition} {profile : Profile} {text : List Char} {n : Nat}

theorem atBoundary_eq_false_iff : profile.atBoundary text = false ↔ profile.RunsOn text := by
  cases text with
  | nil => simp [atBoundary, RunsOn]
  | cons c rest => simp [atBoundary, RunsOn]

theorem atBoundary_eq_true_iff : profile.atBoundary text = true ↔ ¬profile.RunsOn text := by
  rw [← atBoundary_eq_false_iff, Bool.not_eq_false]

theorem definition_of_accepted (accepted : ofDefinition definition = .ok profile) :
    profile.definition = definition := by
  obtain ⟨_, rfl⟩ := eq_build_of_accepted accepted
  rfl

/-- The table of operators holds those that are declared, and no others. -/
theorem isOperator_iff_declared (accepted : ofDefinition definition = .ok profile)
    {word : List Char} :
    profile.isOperator word = true ↔ ∃ operator ∈ definition.operators, operator.toList = word := by
  obtain ⟨_, rfl⟩ := eq_build_of_accepted accepted
  rw [isOperator, List.contains_iff_mem]
  exact List.mem_map

/-- A declared operator at the start of a text is among the candidates: it is not empty, and no
longer than the longest of all operators. -/
theorem candidate_of_declared (accepted : ofDefinition definition = .ok profile) {operator : String}
    (declared : operator ∈ definition.operators) (starts : operator.toList <+: text) :
    profile.isOperator (text.take operator.toList.length) = true ∧ 0 < operator.toList.length ∧
      operator.toList.length ≤ (text.take profile.operatorLength).length := by
  have wellFormed := wellFormed_of_accepted accepted
  have own := take_of_front starts rfl
  have isOperator : profile.isOperator operator.toList = true :=
    (isOperator_iff_declared accepted).mpr ⟨operator, declared, rfl⟩
  have inTable : operator.toList ∈ profile.operators := List.contains_iff_mem.mp isOperator
  refine ⟨by rw [own]; exact isOperator, ?_, ?_⟩
  · refine List.length_pos_iff.mpr fun empty => ?_
    rw [empty] at inTable
    exact wellFormed.operators inTable
  · have within := starts.length_le
    have short : operator.toList.length ≤ profile.operatorLength := by
      obtain ⟨_, rfl⟩ := eq_build_of_accepted accepted
      exact length_le_operatorLength inTable
    rw [List.length_take]
    omega

/-- The search among the candidates finds the longest declared operator. It goes from longer texts
to shorter ones and stops at the first that is in the table. -/
theorem longest_of_longestOperator? (accepted : ofDefinition definition = .ok profile)
    (found : Rule.longestOperator? profile text (text.take profile.operatorLength).length =
      some n) :
    ∃ operator, definition.LongestOperator text operator ∧ operator.toList.length = n := by
  obtain ⟨isOperator, _, within, longest⟩ := longestOperator?_eq_some found
  obtain ⟨operator, declared, own⟩ := (isOperator_iff_declared accepted).mp isOperator
  have inside : n ≤ text.length := by
    rw [List.length_take] at within
    omega
  have length : operator.toList.length = n := by rw [own, List.length_take_of_le inside]
  have starts : operator.toList <+: text := own ▸ List.take_prefix n text
  refine ⟨operator, ⟨declared, starts, fun other otherDeclared otherStarts => ?_⟩, length⟩
  obtain ⟨isOther, _, fits⟩ := candidate_of_declared accepted otherDeclared otherStarts
  refine List.prefix_of_prefix_length_le otherStarts starts (Nat.le_of_not_lt fun longer => ?_)
  rw [longest _ (length ▸ longer) fits] at isOther
  cases isOther

/-- The search finds nothing only where there is nothing: no declared operator starts the text. -/
theorem not_starts_of_longestOperator? (accepted : ofDefinition definition = .ok profile)
    (nothing : Rule.longestOperator? profile text (text.take profile.operatorLength).length = none)
    {operator : String} (declared : operator ∈ definition.operators) :
    ¬operator.toList <+: text := by
  intro starts
  obtain ⟨isOperator, positive, fits⟩ := candidate_of_declared accepted declared starts
  rw [longestOperator?_eq_none nothing positive fits] at isOperator
  cases isOperator

/-- Where a declared operator starts a text, the operator rule claims the longest, unless that one
runs into an identifier and may not. No shorter one is tried then. -/
theorem operator_claim?_of_longest (accepted : ofDefinition definition = .ok profile)
    {operator : String} (longest : definition.LongestOperator text operator) :
    Rule.operator.claim? profile text =
      if definition.operatorBoundary && !profile.atBoundary (text.drop operator.toList.length) then
        none
      else some operator.toList.length := by
  rw [Rule.claim?, Rule.operator?, definition_of_accepted accepted]
  cases found : Rule.longestOperator? profile text (text.take profile.operatorLength).length with
  | none =>
    exact absurd longest.starts (not_starts_of_longestOperator? accepted found longest.declared)
  | some length =>
    obtain ⟨other, otherLongest, rfl⟩ := longest_of_longestOperator? accepted found
    rw [longest.eq otherLongest]

/-- Where no declared operator starts a text, the operator rule claims nothing. -/
theorem operator_claim?_of_not_starts (accepted : ofDefinition definition = .ok profile)
    (nothing : ∀ operator ∈ definition.operators, ¬operator.toList <+: text) :
    Rule.operator.claim? profile text = none := by
  cases found : Rule.longestOperator? profile text (text.take profile.operatorLength).length with
  | none => rw [Rule.claim?, Rule.operator?, found]
  | some length =>
    obtain ⟨operator, longest, _⟩ := longest_of_longestOperator? accepted found
    exact absurd longest.starts (nothing operator longest.declared)

/-- A text starts with no declared operator, or there is a longest one. -/
theorem not_starts_or_longest (accepted : ofDefinition definition = .ok profile)
    (text : List Char) : (∀ operator ∈ definition.operators, ¬operator.toList <+: text) ∨
      ∃ operator, definition.LongestOperator text operator := by
  cases found : Rule.longestOperator? profile text (text.take profile.operatorLength).length with
  | none => exact .inl fun _ => not_starts_of_longestOperator? accepted found
  | some length =>
    obtain ⟨operator, longest, _⟩ := longest_of_longestOperator? accepted found
    exact .inr ⟨operator, longest⟩

/-- Why no operator is cut off a text: none of the declared ones starts it, or the longest that does
runs into an identifier and may not. A shorter one with a boundary behind it makes no difference. -/
def YieldsNoOperator (profile : Profile) (text : List Char) : Prop :=
  (∀ operator ∈ profile.definition.operators, ¬operator.toList <+: text) ∨
    profile.definition.operatorBoundary = true ∧ ∃ operator,
      profile.definition.LongestOperator text operator ∧
        profile.RunsOn (text.drop operator.toList.length)

theorem operator_claim?_eq_none_iff (accepted : ofDefinition definition = .ok profile) :
    Rule.operator.claim? profile text = none ↔ profile.YieldsNoOperator text := by
  rw [YieldsNoOperator, definition_of_accepted accepted]
  rcases not_starts_or_longest accepted text with nothing | ⟨operator, longest⟩
  · rw [operator_claim?_of_not_starts accepted nothing]
    exact iff_of_true rfl (.inl nothing)
  · have starts : ¬∀ other ∈ definition.operators, ¬other.toList <+: text :=
      fun nothing => nothing operator longest.declared longest.starts
    have only : (∃ other, definition.LongestOperator text other ∧
        profile.RunsOn (text.drop other.toList.length)) ↔
          profile.RunsOn (text.drop operator.toList.length) :=
      ⟨fun ⟨other, otherLongest, runsOn⟩ => longest.eq otherLongest ▸ runsOn,
        fun runsOn => ⟨operator, longest, runsOn⟩⟩
    rw [operator_claim?_of_longest accepted longest, only, ← atBoundary_eq_false_iff]
    simp [starts]

theorem operator_claim?_eq_some_iff (accepted : ofDefinition definition = .ok profile) :
    Rule.operator.claim? profile text = some n ↔
      ∃ operator, definition.LongestOperator text operator ∧ operator.toList.length = n ∧
        (definition.operatorBoundary = true → ¬profile.RunsOn (text.drop n)) := by
  rcases not_starts_or_longest accepted text with nothing | ⟨operator, longest⟩
  · rw [operator_claim?_of_not_starts accepted nothing]
    simp only [reduceCtorEq, false_iff, not_exists]
    exact fun operator ⟨longest, _⟩ => nothing operator longest.declared longest.starts
  · rw [operator_claim?_of_longest accepted longest]
    constructor
    · intro claims
      split at claims
      · cases claims
      · rename_i ends
        cases claims
        refine ⟨operator, longest, rfl, fun asks => atBoundary_eq_true_iff.mp ?_⟩
        simpa [asks] using ends
    · rintro ⟨other, otherLongest, rfl, ends⟩
      obtain rfl := longest.eq otherLongest
      rw [if_neg]
      simpa [atBoundary_eq_true_iff] using ends

/-- Every lexeme that the operator rule has bounded is the longest declared operator at its place,
and runs into no identifier where it may not. The rule has been tried where a rule behind it has
bounded a lexeme, and there none was to be cut off; wherever it is tried, it claims nothing for that
reason alone. The search among the ends that an operator may have, in bytes, comes to the same.
Nothing is assumed of how operators begin or whether one contains another. -/
theorem operators_of_scan (accepted : ofDefinition definition = .ok profile)
    {preferences : ScanPreferences} {source : String} {scan : Scan}
    (scanned : (profile.scan preferences source).result = .ok scan) :
    (∀ bounded ∈ scan.bounded, ∃ passed rest, source.toList = passed ++ rest ∧
      bounded.lexeme.offset = Text.byteLength passed ∧
      (bounded.rule = .operator → definition.LongestOperator rest bounded.lexeme.text ∧
        (definition.operatorBoundary = true →
          ¬profile.RunsOn (rest.drop bounded.lexeme.text.toList.length))) ∧
      (.operator ∈ bounded.rule.earlier → profile.YieldsNoOperator rest)) ∧
    ∀ text, (Rule.operator.claim? profile text = none ↔ profile.YieldsNoOperator text) ∧
      (∀ n, Rule.operator.claim? profile text = some n ↔
        ∃ operator, definition.LongestOperator text operator ∧ operator.toList.length = n ∧
          (definition.operatorBoundary = true → ¬profile.RunsOn (text.drop n))) ∧
      Guarded.operator profile text = some ((Rule.operator.claim? profile text).map fun n =>
        Text.byteLength (text.take n)) := by
  have wellFormed := wellFormed_of_accepted accepted
  rw [profile.scan_of_scannable preferences (profile.scannable_of_scan scanned),
    Except.ok.injEq] at scanned
  subst scanned
  refine ⟨fun bounded member => ?_, fun text => ⟨operator_claim?_eq_none_iff accepted,
    fun n => operator_claim?_eq_some_iff accepted, Guarded.operator_eq wellFormed text⟩⟩
  obtain ⟨passed, rest, n, split, _, place, own, bounds⟩ := exists_bounds_of_mem_pieces member
  refine ⟨passed, rest, split, by rw [place, Nat.zero_add], fun byOperator => ?_, fun tried => ?_⟩
  · have claims := bounds.claims
    rw [byOperator] at claims
    obtain ⟨operator, longest, rfl, ends⟩ := (operator_claim?_eq_some_iff accepted).mp claims
    have same : bounded.lexeme.text = operator := by
      apply String.toList_injective
      rw [own, take_of_front longest.starts rfl]
    rw [same]
    exact ⟨longest, ends⟩
  · refine (operator_claim?_eq_none_iff accepted).mp ?_
    cases claims : Rule.operator.claim? profile rest with
    | none => rfl
    | some n =>
      have zero := bounds.first .operator tried n claims
      have positive := (isOperator_of_claim claims).2.1
      omega

/-- A longer operator that runs into an identifier keeps the shorter one from being cut off. -/
theorem operators_of_scan_before_name :
    let definition := { Definition.ofId "arrows" with
      operators := ["-", "→", "->", "→→"]
      operatorBoundary := true }
    let profile := build definition
    let preferences : ScanPreferences := (Settings.ofEnvironment []).scan
    let source := "→→ ->x"
    ∃ scan, ofDefinition definition = .ok profile ∧
      (profile.scan preferences source).result = .ok scan ∧
      scan.bounded = [⟨.operator, ⟨"→→", 0⟩⟩, ⟨.whitespace, ⟨" ", 6⟩⟩, ⟨.fallback, ⟨"-", 7⟩⟩,
        ⟨.fallback, ⟨">", 8⟩⟩, ⟨.identifier, ⟨"x", 9⟩⟩] ∧
      definition.LongestOperator source.toList "→→" ∧
      Rule.operator.claim? profile "->x".toList = none ∧
      profile.YieldsNoOperator "->x".toList := by
  intro definition profile preferences source
  have accepted : ofDefinition definition = .ok profile := by
    have sound : definition.problem? = none := by decide
    rw [ofDefinition, sound]
  have scannable : profile.Scannable source :=
    ⟨by decide, Nat.le_trans (profile.length_pieces_le 0 _) (by decide)⟩
  have scanned := profile.scan_of_scannable preferences scannable
  have bounded : (profile.scanned preferences source).bounded =
      [⟨.operator, ⟨"→→", 0⟩⟩, ⟨.whitespace, ⟨" ", 6⟩⟩, ⟨.fallback, ⟨"-", 7⟩⟩,
        ⟨.fallback, ⟨">", 8⟩⟩, ⟨.identifier, ⟨"x", 9⟩⟩] := by decide +kernel
  obtain ⟨lexemes, texts⟩ := operators_of_scan accepted scanned
  obtain ⟨passed, rest, split, place, byOperator, _⟩ :=
    lexemes ⟨.operator, ⟨"→→", 0⟩⟩ (by rw [bounded]; decide)
  have atStart : passed = [] := Text.byteLength_eq_zero_iff.mp place.symm
  rw [atStart, List.nil_append] at split
  have nothing : Rule.operator.claim? profile "->x".toList = none := by decide +kernel
  refine ⟨_, accepted, scanned, bounded, ?_, nothing, (texts _).1.mp nothing⟩
  rw [split]
  exact (byOperator rfl).1

end Profile

end ProfileLexer
