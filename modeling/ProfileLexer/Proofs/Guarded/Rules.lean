import ProfileLexer.Proofs.Guarded.Number
import ProfileLexer.Proofs.Scan.Cut
import ProfileLexer.Proofs.Scan.Plain

/-!
The rules and the loop of a scan, with a cursor and in bytes. Every rule finds what it claims, and
the loop cuts a source where a scan does.
-/

namespace ProfileLexer.Guarded

/-- Where the first characters of a text end that an operator may have, one after the other. The
first of these ends is behind the first character. -/
def operatorEnds (profile : Profile) (text : List Char) : List Nat :=
  (((List.range text.length).drop 1).map (fun n => Text.byteLength (text.take n)) ++
    [Text.byteLength text]).take profile.operatorLength

def firstOperator (profile : Profile) (text : List Char) : List Nat → Guarded (Option Nat)
  | [] => return none
  | stop :: stops => do
    if profile.isOperator (← Text.before? text stop) then return some stop
    else firstOperator profile text stops

/-- The length of the longest operator that comes first, if nothing that goes on with an identifier
is behind it where that is asked for. -/
def operator (profile : Profile) (text : List Char) : Guarded (Option Nat) := do
  match ← firstOperator profile text (operatorEnds profile text).reverse with
  | none => return none
  | some stop =>
    let rest ← Text.behind? text stop
    return if profile.definition.operatorBoundary && !profile.atBoundary rest then none
      else some stop

noncomputable section

/-- The number of bytes that a rule claims at the start of a text. A cursor that has passed nothing
makes no claim. -/
def claim (profile : Profile) (text : List Char) : Rule → Guarded (Option Nat)
  | .whitespace => do
    let cursor ← (Cursor.ofText text).skipWhile fun c => c == ' ' || c == '\t'
    return cursor.finish
  | .newline => do
    if ((← (Cursor.ofText text).peek).map isLineBreak).getD false then
      let (_, cursor) ← (Cursor.ofText text).bump
      return cursor.finish
    else return none
  | .quotedString => do
    if ((← (Cursor.ofText text).peek).map profile.isQuote).getD false then
      return (← stringExtent profile text).map (·.length)
    else return none
  | .leadString => do
    if (← profile.stringLeads.findM? (leadsQuote profile text)).isSome then
      return (← stringExtent profile text).map (·.length)
    else return none
  | .lineComment => do
    match profile.lineComment with
    | none => return none
    | some marker =>
      let (starts, cursor) ← (Cursor.ofText text).eat marker
      if starts then
        let cursor ← cursor.skipWhile (!isLineBreak ·)
        return cursor.finish
      else return none
  | .blockComment => do return (← commentExtent profile text).map (·.length)
  | .literal => do
    if ((← (Cursor.ofText text).peek).map profile.isLiteralLead).getD false then
      return (← profile.literals.findSomeM? (literalExtent profile text)).map (·.length)
    else return none
  | .delimiter => do
    if ((← (Cursor.ofText text).peek).map profile.isDelimiter).getD false then
      let (_, cursor) ← (Cursor.ofText text).bump
      return cursor.finish
    else return none
  | .operator => operator profile text
  | .number => number profile.numbers text
  | .identifier => do
    if ((← (Cursor.ofText text).peek).map profile.startsIdentifier).getD false then
      let (_, cursor) ← (Cursor.ofText text).bump
      let cursor ← cursor.skipWhile profile.continuesIdentifier
      return cursor.finish
    else return none
  | .fallback => do
    let (_, cursor) ← (Cursor.ofText text).bump
    return cursor.finish

/-- What a rule claims, if it is something and ends between two characters. The second condition is
looked at, not relied on. -/
def bound (profile : Profile) (text : List Char) (rule : Rule) : Guarded (Option (Rule × Nat)) := do
  match ← claim profile text rule with
  | none => return none
  | some length =>
    return if 0 < length && (Text.charsWithin? 0 length text).isSome then some (rule, length)
      else none

/-- The rule that bounds the next lexeme of a text, and its length in bytes. If no rule claims
anything, one character is taken, or all bytes that are left. -/
def boundary (profile : Profile) (text : List Char) : Guarded (Rule × Nat) := do
  match ← Rule.all.findSomeM? (bound profile text) with
  | some found => return found
  | none => return (.fallback, (text.head?.map Char.utf8Size).getD (Text.byteLength text))

/-- Cuts the next lexeme of a source from it, up to its end or until there are too many. -/
def cutRound (profile : Profile) (source : List Char) (allowed : Nat) :
    Array Bounded × Nat → Guarded ((Array Bounded × Nat) ⊕ Except Nat (Array Bounded))
  | (bounded, offset) => do
    if offset < Text.byteLength source then
      if bounded.size ≥ allowed then return .inr (.error offset)
      else
        let rest ← Text.behind? source offset
        let (rule, length) ← boundary profile rest
        let text ← Text.before? rest length
        return .inl (bounded.push ⟨rule, ⟨String.ofList text, offset⟩⟩, offset + length)
    else return .inr (.ok bounded)

/-- The lexemes of a source from a byte offset on, behind those that are bounded already. The error
tells where the loop has stopped. -/
def cut (profile : Profile) (source : List Char) (allowed : Nat)
    (bounded : Array Bounded) (offset : Nat) : Guarded (Except Nat (Array Bounded)) :=
  loop (cutRound profile source allowed) (bounded, offset)

end

variable {profile : Profile}

/-- Every end of an operator lies between two characters, so each text that is tried is cut out. -/
theorem firstOperator_eq (text : List Char) (n : Nat) :
    firstOperator profile text
        ((List.range' 1 n).map fun n => Text.byteLength (text.take n)).reverse =
      some ((Rule.longestOperator? profile text n).map fun n => Text.byteLength (text.take n)) := by
  induction n with
  | zero => rfl
  | succ n ih =>
    rw [List.range'_1_concat, List.map_append, List.reverse_append, List.map_singleton,
      List.reverse_singleton, List.singleton_append, firstOperator, Nat.add_comm 1 n,
      Text.before?_take, Rule.longestOperator?]
    simp only [Option.bind_eq_bind, Option.bind_some]
    split
    · rfl
    · exact ih

/-- The ends of the first characters but one are those at which another character starts. The end of
the text is one of them when the text is short. -/
theorem operatorEnds_eq {text : List Char} (nonempty : text ≠ []) : operatorEnds profile text =
    (List.range' 1 (text.take profile.operatorLength).length).map
      fun n => Text.byteLength (text.take n) := by
  obtain ⟨n, length⟩ : ∃ n, text.length = n + 1 :=
    ⟨text.length - 1, (Nat.sub_add_cancel (List.length_pos_iff.mpr nonempty)).symm⟩
  have inner : (List.range (n + 1)).drop 1 = List.range' 1 n := by
    rw [List.range_eq_range', List.drop_range']
    rfl
  have all : List.range' 1 n ++ [text.length] = List.range' 1 text.length := by
    rw [length, List.range'_1_concat, Nat.add_comm 1 n]
  have last : [Text.byteLength text] = [text.length].map fun n => Text.byteLength (text.take n) := by
    rw [List.map_singleton, List.take_length]
  rw [operatorEnds, last, length, inner, ← length, ← List.map_append, all, ← List.map_take,
    List.length_take]
  rcases Nat.le_total text.length profile.operatorLength with few | many
  · rw [List.take_range'_of_length_le few, Nat.min_eq_right few]
  · rw [List.take_range'_of_length_ge many, Nat.min_eq_left many]

theorem operator_eq (wellFormed : profile.WellFormed) (text : List Char) : operator profile text =
    some ((Rule.operator? profile text).map fun n => Text.byteLength (text.take n)) := by
  by_cases empty : text = []
  · subst empty
    have nothing : profile.isOperator [] = false :=
      Bool.eq_false_iff.mpr fun found => wellFormed.operators (List.contains_iff_mem.mp found)
    have none_ : Rule.operator? profile [] = none := by
      rw [Rule.operator?, List.take_nil]
      rfl
    rw [none_, operator, operatorEnds]
    cases profile.operatorLength with
    | zero => rfl
    | succ length =>
      simp [firstOperator, Text.before?, Text.slice?, Text.charsWithin?, nothing]
  · rw [operator, operatorEnds_eq empty, firstOperator_eq, Rule.operator?]
    cases Rule.longestOperator? profile text (text.take profile.operatorLength).length with
    | none => rfl
    | some length =>
      simp only [Option.bind_eq_bind, Option.bind_some, Option.map_some, Text.behind?_take]
      split <;> rfl

/-- A cursor has passed nothing exactly when the run that it passes is empty. -/
theorem finish_eq (front rest : List Char) : (Cursor.between front rest).finish =
    (Rule.positive? front.length).map fun n => Text.byteLength ((front ++ rest).take n) := by
  cases front with
  | nil => rfl
  | cons c front =>
    rw [Cursor.finish_between rest (List.cons_ne_nil c front), List.length_cons, Rule.positive?,
      if_neg (Nat.succ_ne_zero _), Option.map_some, ← List.length_cons, List.take_left]

/-- The reach of the first of some literal forms is found. -/
theorem findLiteral_eq (text : List Char) :
    profile.literals.findSomeM? (literalExtent profile text) =
      some ((profile.literals.findSome? (profile.literalExtent? · text)).map (·.inBytes text)) := by
  rw [findSomeM?_eq fun form _ => literalExtent_eq text form, List.map_findSome?]
  rfl

/-- What a rule claims at the start of a text is found, rule by rule. The profile has to be well
formed, as markers must not be empty. -/
theorem claim_eq (wellFormed : profile.WellFormed) (text : List Char) (rule : Rule) :
    claim profile text rule =
      some ((rule.claim? profile text).map fun n => Text.byteLength (text.take n)) := by
  have lengths (extent? : Option Extent) : (extent?.map (·.inBytes text)).map (·.length) =
      (extent?.map (·.length)).map fun n => Text.byteLength (text.take n) := by
    cases extent? <;> rfl
  cases rule with
  | whitespace =>
    rw [claim, Cursor.ofText_eq, Cursor.skipWhile_between]
    simp only [Option.bind_eq_bind, Option.bind_some, finish_eq, List.nil_append,
      List.takeWhile_append_dropWhile]
    rfl
  | newline => cases text with
    | nil => rfl
    | cons c rest =>
      rw [claim, Cursor.ofText_eq, Cursor.peek_between, Rule.claim?]
      simp only [Option.bind_eq_bind, Option.bind_some, Cursor.bump_cons, finish_eq]
      split <;> rfl
  | quotedString =>
    rw [claim, Cursor.ofText_eq, Cursor.peek_between, stringExtent_eq, Rule.claim?]
    simp only [Option.bind_eq_bind, Option.bind_some, lengths]
    split <;> rfl
  | leadString =>
    rw [claim, findM?_eq fun lead _ => leadsQuote_eq text lead, stringExtent_eq, Rule.claim?,
      Profile.stringLead?]
    simp only [Option.bind_eq_bind, Option.bind_some, lengths]
    split <;> rfl
  | lineComment =>
    rw [claim, Rule.claim?]
    cases profile.lineComment with
    | none => rfl
    | some marker =>
      dsimp only
      rw [Cursor.ofText_eq, Cursor.eat_between]
      split
      · rename_i front
        obtain ⟨rest, rfl⟩ := List.isPrefixOf_iff_prefix.mp front
        simp only [Option.bind_eq_bind, Option.bind_some, if_true, Cursor.skipWhile_between,
          finish_eq, List.nil_append, List.drop_left, List.append_assoc,
          List.takeWhile_append_dropWhile, List.length_append]
        rfl
      · rfl
  | blockComment =>
    rw [claim, commentExtent_eq wellFormed, Rule.claim?]
    simp only [Option.bind_eq_bind, Option.bind_some, lengths]
    rfl
  | literal => cases text with
    | nil => rfl
    | cons c rest =>
      rw [claim, Cursor.ofText_eq, Cursor.peek_between, findLiteral_eq, Rule.claim?, Rule.literal?]
      simp only [Option.bind_eq_bind, Option.bind_some, lengths]
      cases leads : profile.isLiteralLead c <;> simp [leads]
  | delimiter => cases text with
    | nil => rfl
    | cons c rest =>
      rw [claim, Cursor.ofText_eq, Cursor.peek_between, Rule.claim?]
      simp only [Option.bind_eq_bind, Option.bind_some, Cursor.bump_cons, finish_eq]
      split <;> rfl
  | operator => exact operator_eq wellFormed text
  | number => exact number_eq text
  | identifier => cases text with
    | nil => rfl
    | cons c rest =>
      rw [claim, Cursor.ofText_eq, Cursor.peek_between, Rule.claim?]
      cases starts : profile.startsIdentifier c with
      | false => simp [starts]
      | true =>
        simp [starts, finish_eq, Rule.positive?, Nat.add_comm 1, take_length_takeWhile]
  | fallback => cases text with
    | nil => rfl
    | cons c rest =>
      rw [claim, Cursor.ofText_eq]
      simp [finish_eq, Rule.claim?, Rule.positive?]

/-- Every claim ends between two characters, so none is passed over for where it ends. -/
theorem bound_eq (wellFormed : profile.WellFormed) {text : List Char} (nonempty : text ≠ [])
    (rule : Rule) : bound profile text rule =
      some ((rule.bid? profile text).map fun found =>
        (found.1, Text.byteLength (text.take found.2))) := by
  rw [bound, claim_eq wellFormed, Rule.bid?]
  cases rule.claim? profile text with
  | none => rfl
  | some length =>
    cases length with
    | zero => rfl
    | succ length =>
      have positive : 0 < Text.byteLength (text.take (length + 1)) := by
        apply Text.byteLength_pos
        rw [ne_eq, List.take_eq_nil_iff]
        exact fun nothing => nothing.elim (Nat.succ_ne_zero length) nonempty
      have between : (Text.charsWithin? 0 (Text.byteLength (text.take (length + 1))) text).isSome :=
        Text.charsWithin?_isSome_iff.mpr ⟨_, _, (List.take_append_drop (length + 1) text).symm, rfl⟩
      simp [positive, between]

/-- The rule that bounds the next lexeme of a text is found, and where the lexeme ends. The text is
not empty, as the loop asks for no lexeme at the end of the source. -/
theorem boundary_eq (wellFormed : profile.WellFormed) {text : List Char} (nonempty : text ≠ []) :
    boundary profile text = some ((profile.boundary text).1,
      Text.byteLength (text.take (profile.boundary text).2)) := by
  have first : Rule.all.findSomeM? (bound profile text) = _ :=
    (findSomeM?_eq fun rule _ => bound_eq wellFormed nonempty rule).trans
      (congrArg some List.map_findSome?.symm)
  rw [boundary, first, profile.boundary_eq_bid?]
  cases Rule.all.findSome? (Rule.bid? profile text) with
  | some found => rfl
  | none => cases text with
    | nil => exact absurd rfl nonempty
    | cons c rest => simp

/-- A source is cut where a scan cuts it, and the loop ends with the source. It may be begun in the
middle of a source, if that is between two characters. -/
theorem cut_eq (wellFormed : profile.WellFormed) (allowed : Nat) (bounded : Array Bounded)
    {before : List Char} {offset : Nat} (passed : Text.byteLength before = offset)
    (after : List Char) : cut profile (before ++ after) allowed bounded offset =
      some (profile.cut allowed bounded offset after) := by
  induction offset, after using profile.pieces_induction generalizing before bounded with
  | nil offset =>
    rw [List.append_nil, cut, loop_eq, cutRound, Profile.cut, passed,
      if_neg (Nat.lt_irrefl offset)]
    rfl
  | piece offset after nonempty ih =>
    have positive := Text.byteLength_pos nonempty
    have goesOn : offset < Text.byteLength (before ++ after) := by
      rw [Text.byteLength_append]
      omega
    rw [cut, loop_eq, cutRound, Profile.cut, if_pos goesOn, List.isEmpty_eq_false_iff.mpr nonempty,
      if_neg Bool.false_ne_true]
    by_cases full : bounded.size ≥ allowed
    · rw [if_pos full, if_pos full]
      rfl
    · have stop : (profile.firstPiece offset after).lexeme.stop =
          offset + Text.byteLength (after.take (profile.boundary after).2) := by
        rw [Lexeme.stop, Profile.firstPiece, Text.byteLength_ofList]
      have passedNext : Text.byteLength (before ++ after.take (profile.boundary after).2) =
          (profile.firstPiece offset after).lexeme.stop := by
        rw [stop, Text.byteLength_append, passed]
      have next := ih (bounded.push (profile.firstPiece offset after)) passedNext
      rw [List.append_assoc, List.take_append_drop] at next
      have rest : Text.behind? (before ++ after) offset = some after :=
        passed ▸ Text.behind?_append before after
      rw [if_neg full, if_neg full, rest]
      simp only [Option.bind_eq_bind, Option.bind_some, boundary_eq wellFormed nonempty,
        Text.before?_take]
      rw [← stop]
      exact next

end ProfileLexer.Guarded
