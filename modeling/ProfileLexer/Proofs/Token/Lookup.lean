import ProfileLexer.Proofs.Sorted
import ProfileLexer.Proofs.Token.Verification

/-!
The token over a byte offset. In a stream that has passed its check there is exactly one for each
offset in the source, and it is the one that is found.
-/

namespace ProfileLexer

namespace Token

/-- A token covers the bytes from its offset up to where it stops. An offset need not be that of a
character. -/
def Covers (token : Token) (offset : Nat) : Prop :=
  token.offset ≤ offset ∧ offset < token.stop

variable {source : List Char} {tokens : List Token} {offset : Nat}

theorem width_append (tokens later : List Token) :
    width (tokens ++ later) = width tokens + width later := by
  simp [width]

theorem width_cons (token : Token) (tokens : List Token) :
    width (token :: tokens) = token.text.utf8ByteSize + width tokens := rfl

/-- Tokens that keep to a source lie end to end, whether or not they come to its end. -/
theorem Fit.tiled (fit : Fit source tokens) : Lexeme.Tiled 0 (tokens.map Token.lexeme) := by
  induction tokens using List.reverseRecOn with
  | nil => trivial
  | append_singleton tokens token ih =>
    obtain ⟨before, last⟩ := fit_concat.mp fit
    rw [List.map_append, Lexeme.tiled_append, List.flatMap_map, Nat.zero_add]
    refine ⟨ih before, ?_, mt String.toList_eq_nil_iff.mp last.nonempty, trivial⟩
    exact last.offset.trans (byteLength_texts tokens).symm

/-- Tokens that lie end to end take up every byte up to where they end. Their own offsets are not
looked at here. -/
theorem exists_around_of_lt_width (within : offset < width tokens) :
    ∃ before token after, tokens = before ++ token :: after ∧ width before ≤ offset ∧
      offset < width before + token.text.utf8ByteSize := by
  induction tokens using List.reverseRecOn with
  | nil => exact absurd within (Nat.not_lt_zero offset)
  | append_singleton tokens last ih =>
    by_cases earlier : offset < width tokens
    · obtain ⟨before, token, after, rfl, lower, upper⟩ := ih earlier
      exact ⟨before, token, after ++ [last], by simp, lower, upper⟩
    · rw [width_concat] at within
      exact ⟨tokens, last, [], rfl, by omega, within⟩

end Token

namespace TokenStream.Whole

variable {stream : TokenStream} {source : String} {before after : List Token} {token : Token}
  {offset : Nat}

theorem cover (whole : stream.Whole source) : Token.Cover stream.tokens source := by
  obtain ⟨fit, texts⟩ := whole_iff.mp whole
  exact ⟨fit.tiled, texts⟩

/-- The tokens of a whole stream take up its source. -/
theorem width_eq (whole : stream.Whole source) :
    Token.width stream.tokens = source.utf8ByteSize := by
  rw [← Token.byteLength_texts, whole.cover.texts, Text.byteLength_toList]

/-- A token ends where those up to it do, by the count of bytes. -/
theorem stop_eq (whole : stream.Whole source) (split : stream.tokens = before ++ token :: after) :
    token.stop = Token.width before + token.text.utf8ByteSize := by
  rw [Token.stop, whole.contiguous before token after split]

theorem stop_le_of_mem (whole : stream.Whole source) (split : stream.tokens = before ++ after)
    (member : token ∈ before) : token.stop ≤ Token.width before := by
  obtain ⟨front, behind, rfl⟩ := List.append_of_mem member
  rw [List.append_assoc] at split
  rw [whole.stop_eq split, Token.width_append, Token.width_cons]
  omega

theorem le_offset_of_mem (whole : stream.Whole source) (split : stream.tokens = before ++ after)
    (member : token ∈ after) : Token.width before ≤ token.offset := by
  obtain ⟨front, behind, rfl⟩ := List.append_of_mem member
  rw [← List.append_assoc] at split
  rw [whole.contiguous (before ++ front) token behind split, Token.width_append]
  omega

/-- No token ends behind the source, so no sum of an offset and a length does. -/
theorem stop_le (whole : stream.Whole source) (member : token ∈ stream.tokens) :
    token.stop ≤ source.utf8ByteSize := by
  rw [← whole.width_eq]
  exact whole.stop_le_of_mem (List.append_nil _).symm member

/-- In a whole stream exactly one token covers a byte of the source. Which one it is follows from
the lengths alone. -/
theorem exists_covers (whole : stream.Whole source) (within : offset < source.utf8ByteSize) :
    ∃ before token after, stream.tokens = before ++ token :: after ∧ token.Covers offset ∧
      ∀ other ∈ before ++ after, ¬other.Covers offset := by
  rw [← whole.width_eq] at within
  obtain ⟨before, token, after, split, lower, upper⟩ := Token.exists_around_of_lt_width within
  refine ⟨before, token, after, split, ⟨?_, ?_⟩, fun other member covers => ?_⟩
  · rw [whole.contiguous before token after split]
    exact lower
  · rw [whole.stop_eq split]
    exact upper
  rcases List.mem_append.mp member with earlier | later
  · have stop := whole.stop_le_of_mem split earlier
    have beyond := covers.2
    omega
  · rw [List.append_cons] at split
    have start := whole.le_offset_of_mem split later
    rw [Token.width_append, Token.width_cons] at start
    have reached := covers.1
    omega

/-- What stands behind the token over an offset starts behind the offset, as it starts where the
token ends or later. -/
theorem lt_offset_of_covers (whole : stream.Whole source)
    (split : stream.tokens = before ++ token :: after) (covers : token.Covers offset) :
    ∀ other ∈ after, offset < other.offset := by
  intro other member
  have beyond := covers.2
  rw [whole.stop_eq split, ← Token.width_concat] at beyond
  rw [List.append_cons] at split
  exact Nat.lt_of_lt_of_le beyond (whole.le_offset_of_mem split member)

/-- A byte offset falls to the last token that starts there or in front of it. The offset may be
behind the source. -/
theorem exists_started (whole : stream.Whole source) (offset : Nat) :
    stream.tokens = [] ∨ ∃ before token after, stream.tokens = before ++ token :: after ∧
      token.offset ≤ offset ∧ ∀ other ∈ after, offset < other.offset := by
  rcases Nat.lt_or_ge offset source.utf8ByteSize with within | behind
  · obtain ⟨before, token, after, split, covers, _⟩ := whole.exists_covers within
    exact .inr ⟨before, token, after, split, covers.1, whole.lt_offset_of_covers split covers⟩
  · rcases List.eq_nil_or_concat stream.tokens with empty | ⟨before, last, split⟩
    · exact .inl empty
    · rw [List.concat_eq_append] at split
      have stop := whole.stop_le (split ▸ List.mem_append_right before List.mem_cons_self)
      rw [Token.stop] at stop
      exact .inr ⟨before, last, [], split, by omega, by simp⟩

section

variable (whole : stream.Whole source) (split : stream.tokens = before ++ token :: after)
  (started : token.offset ≤ offset) (next : ∀ other ∈ after, offset < other.offset)

include split in
theorem start_of_split :
    (stream.tokens.map (·.offset)).toArray[before.length]? = some token.offset := by
  simp [split]

include split next in
theorem lt_of_next {start : Nat}
    (atNext : (stream.tokens.map (·.offset)).toArray[before.length + 1]? = some start) :
    offset < start := by
  rw [split, List.getElem?_toArray, List.map_append, List.map_cons, List.append_cons,
    List.getElem?_append_right (by simp)] at atNext
  obtain ⟨other, member, rfl⟩ := List.mem_map.mp (List.mem_of_getElem? atNext)
  exact next other member

include whole split started next

theorem tokenAt?_of_started :
    stream.tokenAt? offset = if offset < token.stop then some token else none := by
  have found : Sorted.lastAtMost (stream.tokens.toArray.map (·.offset)) offset = before.length := by
    rw [List.map_toArray]
    exact Sorted.lastAtMost_eq_of_between whole.cover.increasing (start_of_split split) started
      fun _ => lt_of_next split next
  rw [tokenAt?, found]
  simp [split, Option.filter, started]

/-- Looking up the offset ends at the token or behind it. Any way to look it up gives the same
answer, since no two tokens start at one place. -/
theorem answer_of_started {answer : Except Nat Nat}
    (answers : Sorted.Answers (stream.tokens.map (·.offset)).toArray offset answer) :
    answer = if token.offset = offset then .ok before.length else .error (before.length + 1) :=
  answers.eq_of_between whole.cover.increasing (start_of_split split) started
    fun _ => lt_of_next split next

end

/-- Behind the source there is no token, and at its end there is none either. -/
theorem tokenAt?_eq_none (whole : stream.Whole source) (behind : source.utf8ByteSize ≤ offset) :
    stream.tokenAt? offset = none := by
  rcases whole.exists_started offset with empty | ⟨before, token, after, split, started, next⟩
  · simp [tokenAt?, empty]
  · have stop := whole.stop_le (split ▸ List.mem_append_right before List.mem_cons_self)
    rw [whole.tokenAt?_of_started split started next, if_neg (by omega)]

end TokenStream.Whole

namespace Guarded

/-- Where to look for the token over an offset that has been looked up among the starts: at the
start that was found, or at the one in front of where it is missing. In front of the first there is
none. -/
def indexOf : Except Nat Nat → Guarded (Option Nat)
  | .ok index => some (some index)
  | .error 0 => some none
  | .error place => (sub place 1).map some

/-- The token over a byte offset, with its end as a sum of counts. How the starts are searched is
left open. -/
def tokenAt (search : Array Nat → Nat → Except Nat Nat) (stream : TokenStream) (offset : Nat) :
    Guarded (Option Token) := do
  let some index ← indexOf (search (stream.tokens.map (·.offset)).toArray offset) | return none
  let some token := stream.tokens[index]? | return none
  let stop ← add token.offset token.text.utf8ByteSize
  return if offset < stop then some token else none

variable {stream : TokenStream} {source : String} {search : Array Nat → Nat → Except Nat Nat}

/-- In a whole stream no index falls below zero and no sum leaves a word. The source has to fit into
a word; the offset need not. -/
theorem tokenAt_eq (whole : stream.Whole source) (size : source.utf8ByteSize < wordLimit)
    (searches : Sorted.Searches search) (offset : Nat) :
    tokenAt search stream offset = some (stream.tokenAt? offset) := by
  have answers : Sorted.Answers (stream.tokens.map (·.offset)).toArray offset _ :=
    searches offset whole.cover.increasing
  rcases whole.exists_started offset with empty | ⟨before, token, after, split, started, next⟩
  · rw [empty] at answers
    rw [tokenAt, TokenStream.tokenAt?, empty]
    cases answer : search (([] : List Token).map (·.offset)).toArray offset with
    | ok index =>
      rw [answer] at answers
      simp [Sorted.Answers] at answers
    | error place =>
      rw [answer] at answers
      obtain rfl : place = 0 := Nat.le_zero.mp answers.1
      rfl
  · have stop := whole.stop_le (split ▸ List.mem_append_right before List.mem_cons_self)
    have index : indexOf (search (stream.tokens.map (·.offset)).toArray offset) =
        some (some before.length) := by
      rw [whole.answer_of_started split started next answers]
      split
      · rfl
      · rfl
    have atIndex : stream.tokens[before.length]? = some token := by simp [split]
    have inWord : add token.offset token.text.utf8ByteSize = some token.stop :=
      if_pos (Nat.lt_of_le_of_lt stop size)
    rw [whole.tokenAt?_of_started split started next, tokenAt, index]
    simp [atIndex, inWord]

end Guarded

namespace TokenStream

/-- Looking a byte offset up in a stream that has passed its check gives the one token over it, and
none behind the source. An offset inside a character is no exception. The search among the starts
may be any that answers rightly. -/
theorem tokenAt?_of_verified {stream : TokenStream} {source : String}
    (verified : stream.verify source = .ok ()) (offset : Nat) :
    (offset < source.utf8ByteSize → ∃ before token after,
      stream.tokens = before ++ token :: after ∧ token.Covers offset ∧
        (∀ other ∈ before ++ after, ¬other.Covers offset) ∧
        stream.tokenAt? offset = some token) ∧
    (source.utf8ByteSize ≤ offset → stream.tokenAt? offset = none) ∧
    (source.utf8ByteSize < wordLimit → ∀ search, Sorted.Searches search →
      Guarded.tokenAt search stream offset = some (stream.tokenAt? offset)) := by
  have whole := verify_eq_ok_iff.mp verified
  refine ⟨fun within => ?_, whole.tokenAt?_eq_none, fun size search searches => ?_⟩
  · obtain ⟨before, token, after, split, covers, others⟩ := whole.exists_covers within
    refine ⟨before, token, after, split, covers, others, ?_⟩
    rw [whole.tokenAt?_of_started split covers.1 (whole.lt_offset_of_covers split covers),
      if_pos covers.2]
  · exact Guarded.tokenAt_eq whole size searches offset

/-- An offset inside a character falls to the token that the character belongs to. -/
theorem tokenAt?_inside_character :
    let arrow : Token := ⟨.operator, "→", 2, true, none⟩
    let stream := ofTokens [⟨.identifier, "é", 0, true, none⟩, arrow,
      ⟨.identifier, "x", 5, true, none⟩]
    stream.verify "é→x" = .ok () ∧ arrow.Covers 4 ∧ stream.tokenAt? 4 = some arrow ∧
      stream.tokenAt? 6 = none ∧
      Guarded.tokenAt Sorted.search stream 4 = some (some arrow) := by
  intro arrow stream
  have verified : stream.verify "é→x" = .ok () := by decide
  obtain ⟨within, _, guarded⟩ := tokenAt?_of_verified verified 4
  obtain ⟨before, token, after, _, covers, _, found⟩ := within (by decide)
  have isArrow : stream.tokenAt? 4 = some arrow := by decide +kernel
  rw [isArrow] at found
  cases found
  have stopped := (tokenAt?_of_verified verified 6).2.1 (by decide)
  refine ⟨verified, covers, isArrow, stopped, ?_⟩
  rw [guarded (by decide) _ Sorted.searches_search, isArrow]

end TokenStream

end ProfileLexer
