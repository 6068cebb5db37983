import Mathlib.Data.List.Induction
import ProfileLexer.Proofs.Guarded.Basic
import ProfileLexer.Proofs.Token.Tiling
import ProfileLexer.Word

/-!
The check of a stream is exact. It passes the streams of a source and no others, and what it reports
is the first token that does not keep to the source, or the end of the tokens when all of them do.
-/

namespace ProfileLexer

namespace Token

def width (tokens : List Token) : Nat :=
  (tokens.map (·.text.utf8ByteSize)).sum

theorem width_concat (tokens : List Token) (token : Token) :
    width (tokens ++ [token]) = width tokens + token.text.utf8ByteSize := by
  simp [width]

theorem byteLength_texts (tokens : List Token) :
    Text.byteLength (tokens.flatMap (·.text.toList)) = width tokens := by
  induction tokens using List.reverseRecOn with
  | nil => rfl
  | append_singleton tokens token ih =>
    rw [List.flatMap_append, List.flatMap_singleton, Text.byteLength_append, ih,
      Text.byteLength_toList, width_concat]

/-- A token that keeps to a source behind tokens that take up `reached` bytes: it is not empty, it
starts there, and the source has its text at its place. The tokens in front need not keep to it. -/
structure Fits (source : List Char) (reached : Nat) (token : Token) : Prop where
  nonempty : token.text ≠ ""
  offset : token.offset = reached
  text : Text.slice? source token.offset token.stop = some token.text.toList

/-- Tokens that keep to a source, each behind those before it. They need not take up all of it. -/
def Fit (source : List Char) (tokens : List Token) : Prop :=
  ∀ before token after, tokens = before ++ token :: after → token.Fits source (width before)

end Token

/-- Tokens that are not empty, lie end to end from the start on, and are the source when put
together. The check of a stream does not occur in this. -/
structure TokenStream.Whole (stream : TokenStream) (source : String) : Prop where
  nonempty : ∀ token ∈ stream.tokens, token.text ≠ ""
  contiguous : ∀ before token after, stream.tokens = before ++ token :: after →
    token.offset = Token.width before
  reconstruct : stream.reconstruct = source

namespace StreamViolation

/-- The token at an index is the first that does not keep to a source, and this is wrong with it
behind what those before it take up. Tokens behind it may be wrong as well. -/
def FirstAt (source : List Char) (tokens : List Token) (index : Nat)
    (wrong : Nat → Token → Prop) : Prop :=
  ∃ before token after, tokens = before ++ token :: after ∧ before.length = index ∧
    Token.Fit source before ∧ wrong (Token.width before) token

/-- What a violation says about tokens and a source. Of several things that are wrong with one
token, the first in this order is said. -/
def Holds (source : List Char) (tokens : List Token) : StreamViolation → Prop
  | emptyToken index => FirstAt source tokens index fun _ token => token.text = ""
  | gap index offset expected => FirstAt source tokens index fun reached token =>
    token.text ≠ "" ∧ token.offset = offset ∧ reached = expected ∧ offset ≠ expected
  | textMismatch index offset => FirstAt source tokens index fun reached token =>
    token.text ≠ "" ∧ token.offset = offset ∧ token.offset = reached ∧
      Text.slice? source token.offset token.stop ≠ some token.text.toList
  | truncated covered size => Token.Fit source tokens ∧ Token.width tokens = covered ∧
    Text.byteLength source = size ∧ covered < size

end StreamViolation

namespace Text

/-- What stands behind a cut is a text when the rest starts with it. -/
theorem slice?_eq_some_iff {passed rest text : List Char} {start stop : Nat}
    (atStart : start = byteLength passed) (atStop : stop = start + byteLength text) :
    slice? (passed ++ rest) start stop = some text ↔ text <+: rest := by
  subst atStart atStop
  constructor
  · intro sliced
    rw [slice?, if_pos (Nat.le_add_right _ _), charsWithin?_append, Nat.add_sub_cancel_left] at sliced
    dsimp only at sliced
    rw [Nat.zero_add, List.drop_left, Option.map_eq_some_iff] at sliced
    obtain ⟨count, _, rfl⟩ := sliced
    exact List.take_prefix count rest
  · rintro ⟨after, rfl⟩
    have sliced := slice?_append passed text after
    rwa [List.append_assoc, byteLength_append] at sliced

end Text

namespace Token

variable {source : List Char} {tokens : List Token} {token : Token}

theorem slice?_iff {passed rest : List Char} (offset : token.offset = Text.byteLength passed) :
    Text.slice? (passed ++ rest) token.offset token.stop = some token.text.toList ↔
      token.text.toList <+: rest :=
  Text.slice?_eq_some_iff offset (by rw [Text.byteLength_toList]; rfl)

/-- Tokens keep to a source when those before the last do, and the last keeps to it behind them. -/
theorem fit_concat :
    Fit source (tokens ++ [token]) ↔ Fit source tokens ∧ token.Fits source (width tokens) := by
  constructor
  · refine fun fit => ⟨?_, fit tokens token [] rfl⟩
    rintro before other after rfl
    exact fit before other (after ++ [token]) (by simp)
  · rintro ⟨fit, fits⟩ before other after split
    cases after using List.reverseRecOn with
    | nil =>
      obtain ⟨rfl, same⟩ := List.append_inj' split rfl
      cases same
      exact fits
    | append_singleton after last =>
      rw [← List.cons_append, ← List.append_assoc] at split
      exact fit before other after (List.append_inj' split rfl).1

/-- Tokens that keep to a source are a first part of it, when their texts are put together. -/
theorem Fit.exists_rest (fit : Fit source tokens) :
    ∃ rest, source = tokens.flatMap (·.text.toList) ++ rest := by
  induction tokens using List.reverseRecOn with
  | nil => exact ⟨source, rfl⟩
  | append_singleton tokens token ih =>
    obtain ⟨before, last⟩ := fit_concat.mp fit
    obtain ⟨rest, rfl⟩ := ih before
    obtain ⟨left, rfl⟩ := (slice?_iff (last.offset.trans (byteLength_texts tokens).symm)).mp last.text
    exact ⟨left, by simp⟩

/-- Among tokens that do not all keep to a source there is a first that does not. The induction
takes tokens from the end. -/
theorem exists_first_of_not_fit (wrong : ¬Fit source tokens) :
    ∃ before token after, tokens = before ++ token :: after ∧ Fit source before ∧
      ¬token.Fits source (width before) := by
  induction tokens using List.reverseRecOn with
  | nil => exact absurd (by simp [Fit]) wrong
  | append_singleton tokens token ih =>
    by_cases fit : Fit source tokens
    · exact ⟨tokens, token, [], rfl, fit, fun fits => wrong (fit_concat.mpr ⟨fit, fits⟩)⟩
    · obtain ⟨before, first, after, rfl, fits, misfit⟩ := ih fit
      exact ⟨before, first, after ++ [token], by simp, fits, misfit⟩

end Token

namespace TokenStream

section

variable {tokens : List Token} {token : Token} {rest : List Char}

theorem isEmpty_text (nonempty : token.text ≠ "") : token.text.toList.isEmpty = false := by
  rw [List.isEmpty_eq_false_iff]
  exact fun empty => nonempty (String.toList_eq_nil_iff.mp empty)

/-- The check passes over tokens that keep to the source, with whatever comes behind them. -/
theorem verifyFrom_append (after : List Token)
    (fit : Token.Fit (tokens.flatMap (·.text.toList) ++ rest) tokens) :
    verifyFrom 0 0 (tokens.flatMap (·.text.toList) ++ rest) (tokens ++ after) =
      verifyFrom tokens.length (Token.width tokens) rest after := by
  induction tokens using List.reverseRecOn generalizing rest after with
  | nil => rfl
  | append_singleton tokens token ih =>
    have texts : (tokens ++ [token]).flatMap (·.text.toList) ++ rest =
        tokens.flatMap (·.text.toList) ++ (token.text.toList ++ rest) := by simp
    rw [texts] at fit ⊢
    obtain ⟨before, last⟩ := Token.fit_concat.mp fit
    have front : token.text.toList.isPrefixOf (token.text.toList ++ rest) = true :=
      List.isPrefixOf_iff_prefix.mpr (List.prefix_append _ _)
    have reached : token.stop = Token.width (tokens ++ [token]) := by
      rw [Token.stop, last.offset, Token.width_concat]
    rw [List.append_assoc, List.singleton_append, ih _ before]
    simp only [verifyFrom, isEmpty_text last.nonempty, last.offset, front, reached, ne_eq,
      not_true_eq_false, if_true, Bool.false_eq_true, if_false, List.drop_left, List.length_append,
      List.length_singleton]

end

variable {stream : TokenStream} {source : String} {violation : StreamViolation}

/-- The check comes to the end of tokens that keep to the source. Whether something of the source is
left there is decided last. -/
theorem verify_of_fit {rest : List Char} (fit : Token.Fit source.toList stream.tokens)
    (texts : source.toList = stream.tokens.flatMap (·.text.toList) ++ rest) :
    stream.verify source =
      verifyFrom stream.tokens.length (Token.width stream.tokens) rest [] := by
  rw [texts] at fit
  rw [verify, texts, ← verifyFrom_append [] fit, List.append_nil]

/-- The check comes to the first token that does not keep to the source. What is behind that token
is not looked at. -/
theorem verify_of_firstAt {index : Nat} {wrong : Nat → Token → Prop}
    (first : StreamViolation.FirstAt source.toList stream.tokens index wrong) :
    ∃ passed token rest after, source.toList = passed ++ rest ∧
      wrong (Text.byteLength passed) token ∧
      stream.verify source =
        verifyFrom index (Text.byteLength passed) rest (token :: after) := by
  obtain ⟨before, token, after, split, rfl, fit, isWrong⟩ := first
  obtain ⟨rest, texts⟩ := fit.exists_rest
  rw [← Token.byteLength_texts] at isWrong
  refine ⟨_, token, rest, after, texts, isWrong, ?_⟩
  rw [texts] at fit
  rw [verify, split, texts, verifyFrom_append _ fit, Token.byteLength_texts]

/-- The check reports every violation that holds, so no two of them hold of one stream. -/
theorem verify_of_holds (holds : violation.Holds source.toList stream.tokens) :
    stream.verify source = .error violation := by
  cases violation with
  | emptyToken index =>
    rw [StreamViolation.Holds] at holds
    obtain ⟨passed, token, rest, after, _, empty, reached⟩ := verify_of_firstAt holds
    simp [reached, verifyFrom, empty]
  | gap index offset expected =>
    rw [StreamViolation.Holds] at holds
    obtain ⟨passed, token, rest, after, _, ⟨nonempty, rfl, rfl, apart⟩, reached⟩ :=
      verify_of_firstAt holds
    simp [reached, verifyFrom, nonempty, apart]
  | textMismatch index offset =>
    rw [StreamViolation.Holds] at holds
    obtain ⟨passed, token, rest, after, texts, ⟨nonempty, rfl, offset, differs⟩, reached⟩ :=
      verify_of_firstAt holds
    rw [texts, ne_eq, Token.slice?_iff offset, ← List.isPrefixOf_iff_prefix] at differs
    simp [reached, verifyFrom, nonempty, offset, differs]
  | truncated covered size =>
    obtain ⟨fit, rfl, rfl, short⟩ := holds
    obtain ⟨rest, texts⟩ := fit.exists_rest
    have passed := verify_of_fit fit texts
    rw [texts, Text.byteLength_append, Token.byteLength_texts] at short ⊢
    have nonempty : rest ≠ [] := by
      rintro rfl
      simp at short
    rw [passed, verifyFrom, if_neg (by simpa using nonempty)]

/-- Whole streams are those whose tokens keep to the source up to its end. The first says what a
stream is, the second how it is checked. -/
theorem whole_iff :
    stream.Whole source ↔ Token.Fit source.toList stream.tokens ∧
      stream.tokens.flatMap (·.text.toList) = source.toList := by
  have reconstruct : stream.reconstruct = source ↔
      stream.tokens.flatMap (·.text.toList) = source.toList := by
    rw [← String.toList_inj, TokenStream.reconstruct, String.toList_join, List.flatMap_map]
  constructor
  · rintro ⟨nonempty, contiguous, same⟩
    rw [reconstruct] at same
    refine ⟨fun before token after split => ?_, same⟩
    have offset := contiguous before token after split
    rw [split] at same nonempty
    refine ⟨nonempty token (by simp), offset, ?_⟩
    rw [← same, List.flatMap_append, List.flatMap_cons,
      Token.slice?_iff (offset.trans (Token.byteLength_texts before).symm)]
    exact List.prefix_append _ _
  · rintro ⟨fit, same⟩
    refine ⟨fun token member => ?_, fun before token after split => ?_, reconstruct.mpr same⟩
    · obtain ⟨before, after, split⟩ := List.append_of_mem member
      exact (fit before token after split).nonempty
    · exact (fit before token after split).offset

/-- A stream that is not whole has a violation: that of its first bad token, or that it ends too
early. -/
theorem exists_holds_of_not_whole (broken : ¬stream.Whole source) :
    ∃ violation : StreamViolation, violation.Holds source.toList stream.tokens := by
  rw [whole_iff] at broken
  by_cases fit : Token.Fit source.toList stream.tokens
  · obtain ⟨rest, texts⟩ := fit.exists_rest
    have short : Token.width stream.tokens < Text.byteLength source.toList := by
      rw [texts, Text.byteLength_append, Token.byteLength_texts, Nat.lt_add_right_iff_pos]
      refine Text.byteLength_pos fun empty => broken ⟨fit, ?_⟩
      rw [texts, empty, List.append_nil]
    exact ⟨.truncated _ _, fit, rfl, rfl, short⟩
  · obtain ⟨before, token, after, split, fits, misfit⟩ := Token.exists_first_of_not_fit fit
    by_cases empty : token.text = ""
    · exact ⟨.emptyToken _, before, token, after, split, rfl, fits, empty⟩
    by_cases offset : token.offset = Token.width before
    · refine ⟨.textMismatch _ _, before, token, after, split, rfl, fits, empty, rfl, offset, ?_⟩
      exact fun text => misfit ⟨empty, offset, text⟩
    · exact ⟨.gap _ _ _, before, token, after, split, rfl, fits, empty, rfl, rfl, offset⟩

/-- The check passes a stream when it is whole, and only then. Nothing is assumed of the stream. -/
theorem verify_eq_ok_iff : stream.verify source = .ok () ↔ stream.Whole source := by
  constructor
  · intro passed
    by_contra broken
    obtain ⟨violation, holds⟩ := exists_holds_of_not_whole broken
    rw [verify_of_holds holds] at passed
    cases passed
  · intro whole
    obtain ⟨fit, same⟩ := whole_iff.mp whole
    rw [verify_of_fit fit (by rw [same, List.append_nil])]
    rfl

/-- The check reports the violation that holds, and nothing that does not hold. -/
theorem verify_eq_error_iff :
    stream.verify source = .error violation ↔ violation.Holds source.toList stream.tokens := by
  refine ⟨fun failed => ?_, verify_of_holds⟩
  have broken : ¬stream.Whole source := by
    intro whole
    rw [verify_eq_ok_iff.mpr whole] at failed
    cases failed
  obtain ⟨other, holds⟩ := exists_holds_of_not_whole broken
  rw [verify_of_holds holds] at failed
  cases failed
  exact holds

end TokenStream

namespace Guarded

/-- A sum of counts that has to fit into a word. -/
def add (first second : Nat) : Guarded Nat :=
  if first + second < wordLimit then some (first + second) else none

/-- The check of tokens, with the source cut at bytes and every sum kept in a word. -/
def verifyFrom (source : List Char) (index expected : Nat) :
    List Token → Guarded (Except StreamViolation Unit)
  | [] =>
    some (if expected ≠ Text.byteLength source then
      .error (.truncated expected (Text.byteLength source)) else .ok ())
  | token :: tokens =>
    if token.text.utf8ByteSize = 0 then some (.error (.emptyToken index))
    else if token.offset ≠ expected then some (.error (.gap index token.offset expected))
    else do
      let stop ← add token.offset token.text.utf8ByteSize
      if Text.slice? source token.offset stop ≠ some token.text.toList then
        return .error (.textMismatch index token.offset)
      else verifyFrom source (index + 1) stop tokens

/-- No sum in the check of a stream leaves a word, and no cut falls inside a character, as long as
the source and the texts are no longer than texts can be. Offsets may be any: one that is wrong is
reported before anything is added to it. -/
theorem verifyFrom_eq {passed rest : List Char} {tokens : List Token} (index : Nat)
    (size : Text.byteLength (passed ++ rest) < signedLimit)
    (sizes : ∀ token ∈ tokens, token.text.utf8ByteSize < signedLimit) :
    verifyFrom (passed ++ rest) index (Text.byteLength passed) tokens =
      some (TokenStream.verifyFrom index (Text.byteLength passed) rest tokens) := by
  induction tokens generalizing passed rest index with
  | nil =>
    rw [verifyFrom, TokenStream.verifyFrom, Text.byteLength_append]
    cases rest with
    | nil => simp
    | cons c rest =>
      have := c.utf8Size_pos
      rw [if_pos (by simp only [Text.byteLength_cons]; omega), if_neg (by simp)]
  | cons token tokens ih =>
    have empty : token.text.utf8ByteSize = 0 ↔ token.text.toList.isEmpty = true := by
      rw [← Text.byteLength_toList, Text.byteLength_eq_zero_iff, List.isEmpty_iff]
    rw [verifyFrom, TokenStream.verifyFrom]
    by_cases isEmpty : token.text.utf8ByteSize = 0
    · rw [if_pos isEmpty, if_pos (empty.mp isEmpty)]
    rw [if_neg isEmpty, if_neg (mt empty.mpr isEmpty)]
    by_cases offset : token.offset = Text.byteLength passed
    · have atEnd : token.offset + token.text.utf8ByteSize < wordLimit := by
        have := sizes token List.mem_cons_self
        rw [Text.byteLength_append] at size
        have : signedLimit + signedLimit = wordLimit := rfl
        omega
      have cut : Text.slice? (passed ++ rest) token.offset (token.offset + token.text.utf8ByteSize) =
          some token.text.toList ↔ token.text.toList <+: rest := Token.slice?_iff offset
      rw [if_neg (not_not_intro offset), if_neg (not_not_intro offset), add, if_pos atEnd,
        Option.bind_eq_bind, Option.bind_some]
      by_cases front : token.text.toList <+: rest
      · rw [if_neg (not_not_intro (cut.mpr front)), if_pos (List.isPrefixOf_iff_prefix.mpr front)]
        obtain ⟨left, rfl⟩ := front
        have reached : token.stop = Text.byteLength (passed ++ token.text.toList) := by
          rw [Token.stop, offset, Text.byteLength_append, Text.byteLength_toList]
        rw [List.drop_left, ← Token.stop, reached, ← List.append_assoc]
        rw [← List.append_assoc] at size
        exact ih (index + 1) size fun token member => sizes token (List.mem_cons_of_mem _ member)
      · rw [if_pos (mt cut.mp front), if_neg (mt List.isPrefixOf_iff_prefix.mp front)]
        rfl
    · rw [if_pos offset, if_pos offset]

end Guarded

end ProfileLexer
