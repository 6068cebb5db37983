import Mathlib.Algebra.GroupWithZero.Nat
import ProfileLexer.Proofs.Scan.Cut
import ProfileLexer.Token.Stream

/-!
Tokens that lie end to end over a source: their offsets are running sums, their texts are the
source, and they pass the check of a stream.
-/

namespace ProfileLexer

def Token.lexeme (token : Token) : Lexeme :=
  ⟨token.text, token.offset⟩

/-- Tokens that are not empty and lie end to end over a source. Nothing is said of what they are. -/
structure Token.Cover (tokens : List Token) (source : String) : Prop where
  tiled : Lexeme.Tiled 0 (tokens.map Token.lexeme)
  texts : tokens.flatMap (·.text.toList) = source.toList

/-- Lexemes that are not empty and lie end to end over a source, whatever has bounded them. -/
structure Lexeme.Cover (lexemes : List Lexeme) (source : String) : Prop where
  tiled : Tiled 0 lexemes
  texts : lexemes.flatMap (·.text.toList) = source.toList

theorem Token.cover_of_lexemes {tokens : List Token} {source : String}
    (cover : Lexeme.Cover (tokens.map Token.lexeme) source) : Token.Cover tokens source where
  tiled := cover.tiled
  texts := by
    rw [← cover.texts, List.flatMap_map]
    rfl

theorem Lexeme.Cover.size_le {lexemes : List Lexeme} {source : String} (cover : Cover lexemes source)
    {lexeme : Lexeme} (member : lexeme ∈ lexemes) :
    lexeme.text.utf8ByteSize ≤ source.utf8ByteSize := by
  obtain ⟨earlier, later, rfl⟩ := List.append_of_mem member
  have texts := congrArg Text.byteLength cover.texts
  rw [List.flatMap_append, List.flatMap_cons, Text.byteLength_append, Text.byteLength_append,
    Text.byteLength_toList, Text.byteLength_toList] at texts
  omega

/-- The lexemes of a scan lie end to end over the source, also over one beyond the limits of
scans. -/
theorem Profile.cover_scanned (profile : Profile) (preferences : ScanPreferences) (source : String) :
    Lexeme.Cover (profile.scanned preferences source).lexemes source where
  tiled := profile.tiled_pieces 0 source.toList
  texts := by
    rw [Scan.lexemes, scanned, List.flatMap_map]
    exact profile.flatMap_pieces 0 source.toList

namespace Lexeme

/-- Lexemes lie end to end exactly when a first part does, and the others lie behind its text. -/
theorem tiled_append {start : Nat} {lexemes later : List Lexeme} :
    Tiled start (lexemes ++ later) ↔ Tiled start lexemes ∧
      Tiled (start + Text.byteLength (lexemes.flatMap (·.text.toList))) later := by
  induction lexemes generalizing start with
  | nil => simp [Tiled]
  | cons first lexemes ih =>
    rw [List.cons_append, Tiled, Tiled, ih, List.flatMap_cons, Text.byteLength_append,
      Text.byteLength_toList, and_assoc, and_assoc]
    refine and_congr_right fun atStart => ?_
    rw [stop, atStart, Nat.add_assoc]

theorem Tiled.size_pos {start : Nat} {lexemes : List Lexeme} (tiled : Tiled start lexemes)
    {lexeme : Lexeme} (member : lexeme ∈ lexemes) : 0 < lexeme.text.utf8ByteSize := by
  induction lexemes generalizing start with
  | nil => cases member
  | cons first lexemes ih =>
    obtain ⟨_, nonempty, rest⟩ := tiled
    rcases List.mem_cons.mp member with rfl | later
    · rw [← Text.byteLength_toList]
      exact Text.byteLength_pos nonempty
    · exact ih rest later

/-- Every offset is the sum of the lengths before it. -/
theorem Tiled.offset_eq {start : Nat} {lexemes : List Lexeme} (tiled : Tiled start lexemes) (i : Nat)
    (within : i < lexemes.length) :
    lexemes[i].offset = start + ((lexemes.take i).map (·.text.utf8ByteSize)).sum := by
  induction lexemes generalizing start i with
  | nil => cases within
  | cons first lexemes ih =>
    obtain ⟨atStart, _, rest⟩ := tiled
    cases i with
    | zero => exact atStart
    | succ i =>
      rw [List.length_cons, Nat.add_lt_add_iff_right] at within
      rw [List.getElem_cons_succ, ih rest i within, stop, atStart, List.take_succ_cons,
        List.map_cons, List.sum_cons, Nat.add_assoc]

theorem Tiled.le_offset {start : Nat} {lexemes : List Lexeme} (tiled : Tiled start lexemes)
    {lexeme : Lexeme} (member : lexeme ∈ lexemes) : start ≤ lexeme.offset := by
  obtain ⟨i, within, rfl⟩ := List.mem_iff_getElem.mp member
  rw [tiled.offset_eq i within]
  omega

theorem Tiled.increasing {start : Nat} {lexemes : List Lexeme} (tiled : Tiled start lexemes) :
    (lexemes.map (·.offset)).Pairwise (· < ·) := by
  induction lexemes generalizing start with
  | nil => exact List.Pairwise.nil
  | cons first lexemes ih =>
    have positive := tiled.size_pos List.mem_cons_self
    obtain ⟨_, _, rest⟩ := tiled
    refine List.pairwise_cons.mpr ⟨?_, ih rest⟩
    intro offset member
    obtain ⟨later, inRest, rfl⟩ := List.mem_map.mp member
    have behind := rest.le_offset inRest
    have apart : first.offset < later.offset := by
      rw [stop] at behind
      omega
    exact apart

end Lexeme

namespace TokenStream

/-- The check of a stream passes tokens that lie end to end over the rest of the source. The index
does not matter, as it is only reported. -/
theorem verifyFrom_of_tiled {tokens : List Token} (index : Nat) {expected : Nat} {rest : List Char}
    (tiled : Lexeme.Tiled expected (tokens.map Token.lexeme))
    (texts : tokens.flatMap (·.text.toList) = rest) :
    verifyFrom index expected rest tokens = .ok () := by
  induction tokens generalizing index expected rest with
  | nil =>
    rw [← texts]
    rfl
  | cons token tokens ih =>
    obtain ⟨atStart, nonempty, tail⟩ := tiled
    have offset : token.offset = expected := atStart
    have notEmpty : token.text.toList.isEmpty = false := List.isEmpty_eq_false_iff.mpr nonempty
    rw [List.flatMap_cons] at texts
    have front : token.text.toList.isPrefixOf rest = true := by
      rw [← texts, List.isPrefixOf_iff_prefix]
      exact List.prefix_append _ _
    simp only [verifyFrom, notEmpty, offset, front, ne_eq, not_true_eq_false, if_true,
      Bool.false_eq_true, if_false]
    refine ih (index + 1) tail ?_
    rw [← texts, List.drop_left]

end TokenStream

namespace Token.Cover

variable {tokens : List Token} {source : String}

theorem verify (cover : Cover tokens source) :
    (TokenStream.ofTokens tokens).verify source = .ok () :=
  TokenStream.verifyFrom_of_tiled 0 cover.tiled cover.texts

theorem reconstruct (cover : Cover tokens source) :
    (TokenStream.ofTokens tokens).reconstruct = source := by
  apply String.toList_injective
  rw [TokenStream.reconstruct, String.toList_join, List.flatMap_map]
  exact cover.texts

/-- The place of a token in the source: its text is there, and its offset counts what is in front of
it. -/
theorem exists_around (cover : Cover tokens source) {token : Token} (member : token ∈ tokens) :
    ∃ before after, source.toList = before ++ (token.text.toList ++ after) ∧
      token.offset = Text.byteLength before := by
  obtain ⟨earlier, later, rfl⟩ := List.append_of_mem member
  have tiled := cover.tiled
  rw [List.map_append, List.map_cons, Lexeme.tiled_append, List.flatMap_map, Nat.zero_add] at tiled
  refine ⟨earlier.flatMap (·.text.toList), later.flatMap (·.text.toList), ?_, ?_⟩
  · rw [← cover.texts, List.flatMap_append, List.flatMap_cons]
  · exact tiled.2.1

theorem nonempty (cover : Cover tokens source) {token : Token} (member : token ∈ tokens) :
    0 < token.text.utf8ByteSize :=
  cover.tiled.size_pos (List.mem_map_of_mem member)

/-- The offset of every token is the sum of the lengths of the texts before it. -/
theorem offset_eq (cover : Cover tokens source) (i : Nat) (within : i < tokens.length) :
    tokens[i].offset = ((tokens.take i).map (·.text.utf8ByteSize)).sum := by
  have offset := cover.tiled.offset_eq i (by rw [List.length_map]; exact within)
  rw [List.getElem_map, Nat.zero_add, ← List.map_take, List.map_map] at offset
  exact offset

theorem increasing (cover : Cover tokens source) : (tokens.map (·.offset)).Pairwise (· < ·) := by
  have increasing := cover.tiled.increasing
  rw [List.map_map] at increasing
  exact increasing

end Token.Cover

/-- A stream of the source and of nothing else: its tokens are not empty, start where the one before
ends, and pass the check. The fields overlap; each is one way to say that nothing is lost. -/
structure TokenStream.Lossless (stream : TokenStream) (source : String) : Prop where
  reconstruct : stream.reconstruct = source
  nonempty : ∀ token ∈ stream.tokens, 0 < token.text.utf8ByteSize
  offset : ∀ (i : Nat) (within : i < stream.tokens.length),
    stream.tokens[i].offset = ((stream.tokens.take i).map (·.text.utf8ByteSize)).sum
  increasing : (stream.tokens.map (·.offset)).Pairwise (· < ·)
  verify : stream.verify source = .ok ()

theorem Token.Cover.lossless {tokens : List Token} {source : String} (cover : Cover tokens source) :
    (TokenStream.ofTokens tokens).Lossless source where
  reconstruct := cover.reconstruct
  nonempty := fun _ => cover.nonempty
  offset := cover.offset_eq
  increasing := cover.increasing
  verify := cover.verify

end ProfileLexer
