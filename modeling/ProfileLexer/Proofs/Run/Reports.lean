import Mathlib.Data.List.Forall2
import ProfileLexer.Proofs.Classifier.Reports
import ProfileLexer.Proofs.Run.Classified

/-!
The tokens of a run say what the scanner has found, and only the last of them can be left open.
-/

namespace ProfileLexer

/-- A property of each lexeme and its token holds of the lexemes and the tokens of a source, side by
side. The property may speak of the rule that has bounded the lexeme. -/
theorem Profile.forall₂_tokens (profile : Profile) (preferences : ScanPreferences) (source : String)
    {holds : Bounded → Token → Prop}
    (each : ∀ piece ∈ profile.pieces 0 source.toList, holds piece (profile.token piece.lexeme)) :
    List.Forall₂ holds (profile.scanned preferences source).bounded (profile.tokens source) := by
  rw [tokens, List.forall₂_map_right_iff, scanned, List.forall₂_same]
  exact each

/-- Behind a token that ends where the source ends there is none, since a token is never empty. -/
theorem Token.Cover.eq_nil_of_stop {before after : List Token} {token : Token} {source : String}
    (cover : Cover (before ++ token :: after) source) (atEnd : token.stop = source.utf8ByteSize) :
    after = [] := by
  have tiled := cover.tiled
  rw [List.map_append, List.map_cons, Lexeme.tiled_append, List.flatMap_map, Nat.zero_add] at tiled
  have offset : token.offset = Text.byteLength (before.flatMap (·.text.toList)) := tiled.2.1
  have texts := congrArg Text.byteLength cover.texts
  rw [List.flatMap_append, List.flatMap_cons, Text.byteLength_append, Text.byteLength_append,
    Text.byteLength_toList, Text.byteLength_toList, ← offset, ← Nat.add_assoc] at texts
  have nothing : Text.byteLength (after.flatMap (·.text.toList)) = 0 := by
    rw [Token.stop] at atEnd
    omega
  cases after with
  | nil => rfl
  | cons next after =>
    have positive : 0 < next.text.utf8ByteSize := cover.nonempty (by simp)
    rw [List.flatMap_cons, Text.byteLength_append, Text.byteLength_toList] at nothing
    omega

/-- Where nothing is delimited by blanks, the tokens of a run say of strings, comments and literals
what the scanner has found, and one that is left open is the last and ends with the source. With a
blank among the delimiters scanner and classifier may come to different ends; no other condition is
put on the definition. -/
theorem reports_of_run {definition : Definition} {profile : Profile}
    (accepted : Profile.ofDefinition definition = .ok profile) (blankFree : definition.BlankFree)
    {config : RunConfig} (positive : config.schedule.workers ≠ some 0) {source : String} {scan : Scan}
    (scanned : (profile.scan config.scan source).result = .ok scan) (schedule : Schedule)
    (readings : Readings) :
    ∃ result, (tokenizeWith profile config (.classifying profile config.classify) schedule readings
        source).result = .ok result ∧
      List.Forall₂ (fun bounded token => ∃ passed rest, source.toList = passed ++ rest ∧
          token.lexeme = bounded.lexeme ∧ token.offset = Text.byteLength passed ∧
          profile.Reports rest token bounded.rule) scan.bounded result.stream.tokens ∧
      ∀ before token after, result.stream.tokens = before ++ token :: after →
        token.issue = some .unterminatedLiteral →
        after = [] ∧ token.stop = source.utf8ByteSize := by
  have wellFormed := Profile.wellFormed_of_accepted accepted
  have scannable := profile.scannable_of_scan scanned
  rw [profile.scan_of_scannable config.scan scannable, Except.ok.injEq] at scanned
  subst scanned
  obtain ⟨_, _, _, ran⟩ := tokenizeWith_classifying profile config.classify schedule readings
    positive scannable
  have each : ∀ piece ∈ profile.pieces 0 source.toList, ∃ passed rest,
      source.toList = passed ++ rest ∧ (profile.token piece.lexeme).lexeme = piece.lexeme ∧
        (profile.token piece.lexeme).offset = Text.byteLength passed ∧
        profile.Reports rest (profile.token piece.lexeme) piece.rule := by
    intro piece member
    obtain ⟨passed, rest, n, split, _, place, own, bounds⟩ :=
      Profile.exists_bounds_of_mem_pieces member
    refine ⟨passed, rest, split, ?_, ?_, Profile.reports_of_bounds accepted blankFree bounds own⟩
    · rw [Token.lexeme, Profile.token_text, Profile.token_offset]
    · rw [Profile.token_offset, place, Nat.zero_add]
  refine ⟨_, ran, profile.forall₂_tokens config.scan source each, ?_⟩
  intro before token after split unterminated
  have cover := profile.cover_tokens source
  have member : token ∈ profile.tokens source := by
    have split : profile.tokens source = before ++ token :: after := split
    rw [split]
    simp
  obtain ⟨piece, inPieces, rfl⟩ := List.mem_map.mp member
  obtain ⟨passed, rest, texts, _, offset, reports⟩ := each piece inPieces
  have stop : (profile.token piece.lexeme).stop = source.utf8ByteSize := by
    rw [Token.stop, offset, ← Text.byteLength_toList, reports.text_eq wellFormed unterminated,
      ← Text.byteLength_append, ← texts, Text.byteLength_toList]
  have split : profile.tokens source = before ++ profile.token piece.lexeme :: after := split
  rw [split] at cover
  exact ⟨cover.eq_nil_of_stop stop, stop⟩

/-- A string, literals, comments of both sorts, and one with a comment in it that is left open. -/
theorem reports_of_run_with_open_comment :
    let definition := { Definition.ofId "forms" with
      quotes := "\""
      lineComment := some "//"
      blockComment := some ⟨"/*", "*/", true⟩
      literals := [.boolean ["#t"], .quotedSymbol '\''] }
    let config := ((RunConfig.ofSettings (Settings.ofEnvironment []) ⟨4, 2⟩).withWorkers 2).alwaysParallel
    let source := "\"a\"#t//c\n'd/*/*e*/"
    ∃ profile result, Profile.ofDefinition definition = .ok profile ∧ definition.BlankFree ∧
      (tokenizeWith profile config (.classifying profile config.classify) .inOrder default
        source).result = .ok result ∧
      result.stream.tokens.map (fun token => (token.kind, token.valid)) =
        [(.string, true), (.boolean, true), (.comment, true), (.whitespace, true), (.symbol, true),
          (.comment, false)] ∧
      ∃ before token, result.stream.tokens = before ++ [token] ∧
        token.issue = some .unterminatedLiteral ∧ token.stop = source.utf8ByteSize := by
  intro definition config source
  let profile := Profile.build definition
  have accepted : Profile.ofDefinition definition = .ok profile := by
    have sound : definition.problem? = none := by decide
    rw [Profile.ofDefinition, sound]
  have blankFree : definition.BlankFree := by decide
  have positive : config.schedule.workers ≠ some 0 := by decide
  have scannable : profile.Scannable source :=
    ⟨by decide, Nat.le_trans (profile.length_pieces_le 0 _) (by decide)⟩
  obtain ⟨result, ran, _, last⟩ := reports_of_run accepted blankFree positive
    (profile.scan_of_scannable config.scan scannable) .inOrder default
  obtain ⟨_, _, _, again⟩ := tokenizeWith_classifying profile config.classify .inOrder default
    positive scannable
  have tokens : result.stream.tokens = profile.tokens source := by
    rw [again] at ran
    cases ran
    rfl
  have split : profile.tokens source = (profile.tokens source).take 5 ++
      [.invalid .comment ⟨"/*/*e*/", 11⟩ .unterminatedLiteral] := by decide +kernel
  rw [← tokens] at split
  refine ⟨profile, result, accepted, blankFree, ran, ?_, _, _, split, rfl, (last _ _ _ split rfl).2⟩
  rw [tokens]
  decide +kernel

end ProfileLexer
