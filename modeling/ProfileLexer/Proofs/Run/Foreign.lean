import ProfileLexer.Proofs.Classifier.Foreign
import ProfileLexer.Proofs.Run.Reports

/-!
Characters outside the alphabet in the tokens of a run.
-/

namespace ProfileLexer

/-- A foreign character that no string, comment, literal or number has taken is a token by itself,
which says so unless the fold of letter case makes a reserved word of the character. The fold is the
only way out, and whether it is taken can be read off the tables of the profile. -/
theorem foreign_of_run {definition : Definition} {profile : Profile}
    (accepted : Profile.ofDefinition definition = .ok profile) {config : RunConfig}
    (positive : config.schedule.workers ≠ some 0) {source : String} {scan : Scan}
    (scanned : (profile.scan config.scan source).result = .ok scan) (schedule : Schedule)
    (readings : Readings) :
    ∃ result, (tokenizeWith profile config (.classifying profile config.classify) schedule readings
        source).result = .ok result ∧
      List.Forall₂ (fun bounded token => token.lexeme = bounded.lexeme ∧
          (bounded.rule.admitsForeign = false → ∀ c ∈ bounded.lexeme.text.toList,
            profile.inAlphabet c = false → bounded.rule = .fallback ∧ profile.Discloses c token))
        scan.bounded result.stream.tokens := by
  have scannable := profile.scannable_of_scan scanned
  rw [profile.scan_of_scannable config.scan scannable, Except.ok.injEq] at scanned
  subst scanned
  obtain ⟨_, _, _, ran⟩ := tokenizeWith_classifying profile config.classify schedule readings
    positive scannable
  refine ⟨_, ran, profile.forall₂_tokens config.scan source fun piece member => ?_⟩
  obtain ⟨_, rest, n, _, _, _, own, bounds⟩ := Profile.exists_bounds_of_mem_pieces member
  refine ⟨by rw [Token.lexeme, Profile.token_text, Profile.token_offset], ?_⟩
  exact fun strict _ => Profile.discloses_of_bounds accepted bounds strict own

/-- A language whose one keyword is a letter in either case. Its alphabet has that letter in both
cases, and no other character with the same upper case. -/
def Definition.folded : Definition :=
  { ofId "folded" with caseRule := .insensitive, keywords := ["s"] }

theorem Definition.ofDefinition_folded :
    Profile.ofDefinition folded = .ok (Profile.build folded) := by
  have sound : folded.problem? = none := by decide
  rw [Profile.ofDefinition, sound]

/-- The upper case of a long s is the keyword, that of a plus sign is nothing. -/
theorem foreign_of_run_with_long_s :
    let profile := Profile.build .folded
    let config := ((RunConfig.ofSettings (Settings.ofEnvironment []) ⟨4, 2⟩).withWorkers 2).alwaysParallel
    let source := "aſ+"
    ∃ scan result, Profile.ofDefinition .folded = .ok profile ∧
      (profile.scan config.scan source).result = .ok scan ∧
      (tokenizeWith profile config (.classifying profile config.classify) .inOrder default
        source).result = .ok result ∧
      scan.bounded = [⟨.identifier, ⟨"a", 0⟩⟩, ⟨.fallback, ⟨"ſ", 1⟩⟩, ⟨.fallback, ⟨"+", 3⟩⟩] ∧
      ∃ letter folded plus, result.stream.tokens = [letter, folded, plus] ∧
        profile.Discloses 'ſ' folded ∧ folded.kind = .keyword ∧ folded.valid = true ∧
        profile.Discloses '+' plus ∧ plus.issue = some .invalidCharacter := by
  intro profile config source
  have positive : config.schedule.workers ≠ some 0 := by decide
  have scannable : profile.Scannable source :=
    ⟨by decide, Nat.le_trans (profile.length_pieces_le 0 _) (by decide)⟩
  have scanned := profile.scan_of_scannable config.scan scannable
  obtain ⟨result, ran, disclosed⟩ :=
    foreign_of_run Definition.ofDefinition_folded positive scanned .inOrder default
  have bounded : (profile.scanned config.scan source).bounded =
      [⟨.identifier, ⟨"a", 0⟩⟩, ⟨.fallback, ⟨"ſ", 1⟩⟩, ⟨.fallback, ⟨"+", 3⟩⟩] := by decide +kernel
  refine ⟨_, result, Definition.ofDefinition_folded, scanned, ran, bounded, ?_⟩
  rw [bounded] at disclosed
  obtain ⟨letter, _, _, behindLetter, tokens⟩ := List.forall₂_cons_left_iff.mp disclosed
  obtain ⟨folded, _, ⟨_, ofFolded⟩, behindFolded, rfl⟩ := List.forall₂_cons_left_iff.mp behindLetter
  obtain ⟨plus, _, ⟨_, ofPlus⟩, behindPlus, rfl⟩ := List.forall₂_cons_left_iff.mp behindFolded
  rw [List.forall₂_nil_left_iff.mp behindPlus] at tokens
  have ofFolded := (ofFolded rfl 'ſ' (by decide) (by decide +kernel)).2
  have ofPlus := (ofPlus rfl '+' (by decide) (by decide +kernel)).2
  obtain ⟨_, kind, valid, _⟩ := ofFolded.folded .keyword (by decide +kernel)
  obtain ⟨_, _, issue⟩ := ofPlus.reported (by decide +kernel)
  exact ⟨letter, folded, plus, tokens, ofFolded, kind, valid, ofPlus, issue⟩

/-- A long s is a valid keyword of a language that does not know the character, though the rule for
what is unknown has bounded it and the automaton rejects it. -/
theorem keyword_outside_alphabet :
    let profile := Profile.build .folded
    let config := ((RunConfig.ofSettings (Settings.ofEnvironment []) ⟨4, 2⟩).withWorkers 2).alwaysParallel
    ∃ scan result, Profile.ofDefinition .folded = .ok profile ∧
      (profile.scan config.scan "ſ").result = .ok scan ∧
      (tokenizeWith profile config (.classifying profile config.classify) .inOrder default
        "ſ").result = .ok result ∧
      scan.bounded = [⟨.fallback, ⟨"ſ", 0⟩⟩] ∧ profile.inAlphabet 'ſ' = false ∧
      result.stream.tokens = [.ofLexeme .keyword ⟨"ſ", 0⟩] ∧
      ((Machine.ofProfile profile).classify ['ſ']).1 = none := by
  intro profile config
  have positive : config.schedule.workers ≠ some 0 := by decide
  have scannable : profile.Scannable "ſ" :=
    ⟨by decide, Nat.le_trans (profile.length_pieces_le 0 _) (by decide)⟩
  obtain ⟨_, _, _, ran⟩ := tokenizeWith_classifying profile config.classify .inOrder default
    positive scannable
  have bounded : profile.pieces 0 ['ſ'] = [⟨.fallback, ⟨"ſ", 0⟩⟩] := by decide +kernel
  have foreign : profile.inAlphabet 'ſ' = false := by decide +kernel
  have tokens : profile.tokens "ſ" = [.ofLexeme .keyword ⟨"ſ", 0⟩] := by decide +kernel
  have rejected : ((Machine.ofProfile profile).classify ['ſ']).1 = none := by decide +kernel
  exact ⟨_, _, Definition.ofDefinition_folded, profile.scan_of_scannable config.scan scannable, ran,
    bounded, foreign, tokens, rejected⟩

end ProfileLexer
