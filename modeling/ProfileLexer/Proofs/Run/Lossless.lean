import ProfileLexer.Profile.Builtin
import ProfileLexer.Proofs.Guarded.Classifier
import ProfileLexer.Proofs.Guarded.Rules
import ProfileLexer.Proofs.Run.Classified

/-!
A run over a source within the limits yields the source in tokens, and nothing in it breaks off: no
text is cut inside a character, no count falls below zero, and every loop ends.
-/

namespace ProfileLexer

/-- A profile whose rules, shapes and automaton have a result on everything they may be given, where
texts are cut at bytes, counts are taken down and loops run as long as they run. Nothing is assumed
of the lexemes: they need not come from a scan. The results are those of the rules themselves, so a
cut inside a character or a count below zero would show as a missing one. -/
structure Profile.Safe (profile : Profile) : Prop where
  claims : ∀ text rule, Guarded.claim profile text rule =
    some ((rule.claim? profile text).map fun n => Text.byteLength (text.take n))
  shapes : ∀ text shape, Guarded.judgeAs profile text shape = some (profile.judgeAs? text shape)
  /-- A step of the automaton, from a state that it can be in. -/
  steps : ∀ machine : Machine, machine.profile = profile → machine.Marked → ∀ input,
    Guarded.step machine.inBytes input =
        some ((machine.step input).1.inBytes, (machine.step input).2) ∧
      (machine.step input).1.Marked
  replays : ∀ machine : Machine, machine.profile = profile → ∀ text,
    Guarded.replay machine.inBytes text =
      some ((machine.classify text).1, (machine.classify text).2.inBytes)
  /-- A classifier of the profile, however it has been used. -/
  tokens : ∀ (classifier : Classifier) preferences, classifier.For profile preferences → ∀ lexeme,
    Guarded.classify classifier.inBytes lexeme =
      some (profile.token lexeme, (classifier.classify lexeme).2.1.machine.inBytes)

theorem Profile.WellFormed.safe {profile : Profile} (wellFormed : profile.WellFormed) :
    profile.Safe where
  claims := Guarded.claim_eq wellFormed
  shapes := Guarded.judgeAs_eq wellFormed
  steps := fun _ own marked input => Guarded.step_inBytes (own.symm ▸ wellFormed) marked input
  replays := fun _ own => Guarded.replay_inBytes (own.symm ▸ wellFormed)
  tokens := fun _ _ ready => Guarded.classify_inBytes wellFormed ready

/-- The lexemes of a source within the limits, cut at bytes. Were there more lexemes than the
limit allows, the loop would stop with an error; that it has a result at all is due to the
profile alone. -/
theorem Profile.WellFormed.cut_of_scannable {profile : Profile} (wellFormed : profile.WellFormed)
    {source : String} (scannable : profile.Scannable source) :
    Guarded.cut profile source.toList Limits.maxLexemes #[] 0 =
      some (.ok (profile.pieces 0 source.toList).toArray) := by
  have few : (#[] : Array Bounded).size + (profile.pieces 0 source.toList).length ≤
      Limits.maxLexemes := by
    rw [List.size_toArray, List.length_nil, Nat.zero_add]
    exact scannable.count
  have cut := Guarded.cut_eq wellFormed Limits.maxLexemes #[] Text.byteLength_nil source.toList
  rw [List.nil_append, profile.cut_of_length_le few, Array.empty_append] at cut
  exact cut

/-- Twice a number of workers is small where it is counted to. Only the number of lexemes is
bounded; the number of workers may be any, since more workers than lexemes are not doubled. -/
theorem ChunkPlan.compute?_of_le {total : Nat} (few : total ≤ Limits.maxLexemes)
    (workers minChunk threshold : Nat) : compute? total workers minChunk threshold =
      some (compute total workers minChunk threshold) := by
  have small : 2 * Limits.maxLexemes < wordLimit := by decide
  rw [compute?, if_neg]
  omega

/-- Under every accepted definition nothing breaks off, a source within the limits of a scan is cut
into lexemes that are not empty and lie end to end, and a run over it yields a stream of the source,
whatever its configuration and its schedule. That the run succeeds is part of what is said, and no
turn of a worker is taken to come before another. -/
theorem tokenizeWith_lossless {definition : Definition} {profile : Profile}
    (accepted : Profile.ofDefinition definition = .ok profile) {config : RunConfig}
    (positive : config.schedule.workers ≠ some 0) {source : String}
    (scannable : profile.Scannable source) (schedule : Schedule) (readings : Readings) :
    profile.Safe ∧
    (∃ scan, (profile.scan config.scan source).result = .ok scan ∧
      Guarded.cut profile source.toList Limits.maxLexemes #[] 0 = some (.ok scan.bounded.toArray) ∧
      Lexeme.Tiled 0 scan.lexemes ∧
      ∀ workers, ChunkPlan.compute? scan.lexemes.length workers config.schedule.minChunk
        config.schedule.threshold = some (.compute scan.lexemes.length workers
          config.schedule.minChunk config.schedule.threshold)) ∧
    ∃ result, (tokenizeWith profile config (.classifying profile config.classify) schedule readings
        source).result = .ok result ∧
      result.stream.Lossless source := by
  have wellFormed := Profile.wellFormed_of_accepted accepted
  refine ⟨wellFormed.safe, ⟨_, profile.scan_of_scannable config.scan scannable,
    wellFormed.cut_of_scannable scannable, profile.tiled_pieces 0 source.toList, ?_⟩, ?_⟩
  · intro workers
    have few : (profile.scanned config.scan source).lexemes.length ≤ Limits.maxLexemes := by
      rw [Scan.lexemes, List.length_map]
      exact scannable.count
    exact ChunkPlan.compute?_of_le few workers _ _
  · obtain ⟨_, _, _, ran⟩ := tokenizeWith_classifying profile config.classify schedule readings
      positive scannable
    exact ⟨_, ran, (profile.cover_tokens source).lossless⟩

/-- Markers and an operator of several bytes, comments and a list inside each other, and a literal
that the source does not close: every way in which a text is cut inside a lexeme occurs once. -/
theorem lossless_nested :
    let definition := { Definition.ofId "nested" with
      operators := ["→"]
      blockComment := some ⟨"«", "»", true⟩
      literals := [.quotedSymbol '\'', .character "#\\" ["space"]] }
    let config := ((RunConfig.ofSettings (Settings.ofEnvironment []) ⟨4, 2⟩).withWorkers 3
      |>.withPolicy .abortRun).alwaysParallel
    let source := "→«a«b»» '(x (é)) '(y #\\"
    ∃ profile result, Profile.ofDefinition definition = .ok profile ∧ profile.Safe ∧
      (tokenizeWith profile config (.classifying profile config.classify) .inOrder default
        source).result = .ok result ∧ result.stream.Lossless source := by
  intro definition config source
  have accepted : Profile.ofDefinition definition = .ok (.build definition) := by
    have sound : definition.problem? = none := by decide
    rw [Profile.ofDefinition, sound]
  have positive : config.schedule.workers ≠ some 0 := by decide
  have scannable : (Profile.build definition).Scannable source :=
    ⟨by decide, Nat.le_trans (Profile.length_pieces_le _ 0 _) (by decide)⟩
  obtain ⟨safe, _, result, ran, lossless⟩ :=
    tokenizeWith_lossless accepted positive scannable .inOrder default
  exact ⟨_, result, accepted, safe, ran, lossless⟩

end ProfileLexer
