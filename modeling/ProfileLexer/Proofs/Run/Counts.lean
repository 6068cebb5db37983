import ProfileLexer.Proofs.Classifier.Counts
import ProfileLexer.Proofs.Run.Invariance

/-!
The metrics of a run do not depend on how the run is made, as far as they say something about its
source: they are those of one classifier that is given all lexemes.
-/

namespace ProfileLexer

theorem take_flatMap_take {α β : Type} (limit : Nat) (items : α → List β) (list : List α) :
    (list.flatMap fun item => (items item).take limit).take limit =
      (list.flatMap items).take limit := by
  induction list with
  | nil => rfl
  | cons item list ih =>
    have left : limit - (items item).length ≤ limit := Nat.sub_le _ _
    rw [List.flatMap_cons, List.flatMap_cons, take_take_append, List.take_append, List.take_append,
      ← Nat.min_eq_left left, ← List.take_take, ← List.take_take, ih]

theorem Profile.foldl_add_counts (profile : Profile) (crossCheck : Bool) (chunks : List Chunk)
    (start : Tally) :
    (chunks.map fun chunk => profile.counts crossCheck chunk.lexemes).foldl Tally.add start =
      start.add (profile.counts crossCheck (chunks.flatMap Chunk.lexemes)) := by
  induction chunks generalizing start with
  | nil => exact start.add_zero.symm
  | cons chunk chunks ih =>
    rw [List.map_cons, List.foldl_cons, ih, Tally.add_assoc, ← profile.counts_append,
      List.flatMap_cons]

namespace ScheduledRun.Classifies

variable {profile : Profile} {asked : ClassifyPreferences} {lexemes : List Lexeme}
  {run : ScheduledRun}

theorem tally_eq (classifies : run.Classifies profile asked lexemes) :
    (run.reassembly.chunks.map (·.tally)).foldl Tally.add .zero =
      profile.counts asked.crossCheck lexemes := by
  obtain ⟨chunks, workers, rfl, reassembly⟩ := classifies
  have tallies : run.reassembly.chunks.map (·.tally) =
      chunks.map fun chunk => profile.counts asked.crossCheck chunk.lexemes := by
    rw [reassembly, Reassembly.ofPieces, List.map_map, List.map_map]
    exact List.map_congr_left fun chunk _ =>
      (Classifier.counts_classifyAll profile asked chunk.lexemes).1
  rw [tallies, profile.foldl_add_counts, Tally.zero_add]

theorem disagreements_eq (classifies : run.Classifies profile asked lexemes) :
    (run.reassembly.chunks.flatMap (·.disagreements)).take Limits.maxDisagreementSamples =
      (lexemes.filterMap (profile.disagreement? asked.crossCheck)).take
        Limits.maxDisagreementSamples := by
  obtain ⟨chunks, workers, rfl, reassembly⟩ := classifies
  have samples : run.reassembly.chunks.flatMap (·.disagreements) =
      chunks.flatMap fun chunk => (chunk.lexemes.filterMap
        (profile.disagreement? asked.crossCheck)).take Limits.maxDisagreementSamples := by
    rw [reassembly, Reassembly.ofPieces, List.map_map, List.flatMap_map]
    exact List.flatMap_congr fun chunk _ =>
      (Classifier.counts_classifyAll profile asked chunk.lexemes).2
  rw [samples, take_flatMap_take, List.filterMap_flatMap]

end ScheduledRun.Classifies

/-- Disagreements come in the order of the source. At most one is kept of each lexeme, at its
offset. -/
theorem Profile.increasing_disagreements (profile : Profile) (crossCheck : Bool)
    {lexemes : List Lexeme} (increasing : (lexemes.map (·.offset)).Pairwise (· < ·)) :
    ((lexemes.filterMap (profile.disagreement? crossCheck)).map (·.offset)).Pairwise (· < ·) := by
  have offset : ∀ lexeme found, profile.disagreement? crossCheck lexeme = some found →
      found.offset = lexeme.offset := by
    intro lexeme found disagreed
    rw [disagreement?] at disagreed
    split at disagreed
    · split at disagreed
      · cases disagreed
      · cases disagreed
        rfl
    · cases disagreed
  rw [List.pairwise_map] at increasing ⊢
  rw [List.pairwise_filterMap]
  refine increasing.imp fun before first disagreed second more => ?_
  rw [offset _ _ disagreed, offset _ _ more]
  exact before

/-- Metrics that say the same about a source. Times, workers and the records of chunks are left out,
since they tell how a run was made. -/
structure RunMetrics.Agree (metrics other : RunMetrics) : Prop where
  bounded : metrics.scan.bounded = other.scan.bounded
  ruleHits : metrics.scan.ruleHits = other.scan.ruleHits
  tokens : metrics.tokens = other.tokens
  invalid : metrics.invalid = other.invalid
  kinds : metrics.kinds = other.kinds
  invalidTokens : metrics.invalidTokens = other.invalidTokens
  tally : metrics.tally = other.tally
  disagreements : metrics.disagreements = other.disagreements

/-- Metrics that say of some lexemes what one classifier says that is given them all. The last three
fields do not mention that classifier: they give the same numbers by what each lexeme becomes by
itself. -/
structure RunMetrics.OfOnePass (profile : Profile) (preferences : ClassifyPreferences)
    (lexemes : List Lexeme) (metrics : RunMetrics) : Prop where
  scan : metrics.scan.lexemes = lexemes
  stream :
    let tokens := ((Classifier.ofProfile profile preferences).classifyAll lexemes).1
    metrics.tokens = tokens.length ∧ metrics.invalid = tokens.countP (!·.valid) ∧
      metrics.kinds = kindCounts tokens ∧
      metrics.invalidTokens = (tokens.filter (!·.valid)).take Limits.maxInvalidSamples
  pass :
    let after := ((Classifier.ofProfile profile preferences).classifyAll lexemes).2.1
    metrics.tally = after.tally ∧ metrics.disagreements = after.samples.toList
  total : metrics.tally.total = lexemes.length
  crossChecked : metrics.tally.crossChecked =
    if preferences.crossCheck then
      lexemes.countP fun lexeme => (profile.direct? lexeme).isSome
    else 0
  sampled :
    let all := lexemes.filterMap (profile.disagreement? preferences.crossCheck)
    metrics.tally.disagreements = all.length ∧
      metrics.disagreements = all.take (min Limits.maxDisagreementSamples all.length) ∧
      (all.map (·.offset)).Pairwise (· < ·)

/-- The metrics of a run of a crew that classifies. The source need not be within the limits; the
lexemes may be cut into chunks in any way. -/
theorem ScheduledRun.Classifies.ofOnePass {profile : Profile} {asked : ClassifyPreferences}
    {preferences : ScanPreferences} {source : String} {run : ScheduledRun}
    (classifies : run.Classifies profile asked (profile.scanned preferences source).lexemes)
    (readings : Readings) :
    (RunMetrics.collect profile.id (profile.scanned preferences source) run
      (.ofTokens (profile.tokens source)) readings).OfOnePass profile asked
        (profile.scanned preferences source).lexemes := by
  obtain ⟨tally, samples⟩ := Classifier.counts_classifyAll profile asked
    (profile.scanned preferences source).lexemes
  have tokens := Classifier.classifyAll_fst (Classifier.for_ofProfile profile asked)
    (profile.scanned preferences source).lexemes
  rw [← profile.tokens_eq] at tokens
  constructor
  · rfl
  · rw [tokens]
    exact ⟨rfl, List.countP_eq_length_filter.symm, rfl, rfl⟩
  · exact ⟨classifies.tally_eq.trans tally.symm, classifies.disagreements_eq.trans samples.symm⟩
  · exact (congrArg Tally.total classifies.tally_eq).trans (profile.total_counts _ _)
  · exact (congrArg Tally.crossChecked classifies.tally_eq).trans (profile.crossChecked_counts _ _)
  · refine ⟨(congrArg Tally.disagreements classifies.tally_eq).trans
      (profile.disagreements_counts _ _), classifies.disagreements_eq.trans ?_, ?_⟩
    · rw [← List.take_eq_take_min]
    · exact profile.increasing_disagreements _ (profile.cover_scanned preferences source).tiled.increasing

/-- What the metrics of a run say about its source depends on the source and the profile, and on
whether answers are checked. It does not depend on the plan, the policy or the schedule, and it is
what one classifier says that is given all lexemes. That both runs succeed is part of the result. -/
theorem metrics_invariant (profile : Profile) {config other : RunConfig}
    (positive : config.schedule.workers ≠ some 0) (otherPositive : other.schedule.workers ≠ some 0)
    (sameCheck : other.classify.crossCheck = config.classify.crossCheck) {source : String}
    {scan : Scan} (scanned : (profile.scan config.scan source).result = .ok scan)
    (schedule otherSchedule : Schedule) (readings otherReadings : Readings) :
    ∃ result otherResult,
      (tokenizeWith profile config (.classifying profile config.classify) schedule readings
        source).result = .ok result ∧
      (tokenizeWith profile other (.classifying profile other.classify) otherSchedule otherReadings
        source).result = .ok otherResult ∧
      result.metrics.Agree otherResult.metrics ∧
      result.metrics.OfOnePass profile config.classify scan.lexemes := by
  have scannable := profile.scannable_of_scan scanned
  rw [profile.scan_of_scannable config.scan scannable, Except.ok.injEq] at scanned
  subst scanned
  obtain ⟨run, classifies, _, ran⟩ := tokenizeWith_classifying profile config.classify schedule
    readings positive scannable
  obtain ⟨otherRun, otherClassifies, _, otherRan⟩ := tokenizeWith_classifying profile other.classify
    otherSchedule otherReadings otherPositive scannable
  refine ⟨_, _, ran, otherRan, ⟨rfl, rfl, rfl, rfl, rfl, rfl, ?_, ?_⟩, classifies.ofOnePass readings⟩
  · refine classifies.tally_eq.trans (Eq.trans ?_ otherClassifies.tally_eq.symm)
    rw [sameCheck]
    rfl
  · refine classifies.disagreements_eq.trans (Eq.trans ?_ otherClassifies.disagreements_eq.symm)
    rw [sameCheck]
    rfl

/-- Two runs with different chunks, policies and turns. A space that is an operator is one for the
direct way only, so both runs have the same two disagreements, one of them behind a cut of the
second run. -/
theorem metrics_invariant_of_disputed_spaces :
    let definition := { Definition.ofId "spaced" with operators := [" "] }
    let settings := Settings.ofEnvironment [("TURING_SCHEDULER_MIN_CHUNK", "2")]
    let config := ((RunConfig.ofSettings settings ⟨4, 2⟩).withWorkers 1).withCrossCheck true
    let other := ((config.withWorkers 2).withPolicy .degradeChunk).alwaysParallel
    let schedule : Schedule := fun _ _ => [.worker 1, .collector, .worker 0]
    ∃ profile result otherResult, Profile.ofDefinition definition = .ok profile ∧
      (tokenizeWith profile config (.classifying profile config.classify) .inOrder default
        "a b c").result = .ok result ∧
      (tokenizeWith profile other (.classifying profile other.classify) schedule default
        "a b c").result = .ok otherResult ∧
      result.metrics.tally = ⟨5, 0, 0, 5, 2⟩ ∧ otherResult.metrics.tally = ⟨5, 0, 0, 5, 2⟩ ∧
      otherResult.metrics.disagreements.map (·.offset) = [1, 3] := by
  intro definition settings config other schedule
  let profile := Profile.build definition
  have accepted : Profile.ofDefinition definition = .ok profile := by
    have sound : definition.problem? = none := by decide
    rw [Profile.ofDefinition, sound]
  have scannable : profile.Scannable "a b c" :=
    ⟨by decide, Nat.le_trans (profile.length_pieces_le 0 _) (by decide)⟩
  have positive : config.schedule.workers ≠ some 0 := by decide
  have otherPositive : other.schedule.workers ≠ some 0 := by decide
  obtain ⟨result, otherResult, ran, otherRan, agree, onePass⟩ :=
    metrics_invariant profile positive otherPositive rfl
      (profile.scan_of_scannable config.scan scannable) .inOrder schedule default default
  have tally : result.metrics.tally = ⟨5, 0, 0, 5, 2⟩ := by
    rw [onePass.pass.1, (Classifier.counts_classifyAll _ _ _).1]
    decide +kernel
  refine ⟨profile, result, otherResult, accepted, ran, otherRan, tally, ?_, ?_⟩
  · rw [← agree.tally, tally]
  · rw [← agree.disagreements, onePass.sampled.2.1]
    decide +kernel

end ProfileLexer
