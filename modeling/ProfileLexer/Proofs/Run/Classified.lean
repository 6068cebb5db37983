import ProfileLexer.Proofs.Chunk.Split
import ProfileLexer.Proofs.Classifier.Independence
import ProfileLexer.Proofs.Pool.Outcome
import ProfileLexer.Proofs.Token.Tiling
import ProfileLexer.Run.Tokenize

/-!
Dispatch with workers that classify: whatever the plan and whoever has the turns, each lexeme
becomes the token that it becomes by itself.
-/

namespace ProfileLexer

namespace Crew

/-- What a fresh classifier makes of a chunk: its tokens, its tally and its samples. The chunks that
its worker has had before leave no trace in it. -/
def classified (profile : Profile) (preferences : ClassifyPreferences) (chunk : Chunk) :
    ChunkOutput :=
  let (tokens, classifier, _) :=
    (Classifier.ofProfile profile preferences).classifyAll chunk.lexemes
  ⟨tokens, classifier.tally, classifier.samples.toList⟩

theorem tokens_classified (profile : Profile) (preferences : ClassifyPreferences) (chunk : Chunk) :
    (classified profile preferences chunk).tokens = chunk.lexemes.map profile.token :=
  Classifier.classifyAll_fst (Classifier.for_ofProfile profile preferences) chunk.lexemes

/-- Between two chunks a classifier answers like a fresh one. It is alike, not equal: its automaton
stands where the chunk before has left it. -/
theorem classifying_delivers (profile : Profile) (preferences : ClassifyPreferences) :
    (classifying profile preferences).Delivers
      (·.Alike (Classifier.ofProfile profile preferences)) (classified profile preferences) where
  starts := fun _ => ⟨_, rfl, rfl, rfl, rfl, rfl, rfl⟩
  answers := by
    intro classifier chunk alike
    obtain ⟨tokens, after⟩ := alike.classifyAll chunk.lexemes
    simp only [classifying, classified, tokens, after.tally, after.samples]
  stays := fun _ chunk alike =>
    Classifier.drain_alike (Classifier.classifyAll_for alike.for_ofProfile chunk.lexemes)

end Crew

namespace Profile

variable (profile : Profile)

/-- The tokens of a source: each lexeme classified by itself. Neither chunks nor workers occur in
them, and they are there for a source beyond the limits, too. -/
def tokens (source : String) : List Token :=
  (profile.pieces 0 source.toList).map fun piece => profile.token piece.lexeme

theorem tokens_eq (preferences : ScanPreferences) (source : String) :
    profile.tokens source = (profile.scanned preferences source).lexemes.map profile.token := by
  rw [tokens, Scan.lexemes, scanned, List.map_map]
  rfl

theorem cover_tokens (source : String) : Token.Cover (profile.tokens source) source where
  tiled := by
    have tiled := profile.tiled_pieces 0 source.toList
    have lexemes : (profile.tokens source).map Token.lexeme =
        (profile.pieces 0 source.toList).map (·.lexeme) := by
      rw [tokens, List.map_map]
      refine List.map_congr_left fun piece _ => ?_
      simp only [Function.comp_apply, Token.lexeme, token_text, token_offset]
    rw [lexemes]
    exact tiled
  texts := by
    simp only [tokens, List.flatMap_map, token_text]
    exact profile.flatMap_pieces 0 source.toList

end Profile

/-- The plan of a run of `total` lexemes, when no invalid number of workers is asked for. Where none
is asked for at all, the number comes from the host. -/
theorem SchedulePreferences.plan_eq_ok {preferences : SchedulePreferences} (host : Host)
    (positive : preferences.workers ≠ some 0) (total : Nat) :
    ∃ workers, preferences.plan host total =
      .ok (.compute total workers preferences.minChunk preferences.threshold) := by
  rw [plan, workerCount]
  match asked : preferences.workers with
  | none => exact ⟨_, rfl⟩
  | some 0 => exact absurd asked positive
  | some (workers + 1) => exact ⟨_, rfl⟩

/-- A run whose chunks hold some lexemes and have each been classified by a fresh classifier. How
the lexemes are cut into chunks is left open, and no chunk has been given up. -/
def ScheduledRun.Classifies (profile : Profile) (asked : ClassifyPreferences)
    (lexemes : List Lexeme) (run : ScheduledRun) : Prop :=
  ∃ (chunks : List Chunk) (workers : Nat), chunks.flatMap Chunk.lexemes = lexemes ∧
    run.reassembly = .ofPieces (chunks.map (Pool.pieceOf workers (Crew.classified profile asked)))

section

variable {σ : Type} {crew : Crew σ} {schedule : Schedule}

/-- What a pool makes of the chunks of a plan is what is dispatched. The events that a dispatch
writes around the pool have no part in it. -/
theorem dispatch_of_run {preferences : SchedulePreferences} {host : Host} {label source : String}
    {lexemes : List Lexeme} {plan : ChunkPlan} {reassembly : Reassembly}
    (planned : preferences.plan host lexemes.length = .ok plan)
    (ran : (Pool.run ⟨plan.workers, preferences.policy, label⟩ crew schedule source
      (plan.split lexemes)).result = .ok reassembly) :
    (dispatch preferences host label crew schedule source lexemes).result =
      .ok ⟨plan, reassembly⟩ := by
  rw [dispatch, Logged.result_bind_of_ok ((Logged.result_ofExcept _).trans planned),
    Logged.result_bind_of_ok (Logged.result_log _), Logged.result_bind_of_ok ran,
    Logged.result_bind_of_ok (Logged.result_logTimed _), Logged.result_pure]

/-- A run succeeds when what is dispatched lies end to end over the source, whether or not the run
checks that it does. Nothing is asked of the crew. -/
theorem tokenizeWith_of_dispatch {profile : Profile} {config : RunConfig} {source : String}
    {run : ScheduledRun} (readings : Readings) (scannable : profile.Scannable source)
    (dispatched : (dispatch config.schedule config.host (config.label.getD profile.id) crew schedule
      source (profile.scanned config.scan source).lexemes).result = .ok run)
    (cover : Token.Cover run.reassembly.tokens source) :
    (tokenizeWith profile config crew schedule readings source).result =
      .ok ⟨.ofTokens run.reassembly.tokens, .collect profile.id (profile.scanned config.scan source)
        run (.ofTokens run.reassembly.tokens) readings⟩ := by
  rw [tokenizeWith, Logged.result_inside, Logged.result_bind_of_ok (Logged.result_log _),
    Logged.result_bind_of_ok (Logged.result_mapError_of_ok _
      (profile.scan_of_scannable config.scan scannable)),
    Logged.result_bind_of_ok (Logged.result_mapError_of_ok _ dispatched)]
  cases config.verify with
  | true =>
    simp only [if_true]
    rw [Logged.result_bind_of_ok (Logged.result_mapError_of_ok _ cover.verify),
      Logged.result_bind_of_ok (Logged.result_log _), Logged.result_bind_of_ok (Logged.result_log _)]
    rfl
  | false =>
    simp only [Bool.false_eq_true, if_false]
    rw [Logged.result_bind_of_ok (Logged.result_log _),
      Logged.result_bind_of_ok (Logged.result_log _)]
    rfl

end

section

variable {profile : Profile} {asked : ClassifyPreferences}

theorem ScheduledRun.Classifies.tokens {lexemes : List Lexeme} {run : ScheduledRun}
    (classifies : run.Classifies profile asked lexemes) :
    run.reassembly.tokens = lexemes.map profile.token := by
  obtain ⟨chunks, workers, rfl, reassembly⟩ := classifies
  rw [reassembly]
  simp only [Reassembly.ofPieces, List.flatMap_map, Pool.pieceOf, Crew.tokens_classified]
  rw [List.map_flatMap]

variable (profile asked)

/-- With workers that classify, a dispatch succeeds, whatever the plan and the schedule. The lexemes
need not come from a scan. -/
theorem dispatch_classifying {preferences : SchedulePreferences} (host : Host) (label : String)
    (schedule : Schedule) (source : String) (lexemes : List Lexeme)
    (positive : preferences.workers ≠ some 0) :
    ∃ run, (dispatch preferences host label (.classifying profile asked) schedule source
        lexemes).result = .ok run ∧ run.Classifies profile asked lexemes := by
  obtain ⟨workers, planned⟩ := SchedulePreferences.plan_eq_ok host positive lexemes.length
  let plan := ChunkPlan.compute lexemes.length workers preferences.minChunk preferences.threshold
  let pool : Pool := ⟨plan.workers, preferences.policy, label⟩
  have ran := pool.run_of_delivers schedule source (Crew.classifying_delivers profile asked)
    (plan.map_id_split lexemes)
  exact ⟨_, dispatch_of_run planned ran, _, _, ChunkPlan.flatMap_lexemes_split .., rfl⟩

/-- A run over a source within the limits of a scan succeeds, whatever its configuration and its
schedule, and its tokens are those of the source. The preferences of the classifiers may differ from
those of the configuration. -/
theorem tokenizeWith_classifying {config : RunConfig} (schedule : Schedule) (readings : Readings)
    {source : String} (positive : config.schedule.workers ≠ some 0)
    (scannable : profile.Scannable source) :
    ∃ run, run.Classifies profile asked (profile.scanned config.scan source).lexemes ∧
      run.reassembly.tokens = profile.tokens source ∧
      (tokenizeWith profile config (.classifying profile asked) schedule readings source).result =
        .ok ⟨.ofTokens (profile.tokens source), .collect profile.id
          (profile.scanned config.scan source) run (.ofTokens (profile.tokens source))
          readings⟩ := by
  obtain ⟨run, dispatched, classifies⟩ := dispatch_classifying profile asked config.host
    (config.label.getD profile.id) schedule source (profile.scanned config.scan source).lexemes
    positive
  have tokens : run.reassembly.tokens = profile.tokens source := by
    rw [classifies.tokens, ← profile.tokens_eq]
  have cover : Token.Cover run.reassembly.tokens source := by
    rw [tokens]
    exact profile.cover_tokens source
  refine ⟨run, classifies, tokens, ?_⟩
  rw [tokenizeWith_of_dispatch readings scannable dispatched cover, tokens]

end

namespace Profile

variable {profile : Profile} {σ : Type} {crew : Crew σ} {config : RunConfig} {schedule : Schedule}
  {readings : Readings} {source : String} {result : RunResult}

theorem scannable_of_run
    (ran : (tokenizeWith profile config crew schedule readings source).result = .ok result) :
    profile.Scannable source := by
  rw [tokenizeWith, Logged.result_inside, Logged.result_bind_eq_ok] at ran
  obtain ⟨_, _, ran⟩ := ran
  obtain ⟨scan, scanned, _⟩ := Logged.result_bind_eq_ok.mp ran
  exact profile.scannable_of_scan (Logged.result_eq_ok_of_mapError scanned)

/-- A run that succeeds has dispatched the lexemes of its source, and yields what has been put
together, with its metrics. The crew is arbitrary. -/
theorem exists_result_of_run
    (ran : (tokenizeWith profile config crew schedule readings source).result = .ok result) :
    ∃ run, (dispatch config.schedule config.host (config.label.getD profile.id) crew schedule source
        (profile.scanned config.scan source).lexemes).result = .ok run ∧
      result = ⟨.ofTokens run.reassembly.tokens, .collect profile.id
        (profile.scanned config.scan source) run (.ofTokens run.reassembly.tokens) readings⟩ := by
  have scan := profile.scan_of_scannable config.scan (scannable_of_run ran)
  rw [tokenizeWith, Logged.result_inside, Logged.result_bind_of_ok (Logged.result_log _),
    Logged.result_bind_of_ok (Logged.result_mapError_of_ok _ scan)] at ran
  obtain ⟨run, dispatched, ran⟩ := Logged.result_bind_eq_ok.mp ran
  refine ⟨run, Logged.result_eq_ok_of_mapError dispatched, ?_⟩
  cases verify : config.verify with
  | false =>
    simp only [verify, Bool.false_eq_true, if_false] at ran
    rw [Logged.result_bind_of_ok (Logged.result_log _),
      Logged.result_bind_of_ok (Logged.result_log _)] at ran
    exact (Except.ok.inj ran).symm
  | true =>
    simp only [verify, if_true] at ran
    obtain ⟨_, _, ran⟩ := Logged.result_bind_eq_ok.mp ran
    rw [Logged.result_bind_of_ok (Logged.result_log _),
      Logged.result_bind_of_ok (Logged.result_log _)] at ran
    exact (Except.ok.inj ran).symm

/-- The stream of a run is what has been put together; no token is added or dropped behind the
dispatch. -/
theorem exists_dispatch_of_run
    (ran : (tokenizeWith profile config crew schedule readings source).result = .ok result) :
    ∃ run, (dispatch config.schedule config.host (config.label.getD profile.id) crew schedule source
        (profile.scanned config.scan source).lexemes).result = .ok run ∧
      result.stream = .ofTokens run.reassembly.tokens := by
  obtain ⟨run, dispatched, rfl⟩ := exists_result_of_run ran
  exact ⟨run, dispatched, rfl⟩

end Profile

/-- A dispatch that succeeds has a plan, and a pool that succeeds on its chunks, also where there
are none. -/
theorem exists_plan_of_dispatch {σ : Type} {preferences : SchedulePreferences} {host : Host}
    {label source : String} {crew : Crew σ} {schedule : Schedule} {lexemes : List Lexeme}
    {run : ScheduledRun}
    (dispatched : (dispatch preferences host label crew schedule source lexemes).result = .ok run) :
    preferences.plan host lexemes.length = .ok run.plan ∧
      (Pool.run ⟨run.plan.workers, preferences.policy, label⟩ crew schedule source
        (run.plan.split lexemes)).result = .ok run.reassembly := by
  rw [dispatch] at dispatched
  obtain ⟨plan, planned, dispatched⟩ := Logged.result_bind_eq_ok.mp dispatched
  rw [Logged.result_bind_of_ok (Logged.result_log _)] at dispatched
  obtain ⟨reassembly, ran, dispatched⟩ := Logged.result_bind_eq_ok.mp dispatched
  rw [Logged.result_bind_of_ok (Logged.result_logTimed _)] at dispatched
  cases dispatched
  exact ⟨planned, ran⟩

/-- A run that is asked for no worker fails, so one that succeeds was asked for some or left the
choice to the host. -/
theorem Profile.positive_of_run {profile : Profile} {σ : Type} {crew : Crew σ} {config : RunConfig}
    {schedule : Schedule} {readings : Readings} {source : String} {result : RunResult}
    (ran : (tokenizeWith profile config crew schedule readings source).result = .ok result) :
    config.schedule.workers ≠ some 0 := by
  intro none_asked
  obtain ⟨run, dispatched, _⟩ := exists_dispatch_of_run ran
  have planned := (exists_plan_of_dispatch dispatched).1
  rw [SchedulePreferences.plan, SchedulePreferences.workerCount, none_asked] at planned
  cases planned

end ProfileLexer
