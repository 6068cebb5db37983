import ProfileLexer.Profile.Builtin
import ProfileLexer.Proofs.Run.Classified
import ProfileLexer.Run.Benchmark

/-!
The tokens of a run do not depend on how the run is made: not on the number of workers, the lengths
of chunks, the policy or the preferences of the classifiers, and not on who has had the turns.
-/

namespace ProfileLexer

namespace Profile

variable (profile : Profile)

/-- The token of a lexeme is that of a fresh classifier, whatever its preferences: they decide what
is counted and compared, never what is answered. -/
theorem token_eq_fresh (preferences : ClassifyPreferences) (lexeme : Lexeme) :
    profile.token lexeme = ((Classifier.ofProfile profile preferences).classify lexeme).1 :=
  (Classifier.classify_fst (Classifier.for_ofProfile profile preferences) lexeme).symm

theorem tokens_eq_of_scan {preferences : ScanPreferences} {source : String} {scan : Scan}
    (scanned : (profile.scan preferences source).result = .ok scan) :
    profile.tokens source = scan.lexemes.map profile.token := by
  rw [profile.scan_of_scannable preferences (profile.scannable_of_scan scanned)] at scanned
  cases scanned
  exact profile.tokens_eq preferences source

/-- The stream of a run that succeeds is the stream of its source. Only the source and the profile
are left on the right: neither the configuration nor the schedule has a part in it. -/
theorem stream_of_run {config : RunConfig} {asked : ClassifyPreferences} {schedule : Schedule}
    {readings : Readings} {source : String} {result : RunResult}
    (ran : (tokenizeWith profile config (.classifying profile asked) schedule readings
      source).result = .ok result) : result.stream = .ofTokens (profile.tokens source) := by
  obtain ⟨run, _, _, done⟩ := tokenizeWith_classifying profile asked schedule readings
    (positive_of_run ran) (scannable_of_run ran)
  rw [done] at ran
  cases ran
  rfl

/-- Only a scan makes a run fail whose workers classify. A number of workers of zero is the one
configuration that is excluded. -/
theorem error_of_run {config : RunConfig} {asked : ClassifyPreferences} {schedule : Schedule}
    {readings : Readings} {source : String} {error : RunError}
    (positive : config.schedule.workers ≠ some 0)
    (failed : (tokenizeWith profile config (.classifying profile asked) schedule readings
      source).result = .error error) :
    ∃ cause, error = .scan cause ∧ (profile.scan config.scan source).result = .error cause := by
  cases scanned : (profile.scan config.scan source).result with
  | ok scan =>
    obtain ⟨run, _, _, done⟩ := tokenizeWith_classifying profile asked schedule readings positive
      (profile.scannable_of_scan scanned)
    rw [done] at failed
    cases failed
  | error cause =>
    rw [tokenizeWith, Logged.result_inside, Logged.result_bind_of_ok (Logged.result_log _),
      Logged.result_bind_of_error (Logged.result_mapError_eq_error.mpr ⟨cause, scanned, rfl⟩)]
      at failed
    cases failed
    exact ⟨cause, rfl, rfl⟩

end Profile

theorem mem_of_mem_dropRepeats {counts : List Nat} {count : Nat}
    (member : count ∈ dropRepeats counts) : count ∈ counts := by
  induction counts using dropRepeats.induct with
  | case1 => exact member
  | case2 n => exact member
  | case3 n rest ih =>
    rw [dropRepeats, if_pos rfl] at member
    exact List.mem_cons_of_mem _ (ih member)
  | case4 n m rest apart ih =>
    rw [dropRepeats, if_neg apart] at member
    rcases List.mem_cons.mp member with rfl | later
    · exact List.mem_cons_self
    · exact List.mem_cons_of_mem _ (ih later)

namespace Benchmark

/-- Behind the comparison of streams, only the later runs can fail. Neither the event that is
written nor the timing that is kept has an error of its own. -/
theorem error_of_later {event : Event} {timing : Nat × RunMetrics} {error : RunError}
    {later : Logged RunError (Option TokenStream × List (Nat × RunMetrics))}
    (failed : (do
      Logged.log event
      let (expected, timings) ← later
      return (expected, timing :: timings)).result = .error error) : later.result = .error error := by
  rw [Logged.result_bind_of_ok (Logged.result_log event)] at failed
  rcases Logged.result_bind_eq_error.mp failed with inLater | ⟨_, _, impossible⟩
  · exact inLater
  · cases impossible

/-- When all runs so far have the stream of the source, so has the next one, and a failure is that
of a scan. What the runs agree on may be missing, as it is before the first of them. -/
theorem error_of_runAll {profile : Profile} {config : RunConfig} {source : String}
    {setups : List Setup} {expected : Option TokenStream} {error : RunError}
    (positive : ∀ setup ∈ setups, setup.workers ≠ 0)
    (agreed : ∀ stream, expected = some stream → stream = .ofTokens (profile.tokens source))
    (failed : (runAll profile config source expected setups).result = .error error) :
    ∃ cause, error = .scan cause := by
  induction setups generalizing expected error with
  | nil => cases failed
  | cons setup setups ih =>
    obtain ⟨workers, schedule, readings⟩ := setup
    have some_workers : some workers ≠ some 0 := by
      simpa using positive _ List.mem_cons_self
    rw [runAll] at failed
    rcases Logged.result_bind_eq_error.mp failed with inRun | ⟨result, ran, later⟩
    · obtain ⟨cause, rfl, _⟩ := profile.error_of_run some_workers inRun
      exact ⟨cause, rfl⟩
    have stream := profile.stream_of_run ran
    have same : ∀ other, expected.or (some result.stream) = some other →
        other = .ofTokens (profile.tokens source) := by
      intro other found
      cases known : expected with
      | none =>
        rw [known] at found
        cases found
        exact stream
      | some first =>
        rw [known] at found
        cases found
        exact agreed _ known
    refine ih (fun other member => positive other (List.mem_cons_of_mem _ member)) same ?_
    cases known : expected with
    | none =>
      rw [known] at later
      exact error_of_later later
    | some first =>
      have equal : first = result.stream := (agreed first known).trans stream.symm
      rw [known] at later
      dsimp only at later
      rw [if_neg (not_not_intro equal)] at later
      exact error_of_later later

end Benchmark

/-- A benchmark fails only because there is nothing to compare or because the source is not scanned.
In particular it does not fail because two of its runs differ. -/
theorem error_of_benchmark {profile : Profile} {config : RunConfig} {schedules : Nat → Schedule}
    {readings : Nat → Readings} {counts : List Nat} {source : String} {error : RunError}
    (failed : (benchmarkWith profile config schedules readings counts source).result =
      .error error) :
    error = .other "No worker counts to benchmark" ∨ ∃ cause, error = .scan cause := by
  rw [benchmarkWith] at failed
  dsimp only at failed
  split at failed
  · cases failed
    exact .inl rfl
  rcases Logged.result_bind_eq_error.mp failed with inRuns | ⟨_, _, later⟩
  · refine .inr (Benchmark.error_of_runAll ?_ (by simp) inRuns)
    intro setup member
    obtain ⟨⟨workers, run⟩, inCounts, rfl⟩ := List.mem_map.mp member
    have inList := mem_of_mem_dropRepeats
      (List.mem_of_getElem? (List.mem_zipIdx_iff_getElem?.mp inCounts))
    obtain ⟨asked, _, clamped⟩ := List.mem_map.mp inList
    have positive : 0 < clampWorkers asked := by
      simp only [clampWorkers, Limits.maxWorkers]
      omega
    have count : workers ≠ 0 := by omega
    exact count
  · cases later

theorem differs_ne_nothing (workers : Nat) :
    "Token stream with " ++ toString workers ++ " workers differs from the first run" ≠
      "No worker counts to benchmark" := by
  intro same
  have first := congrArg (fun text => text.toList.head?) same
  simp [String.toList_append] at first

/-- Two runs over one source yield the same tokens, whatever their configurations and schedules:
each lexeme becomes the token that a fresh classifier makes of it. What a classifier has classified
before does not matter, and no benchmark finds its runs to differ. The two configurations need not
have anything in common, and that the source is within the limits is asked for one of them only. -/
theorem stream_invariant (profile : Profile) {source : String} {config other : RunConfig}
    {scan : Scan} (positive : config.schedule.workers ≠ some 0)
    (otherPositive : other.schedule.workers ≠ some 0)
    (scanned : (profile.scan config.scan source).result = .ok scan)
    (schedule otherSchedule : Schedule) (readings otherReadings : Readings) :
    (∃ result otherResult,
      (tokenizeWith profile config (.classifying profile config.classify) schedule readings
        source).result = .ok result ∧
      (tokenizeWith profile other (.classifying profile other.classify) otherSchedule otherReadings
        source).result = .ok otherResult ∧
      otherResult.stream.tokens = result.stream.tokens ∧
      ∀ preferences, result.stream.tokens = scan.lexemes.map fun lexeme =>
        ((Classifier.ofProfile profile preferences).classify lexeme).1) ∧
    (∀ preferences earlier lexeme,
      (((Classifier.ofProfile profile preferences).classifyAll earlier).2.1.classify lexeme).1 =
        ((Classifier.ofProfile profile preferences).classify lexeme).1) ∧
    ∀ schedules clock counts (workers : Nat),
      (benchmarkWith profile config schedules clock counts source).result ≠
        .error (.other ("Token stream with " ++ toString workers ++
          " workers differs from the first run")) := by
  have scannable := profile.scannable_of_scan scanned
  refine ⟨?_, ?_, ?_⟩
  · obtain ⟨_, _, _, ran⟩ := tokenizeWith_classifying profile config.classify schedule readings
      positive scannable
    obtain ⟨_, _, _, otherRan⟩ := tokenizeWith_classifying profile other.classify otherSchedule
      otherReadings otherPositive scannable
    refine ⟨_, _, ran, otherRan, rfl, fun preferences => ?_⟩
    have tokens := profile.tokens_eq_of_scan scanned
    rw [funext (profile.token_eq_fresh preferences)] at tokens
    exact tokens
  · intro preferences earlier lexeme
    have fresh := Classifier.for_ofProfile profile preferences
    rw [Classifier.classify_fst (Classifier.classifyAll_for fresh earlier),
      Classifier.classify_fst fresh]
  · intro schedules clock counts workers failed
    rcases error_of_benchmark failed with nothing | ⟨cause, inScan⟩
    · exact differs_ne_nothing workers (RunError.other.inj nothing)
    · cases inScan

/-- Two runs with different numbers of workers, lengths of chunks, policies and turns. The second
compares every verdict of the rules with the automaton, the first none. -/
theorem stream_invariant_two_runs :
    let profile := Profile.build Builtin.imperative
    let settings := Settings.ofEnvironment []
    let config := (RunConfig.ofSettings settings ⟨4, 2⟩).withWorkers 1
    let other := (((config.withWorkers 3).withPolicy .degradeChunk).withCrossCheck true).alwaysParallel
    let schedule : Schedule := fun _ _ => [.worker 2, .collector, .worker 0, .worker 2]
    ∃ result otherResult,
      (tokenizeWith profile config (.classifying profile config.classify) .inOrder default
        "x = f'1' # \u03bb").result = .ok result ∧
      (tokenizeWith profile other (.classifying profile other.classify) schedule default
        "x = f'1' # \u03bb").result = .ok otherResult ∧
      otherResult.stream.tokens = result.stream.tokens := by
  intro profile settings config other schedule
  have scannable : profile.Scannable "x = f'1' # \u03bb" :=
    ⟨by decide, Nat.le_trans (profile.length_pieces_le 0 _) (by decide)⟩
  have positive : config.schedule.workers ≠ some 0 := by decide
  have otherPositive : other.schedule.workers ≠ some 0 := by decide
  obtain ⟨result, otherResult, ran, otherRan, same, _⟩ :=
    (stream_invariant profile positive otherPositive
      (profile.scan_of_scannable config.scan scannable) .inOrder schedule default default).1
  exact ⟨result, otherResult, ran, otherRan, same⟩

end ProfileLexer
