import Mathlib.Data.List.Destutter
import ProfileLexer.Proofs.Decimal.Order
import ProfileLexer.Proofs.Run.Invariance

/-!
The runs of a benchmark. There is one for each number of workers that is not the same as the one
before it, so a number that comes back after another has several runs, and the best run is the first
one with the number of workers of a fastest one.
-/

namespace ProfileLexer

theorem dropRepeats_eq_destutter (counts : List Nat) :
    dropRepeats counts = counts.destutter (· ≠ ·) := by
  induction counts using dropRepeats.induct with
  | case1 => rfl
  | case2 n => rfl
  | case3 n rest ih =>
    rw [dropRepeats, if_pos rfl, ih, List.destutter_cons', List.destutter_cons',
      List.destutter'_cons_neg _ (not_not_intro rfl)]
  | case4 n m rest apart ih =>
    rw [dropRepeats, if_neg apart, ih, List.destutter_cons', List.destutter_cons',
      List.destutter'_cons_pos _ apart]

theorem mem_dropRepeats {counts : List Nat} {count : Nat} :
    count ∈ dropRepeats counts ↔ count ∈ counts := by
  refine ⟨mem_of_mem_dropRepeats, fun member => ?_⟩
  induction counts using dropRepeats.induct with
  | case1 => exact member
  | case2 n => exact member
  | case3 n rest ih =>
    rw [dropRepeats, if_pos rfl]
    exact ih (by simpa using member)
  | case4 n m rest apart ih =>
    rw [dropRepeats, if_neg apart]
    rcases List.mem_cons.mp member with rfl | later
    · exact List.mem_cons_self
    · exact List.mem_cons_of_mem _ (ih later)

/-- What has no repeats itself is left of a list when the repeats are dropped. A repeat is an item
equal to the one right before it. -/
theorem sublist_dropRepeats {kept counts : List Nat} (sublist : kept.Sublist counts)
    (changes : kept.IsChain (· ≠ ·)) : kept.Sublist (dropRepeats counts) := by
  induction counts using dropRepeats.induct generalizing kept with
  | case1 => exact sublist
  | case2 n => exact sublist
  | case3 n rest ih =>
    rw [dropRepeats, if_pos rfl]
    refine ih ?_ changes
    cases sublist with
    | cons _ later => exact later
    | cons_cons _ later =>
      cases later with
      | cons _ behind => exact behind.cons_cons n
      | cons_cons _ behind => exact absurd rfl (List.isChain_cons_cons.mp changes).1
  | case4 n m rest apart ih =>
    rw [dropRepeats, if_neg apart]
    cases sublist with
    | cons _ later => exact (ih later changes).cons n
    | cons_cons _ later => exact (ih later changes.tail).cons_cons n

/-- In a list without repeats a number is there twice only if it comes back after another. The other
number need not be next to either of the two. -/
theorem exists_between_of_sublist {counts : List Nat} {n : Nat} (changes : counts.IsChain (· ≠ ·))
    (twice : [n, n].Sublist counts) : ∃ m, n ≠ m ∧ [n, m, n].Sublist counts := by
  induction counts with
  | nil => cases twice
  | cons first counts ih =>
    cases twice with
    | cons _ later =>
      obtain ⟨m, apart, between⟩ := ih changes.tail later
      exact ⟨m, apart, between.cons first⟩
    | cons_cons _ later =>
      cases counts with
      | nil => cases later
      | cons m counts =>
        have apart := (List.isChain_cons_cons.mp changes).1
        have behind : n ∈ counts :=
          (List.mem_cons.mp (List.singleton_sublist.mp later)).resolve_left apart
        exact ⟨m, apart, ((List.singleton_sublist.mpr behind).cons_cons m).cons_cons n⟩

/-- The numbers that are left are distinct unless one comes back after another. The list need not be
sorted, which would exclude that case. -/
theorem nodup_dropRepeats {counts : List Nat} :
    (dropRepeats counts).Nodup ↔ ∀ n m, n ≠ m → ¬[n, m, n].Sublist counts := by
  rw [List.nodup_iff_sublist]
  constructor
  · intro distinct n m apart back
    have kept : [n, m, n].Sublist (dropRepeats counts) :=
      sublist_dropRepeats back (by simp [apart, Ne.symm apart])
    exact distinct n (List.Sublist.trans ((List.sublist_cons_self m [n]).cons_cons n) kept)
  · intro never n twice
    have changes : (dropRepeats counts).IsChain (· ≠ ·) := by
      rw [dropRepeats_eq_destutter]
      exact List.isChain_destutter _ counts
    obtain ⟨m, apart, between⟩ := exists_between_of_sublist changes twice
    have all : (dropRepeats counts).Sublist counts := by
      rw [dropRepeats_eq_destutter]
      exact List.destutter_sublist _ counts
    exact never n m apart (between.trans all)

theorem clampWorkers_bounds (asked : Nat) :
    1 ≤ clampWorkers asked ∧ clampWorkers asked ≤ Limits.maxWorkers := by
  simp only [clampWorkers, Limits.maxWorkers]
  omega

namespace Benchmark

/-- The fastest of some runs is one of them, and none took less time. Several runs may have taken
the same time; which of them it is, is left open. -/
theorem fastest?_spec {runs : List BenchmarkRun} (nonempty : runs ≠ []) :
    ∃ best, fastest? runs = some best ∧ best ∈ runs ∧
      ∀ other ∈ runs, orderKey best.elapsed ≤ orderKey other.elapsed := by
  induction runs with
  | nil => exact absurd rfl nonempty
  | cons run runs ih =>
    by_cases last : runs = []
    · subst last
      exact ⟨run, rfl, List.mem_singleton_self run, by simp⟩
    obtain ⟨best, found, member, least⟩ := ih last
    by_cases faster : orderKey run.elapsed ≤ orderKey best.elapsed
    · refine ⟨run, by simp [fastest?, found, faster], List.mem_cons_self, fun other inRuns => ?_⟩
      rcases List.mem_cons.mp inRuns with rfl | later
      · exact Int.le_refl _
      · exact Int.le_trans faster (least other later)
    · refine ⟨best, by simp [fastest?, found, faster], List.mem_cons_of_mem run member,
        fun other inRuns => ?_⟩
      rcases List.mem_cons.mp inRuns with rfl | later
      · omega
      · exact least other later

/-- Behind the comparison of streams, a run is put in front of the later ones. The comparison itself
adds nothing to the result. -/
theorem ok_of_later {event : Event} {timing : Nat × RunMetrics}
    {later : Logged RunError (Option TokenStream × List (Nat × RunMetrics))}
    {done : Option TokenStream × List (Nat × RunMetrics)}
    (ran : (do
      Logged.log event
      let (expected, timings) ← later
      return (expected, timing :: timings)).result = .ok done) :
    ∃ rest, later.result = .ok rest ∧ done = (rest.1, timing :: rest.2) := by
  rw [Logged.result_bind_of_ok (Logged.result_log event)] at ran
  obtain ⟨rest, ran, last⟩ := Logged.result_bind_eq_ok.mp ran
  exact ⟨rest, ran, (Except.ok.inj last).symm⟩

/-- Each setup has its own run, in the same order. Of its metrics only the readings of the clock are
told. -/
theorem timings_of_runAll {profile : Profile} {config : RunConfig} {source : String}
    {setups : List Setup} {expected : Option TokenStream}
    {done : Option TokenStream × List (Nat × RunMetrics)}
    (ran : (runAll profile config source expected setups).result = .ok done) :
    (done.2.map fun (workers, metrics) => (workers, metrics.readings)) =
      setups.map fun setup => (setup.workers, setup.readings) := by
  induction setups generalizing expected done with
  | nil =>
    cases ran
    rfl
  | cons setup setups ih =>
    obtain ⟨workers, schedule, readings⟩ := setup
    rw [runAll] at ran
    obtain ⟨result, first, ran⟩ := Logged.result_bind_eq_ok.mp ran
    have later : ∃ rest, (runAll profile config source (expected.or (some result.stream))
        setups).result = .ok rest ∧ done = (rest.1, (workers, result.metrics) :: rest.2) := by
      cases known : expected with
      | none =>
        rw [known] at ran
        exact ok_of_later ran
      | some stream =>
        rw [known] at ran
        dsimp only at ran
        split at ran
        · cases ran
        · exact ok_of_later ran
    obtain ⟨rest, others, rfl⟩ := later
    obtain ⟨run, _, rfl⟩ := Profile.exists_result_of_run first
    rw [List.map_cons, List.map_cons, ih others]
    rfl

/-- Over a source that is scanned all runs succeed, and they agree, so that none is stopped by the
comparison with the first. -/
theorem exists_timings_of_scannable {profile : Profile} {config : RunConfig} {source : String}
    {setups : List Setup} {expected : Option TokenStream} (scannable : profile.Scannable source)
    (positive : ∀ setup ∈ setups, setup.workers ≠ 0)
    (agreed : ∀ stream ∈ expected, stream = .ofTokens (profile.tokens source)) :
    ∃ done, (runAll profile config source expected setups).result = .ok done := by
  induction setups generalizing expected with
  | nil => exact ⟨_, rfl⟩
  | cons setup setups ih =>
    obtain ⟨workers, schedule, readings⟩ := setup
    let own := (config.withWorkers workers).alwaysParallel
    have some_workers : own.schedule.workers ≠ some 0 := by
      simpa [own, RunConfig.withWorkers, RunConfig.alwaysParallel] using
        positive _ List.mem_cons_self
    obtain ⟨_, _, _, first⟩ := tokenizeWith_classifying profile own.classify schedule readings
      some_workers scannable
    obtain ⟨done, rest⟩ : ∃ done, (runAll profile config source
        (some (.ofTokens (profile.tokens source))) setups).result = .ok done :=
      ih (fun other member => positive other (List.mem_cons_of_mem _ member)) (by simp)
    rw [runAll, Logged.result_bind_of_ok first]
    cases expected with
    | none =>
      dsimp only [Option.or]
      rw [Logged.result_bind_of_ok (Logged.result_log _), Logged.result_bind_of_ok rest]
      exact ⟨_, rfl⟩
    | some stream =>
      obtain rfl := agreed stream rfl
      dsimp only [Option.or]
      rw [if_neg (not_not_intro rfl), Logged.result_bind_of_ok (Logged.result_log _),
        Logged.result_bind_of_ok rest]
      exact ⟨_, rfl⟩

end Benchmark

section

variable {profile : Profile} {config : RunConfig} {schedules : Nat → Schedule}
  {readings : Nat → Readings} {counts : List Nat} {source : String} {report : BenchmarkReport}

/-- The runs of a benchmark with their times, behind the clamping of the numbers of workers and the
dropping of repeats. -/
theorem exists_timings_of_benchmark
    (reported : (benchmarkWith profile config schedules readings counts source).result =
      .ok report) :
    counts ≠ [] ∧ ∃ tokens timings,
      report = Benchmark.report profile.id source.utf8ByteSize tokens timings ∧
      (timings.map fun (workers, metrics) => (workers, metrics.readings)) =
        (dropRepeats (counts.map clampWorkers)).zipIdx.map fun (workers, run) =>
          (workers, readings run) := by
  rw [benchmarkWith] at reported
  dsimp only at reported
  split at reported
  · cases reported
  rename_i some_left
  obtain ⟨⟨expected, timings⟩, ran, reported⟩ := Logged.result_bind_eq_ok.mp reported
  rw [Logged.result_bind_of_ok (Logged.result_log _)] at reported
  refine ⟨?_, _, timings, (Except.ok.inj reported).symm, ?_⟩
  · rintro rfl
    exact some_left rfl
  · rw [Benchmark.timings_of_runAll ran, List.map_map]
    rfl

/-- The numbers of workers of the runs and the times they took, in the order in which they were
asked for. This is all that the choice of the best run depends on. -/
theorem workers_elapsed_of_benchmark
    (reported : (benchmarkWith profile config schedules readings counts source).result =
      .ok report) :
    (report.runs.map fun run => (run.workers, run.elapsed)) =
      (dropRepeats (counts.map clampWorkers)).zipIdx.map fun (workers, run) =>
        (workers, milliseconds (readings run).total) := by
  obtain ⟨_, tokens, timings, rfl, setups⟩ := exists_timings_of_benchmark reported
  have times := congrArg (List.map fun timing : Nat × Readings =>
    (timing.1, milliseconds timing.2.total)) setups
  rw [List.map_map, List.map_map] at times
  rw [Benchmark.report, List.map_map]
  exact times

theorem workers_of_benchmark
    (reported : (benchmarkWith profile config schedules readings counts source).result =
      .ok report) :
    report.runs.map (·.workers) = dropRepeats (counts.map clampWorkers) := by
  have workers := congrArg (List.map Prod.fst) (workers_elapsed_of_benchmark reported)
  rw [List.map_map, List.map_map] at workers
  exact workers.trans (List.zipIdx_map_fst 0 _)

/-- The best run has the number of workers of a fastest one. It need not be that run: it is the
first one with this number of workers. -/
theorem best_of_benchmark
    (reported : (benchmarkWith profile config schedules readings counts source).result =
      .ok report) :
    ∃ best fastest, report.best? = some best ∧ best ∈ report.runs ∧ fastest ∈ report.runs ∧
      fastest.workers = best.workers ∧
      ∀ other ∈ report.runs, ¬other.elapsed < fastest.elapsed := by
  have workers := workers_of_benchmark reported
  obtain ⟨nonempty, tokens, timings, made, _⟩ := exists_timings_of_benchmark reported
  have some_run : report.runs ≠ [] := by
    intro empty
    rw [empty, dropRepeats_eq_destutter, eq_comm] at workers
    exact nonempty (List.map_eq_nil_iff.mp ((List.destutter_eq_nil _).mp workers))
  obtain ⟨fastest, found, member, least⟩ := Benchmark.fastest?_spec some_run
  have bestWorkers : report.bestWorkers = fastest.workers := by
    have chosen : report.bestWorkers =
        ((Benchmark.fastest? report.runs).map (·.workers)).getD 1 := by rw [made]; rfl
    rw [chosen, found]
    rfl
  obtain ⟨best, atBest⟩ : ∃ best, report.best? = some best := by
    rw [← Option.isSome_iff_exists, BenchmarkReport.best?, List.find?_isSome]
    exact ⟨fastest, member, by rw [bestWorkers, beq_self_eq_true]⟩
  have same := List.find?_some atBest
  rw [bestWorkers] at same
  refine ⟨best, fastest, atBest, List.mem_of_find?_eq_some atBest, member, (eq_of_beq same).symm,
    ?_⟩
  intro other inRuns less
  have before := Decimal.orderKey_lt_of_lt less
  have atMost := least other inRuns
  omega

/-- A benchmark of at least one number of workers reports on every source that is scanned. A number
of zero is raised to one, so none is excluded. -/
theorem exists_report_of_scannable (nonempty : counts ≠ []) (scannable : profile.Scannable source) :
    ∃ report, (benchmarkWith profile config schedules readings counts source).result =
      .ok report := by
  have some_left : (dropRepeats (counts.map clampWorkers)).isEmpty = false := by
    rw [List.isEmpty_eq_false_iff, dropRepeats_eq_destutter, ne_eq, List.destutter_eq_nil,
      List.map_eq_nil_iff]
    exact nonempty
  have positive : ∀ setup ∈ (dropRepeats (counts.map clampWorkers)).zipIdx.map fun (workers, run) =>
      (⟨workers, schedules run, readings run⟩ : Benchmark.Setup), setup.workers ≠ 0 := by
    intro setup member
    obtain ⟨⟨workers, run⟩, inCounts, rfl⟩ := List.mem_map.mp member
    have clamped := mem_dropRepeats.mp (List.fst_mem_of_mem_zipIdx inCounts)
    obtain ⟨asked, _, rfl⟩ := List.mem_map.mp clamped
    exact Nat.ne_of_gt (clampWorkers_bounds asked).1
  obtain ⟨done, ran⟩ : ∃ done, (Benchmark.runAll profile config source none _).result = .ok done :=
    Benchmark.exists_timings_of_scannable scannable positive (by simp)
  rw [benchmarkWith]
  dsimp only
  rw [some_left, if_neg Bool.false_ne_true, Logged.result_bind_of_ok ran]
  exact ⟨_, rfl⟩

/-- The runs of a benchmark are those of the numbers of workers that were asked for, within limits,
less those that equal the one before. They are distinct exactly when no number comes back after
another, and then the best run is a fastest one. Otherwise it still has the number of workers of a
fastest one. That the numbers come in order is not assumed. -/
theorem runs_of_benchmark
    (reported : (benchmarkWith profile config schedules readings counts source).result =
      .ok report) :
    (∀ workers, workers ∈ report.runs.map (·.workers) ↔ workers ∈ counts.map clampWorkers) ∧
      (∀ run ∈ report.runs, 1 ≤ run.workers ∧ run.workers ≤ Limits.maxWorkers) ∧
      (report.runs.map fun run => (run.workers, run.elapsed)) =
        (((counts.map clampWorkers).destutter (· ≠ ·)).zipIdx.map fun (workers, run) =>
          (workers, milliseconds (readings run).total)) ∧
      ((report.runs.map (·.workers)).Nodup ↔
        ∀ n m, n ≠ m → ¬[n, m, n].Sublist (counts.map clampWorkers)) ∧
      ∃ best fastest, report.best? = some best ∧ best ∈ report.runs ∧ fastest ∈ report.runs ∧
        fastest.workers = best.workers ∧
        (∀ other ∈ report.runs, ¬other.elapsed < fastest.elapsed) ∧
        ((report.runs.map (·.workers)).Nodup →
          ∀ other ∈ report.runs, ¬other.elapsed < best.elapsed) := by
  have workers := workers_of_benchmark reported
  obtain ⟨best, fastest, atBest, inRuns, member, same, least⟩ := best_of_benchmark reported
  refine ⟨fun count => ?_, fun run inReport => ?_, ?_, ?_, best, fastest, atBest, inRuns, member,
    same, least, fun distinct => ?_⟩
  · rw [workers, mem_dropRepeats]
  · have count := List.mem_map_of_mem (f := fun run : BenchmarkRun => run.workers) inReport
    rw [workers, mem_dropRepeats] at count
    obtain ⟨asked, _, clamped⟩ := List.mem_map.mp count
    rw [← clamped]
    exact clampWorkers_bounds asked
  · rw [← dropRepeats_eq_destutter]
    exact workers_elapsed_of_benchmark reported
  · rw [workers, nodup_dropRepeats]
  · rw [← List.inj_on_of_nodup_map distinct member inRuns same]
    exact least

end

/-- Numbers that are the same within the limits of the build have one run when nothing is between
them. -/
theorem runs_of_benchmark_of_clamped :
    let profile := Profile.build Builtin.query
    let config := RunConfig.ofSettings (Settings.ofEnvironment []) ⟨4, 2⟩
    let readings : Nat → Readings := fun run => ⟨0, 0, 0, 0, (run + 1) * 1000000⟩
    ∃ report, (benchmark profile config readings [0, 1, 3, 99] "SELECT 1").result = .ok report ∧
      (report.runs.map (·.workers)).Nodup ∧
      ∃ best, report.best? = some best ∧ ∀ other ∈ report.runs, ¬other.elapsed < best.elapsed := by
  intro profile config readings
  have scannable : profile.Scannable "SELECT 1" :=
    ⟨by decide, Nat.le_trans (profile.length_pieces_le 0 _) (by decide)⟩
  obtain ⟨report, reported⟩ : ∃ report, (benchmarkWith profile config (fun _ => .inOrder) readings
      [0, 1, 3, 99] "SELECT 1").result = .ok report :=
    exists_report_of_scannable (by decide) scannable
  have distinct : (report.runs.map (·.workers)).Nodup := by
    rw [workers_of_benchmark reported]
    decide
  obtain ⟨_, _, _, _, best, _, atBest, _, _, _, _, least⟩ := runs_of_benchmark reported
  exact ⟨report, reported, distinct, best, atBest, least distinct⟩

/-- A number that comes back after another has two runs. If the later one is the fastest of all, the
best run is the earlier one. -/
theorem best_slower_of_benchmark :
    let profile := Profile.build Builtin.query
    let config := RunConfig.ofSettings (Settings.ofEnvironment []) ⟨4, 2⟩
    let readings : Nat → Readings := fun run => ⟨0, 0, 0, 0, (3 - run) * 1000000⟩
    ∃ report, (benchmark profile config readings [1, 2, 1] "SELECT 1").result = .ok report ∧
      report.runs.map (·.workers) = [1, 2, 1] ∧ ¬(report.runs.map (·.workers)).Nodup ∧
      ∃ best other, report.best? = some best ∧ other ∈ report.runs ∧
        other.elapsed < best.elapsed := by
  intro profile config readings
  have scannable : profile.Scannable "SELECT 1" :=
    ⟨by decide, Nat.le_trans (profile.length_pieces_le 0 _) (by decide)⟩
  obtain ⟨report, reported⟩ : ∃ report, (benchmarkWith profile config (fun _ => .inOrder) readings
      [1, 2, 1] "SELECT 1").result = .ok report :=
    exists_report_of_scannable (by decide) scannable
  have workers : report.runs.map (·.workers) = [1, 2, 1] := workers_of_benchmark reported
  have times : (report.runs.map fun run => (run.workers, run.elapsed)) =
      [(1, milliseconds 3000000), (2, milliseconds 2000000), (1, milliseconds 1000000)] :=
    workers_elapsed_of_benchmark reported
  obtain ⟨first, _, runs, atFirst, times⟩ := List.map_eq_cons_iff.mp times
  obtain ⟨second, _, rfl, atSecond, times⟩ := List.map_eq_cons_iff.mp times
  obtain ⟨third, _, rfl, atThird, times⟩ := List.map_eq_cons_iff.mp times
  obtain rfl := List.map_eq_nil_iff.mp times
  obtain ⟨firstWorkers, firstTime⟩ := Prod.mk.inj atFirst
  obtain ⟨_, secondTime⟩ := Prod.mk.inj atSecond
  obtain ⟨thirdWorkers, thirdTime⟩ := Prod.mk.inj atThird
  have beforeFirst : third.elapsed < first.elapsed := by
    rw [firstTime, thirdTime]
    decide +kernel
  have beforeSecond : third.elapsed < second.elapsed := by
    rw [secondTime, thirdTime]
    decide +kernel
  obtain ⟨best, fastest, atBest, _, member, same, least⟩ := best_of_benchmark reported
  have inRuns : third ∈ report.runs := by simp [runs]
  have isThird : fastest = third := by
    rw [runs] at member
    rcases List.mem_cons.mp member with rfl | member
    · exact absurd beforeFirst (least third inRuns)
    rcases List.mem_cons.mp member with rfl | member
    · exact absurd beforeSecond (least third inRuns)
    · exact List.mem_singleton.mp member
  have chosen := List.find?_some atBest
  have number : report.bestWorkers = 1 := by
    rw [← eq_of_beq chosen, ← same, isThird, thirdWorkers]
  have isFirst : report.best? = some first := by
    simp [BenchmarkReport.best?, runs, number, firstWorkers]
  exact ⟨report, reported, workers, by rw [workers]; decide, first, third, isFirst, inRuns,
    beforeFirst⟩

end ProfileLexer
