import ProfileLexer.Run.Tokenize

/-!
Benchmarks: one source is tokenized once for each of several numbers of workers, and the times are
compared.
-/

namespace ProfileLexer

/-- One run of a benchmark. The number of workers is the one that was asked for; there may have been
fewer, if the chunks were few. -/
structure BenchmarkRun where
  workers : Nat
  chunks : Nat
  /-- In milliseconds. -/
  elapsed : Float
  tokensPerSecond : Float
  /-- Relative to the run with one worker, or to the first run if there is none. -/
  speedup : Float
  efficiency : Float
  deriving Inhabited

structure BenchmarkReport where
  profile : String
  sourceBytes : Nat
  tokens : Nat
  runs : List BenchmarkRun
  bestWorkers : Nat
  deriving Inhabited

namespace BenchmarkReport

/-- The first run with the best number of workers. That number is looked up among the runs again, so
that it need not be the fastest run when the number comes twice. -/
def best? (report : BenchmarkReport) : Option BenchmarkRun :=
  report.runs.find? (·.workers == report.bestWorkers)

def row (workers chunks time rate speedup efficiency : String) : String :=
  " ".intercalate [Text.alignRight 8 workers, Text.alignRight 7 chunks, Text.alignRight 12 time,
    Text.alignRight 14 rate, speedup, efficiency]

def runLine (run : BenchmarkRun) : String :=
  row (toString run.workers) (toString run.chunks) (Decimal.fixed 3 run.elapsed)
    (Decimal.fixed 0 run.tokensPerSecond)
    (Text.alignRight 7 (Decimal.fixed 2 run.speedup) ++ "x")
    (Text.alignRight 10 (Decimal.fixed 0 (run.efficiency * 100.0)) ++ "%")

def text (report : BenchmarkReport) : String :=
  Text.lines <|
    ["Benchmark: profile '" ++ report.profile ++ "', " ++ toString report.sourceBytes ++
        " bytes, " ++ toString report.tokens ++ " tokens",
      row "workers" "chunks" "time (ms)" "tokens/sec" (Text.alignRight 8 "speedup")
        (Text.alignRight 11 "efficiency")] ++
    report.runs.map runLine ++
    ["Best worker count: " ++ toString report.bestWorkers]

end BenchmarkReport

def clampWorkers (workers : Nat) : Nat :=
  min (max workers 1) Limits.maxWorkers

/-- Numbers without those that equal the one before them. Equal numbers that are apart stay, so that
nothing comes twice only when the numbers are sorted. -/
def dropRepeats : List Nat → List Nat
  | [] => []
  | [n] => [n]
  | n :: m :: rest => if n = m then dropRepeats (m :: rest) else n :: dropRepeats (m :: rest)

/-- The numbers of workers that are compared on a machine when nobody asks for others: one, two,
four, half of the cores, all but one, and all. -/
def Host.benchmarkCounts (host : Host) : List Nat :=
  dropRepeats <| ([1, 2, 4, host.cores / 2, host.cores - 1, host.cores].map clampWorkers).mergeSort
    fun first second => first ≤ second

namespace Benchmark

/-- The order of floating point numbers by their bits in which every two of them compare, those that
are no numbers included. -/
def orderKey (x : Float) : Int :=
  let bits := x.toBits.toNat
  if bits < signedLimit then bits else (signedLimit : Int) - 1 - bits

/-- The first of the runs that took the least time, by `orderKey`; none only when there are no
runs. -/
def fastest? : List BenchmarkRun → Option BenchmarkRun
  | [] => none
  | run :: runs =>
    match fastest? runs with
    | none => some run
    | some other => if orderKey run.elapsed ≤ orderKey other.elapsed then some run else some other

/-- What the metrics of a run say beside a baseline in seconds. A run that took no time counts as no
faster than the baseline. -/
def runOf (baseline : Float) (workers : Nat) (metrics : RunMetrics) : BenchmarkRun :=
  let seconds := Decimal.seconds metrics.readings.total
  let speedup := if seconds > 0.0 then baseline / seconds else 1.0
  { workers := workers
    chunks := metrics.chunks.length
    elapsed := seconds * 1000.0
    tokensPerSecond := metrics.tokensPerSecond
    speedup := speedup
    efficiency := speedup / Float.ofNat (max metrics.plan.workers 1) }

/-- The seconds that the first run with one worker took, or the first run of all if there is none;
zero when there are no runs. -/
def baseline (timings : List (Nat × RunMetrics)) : Float :=
  match (timings.find? (·.1 == 1)).or timings.head? with
  | some (_, metrics) => Decimal.seconds metrics.readings.total
  | none => 0.0

/-- The report on finished runs, in the order in which they were made. Every run is compared with
the same baseline. -/
def report (profile : String) (sourceBytes tokens : Nat) (timings : List (Nat × RunMetrics)) :
    BenchmarkReport :=
  let runs := timings.map fun (workers, metrics) => runOf (baseline timings) workers metrics
  { profile := profile
    sourceBytes := sourceBytes
    tokens := tokens
    runs := runs
    bestWorkers := ((fastest? runs).map (·.workers)).getD 1 }

/-- One run of a benchmark before it is made: its number of workers, its order of turns, and what a
clock shows. The three are independent. -/
structure Setup where
  workers : Nat
  schedule : Schedule
  readings : Readings

/-- Runs once for each setup, with the stream that all runs have to agree on, if there is one
already. A run with another stream is an error, as is a run that fails. -/
def runAll (profile : Profile) (config : RunConfig) (source : String) :
    Option TokenStream → List Setup →
      Logged RunError (Option TokenStream × List (Nat × RunMetrics))
  | expected, [] => return (expected, [])
  | expected, ⟨workers, schedule, readings⟩ :: rest => do
    let config' := (config.withWorkers workers).alwaysParallel
    let result ← tokenizeWith profile config' (.classifying profile config'.classify) schedule
      readings source
    match expected with
    | some stream =>
      if stream ≠ result.stream then
        Logged.fail (.other ("Token stream with " ++ toString workers ++
          " workers differs from the first run"))
    | none => pure ()
    Logged.log <| (Event.debug "Benchmark run finished").withDetails
      [("workers", toString workers), ("tokens", toString result.metrics.tokens)]
    let (expected, timings) ← runAll profile config source (expected.or (some result.stream)) rest
    return (expected, (workers, result.metrics) :: timings)

end Benchmark

/-- Compares several numbers of workers on one source. `readings` and `schedules` are those of each
run in turn, and nothing is asked of either. -/
def benchmarkWith (profile : Profile) (config : RunConfig) (schedules : Nat → Schedule)
    (readings : Nat → Readings) (counts : List Nat) (source : String) :
    Logged RunError BenchmarkReport := do
  let counts := dropRepeats (counts.map clampWorkers)
  if counts.isEmpty then Logged.fail (.other "No worker counts to benchmark")
  else
    let (expected, timings) ← Benchmark.runAll profile config source none
      (counts.zipIdx.map fun (workers, run) => ⟨workers, schedules run, readings run⟩)
    let report := Benchmark.report profile.id source.utf8ByteSize
      ((expected.map (·.length)).getD 0) timings
    Logged.log <| (Event.success .benchmarkComplete "Benchmark complete").withDetails
      [("runs", toString report.runs.length), ("best_workers", toString report.bestWorkers)]
    return report

/-- Compares several numbers of workers on one source, each run with its chunks in order. -/
def benchmark (profile : Profile) (config : RunConfig) (readings : Nat → Readings)
    (counts : List Nat) (source : String) : Logged RunError BenchmarkReport :=
  benchmarkWith profile config (fun _ => .inOrder) readings counts source

end ProfileLexer
