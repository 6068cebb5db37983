import ProfileLexer.Decimal.Fixed
import ProfileLexer.Instant
import ProfileLexer.Run.Dispatch
import ProfileLexer.Scan.Scanner
import ProfileLexer.Text.Columns
import ProfileLexer.Total

/-!
Metrics of a run. What a clock showed is given to them from outside; all else follows from the scan
and the records of the chunks.
-/

namespace ProfileLexer

/-- What a clock showed during a run. Durations are in nanoseconds, and nothing ties them together:
the parts may take longer than the whole. -/
structure Readings where
  /-- When the run started, in milliseconds since 1970. -/
  started : Int
  scan : Nat
  /-- From the dispatch to the end of the reassembly. -/
  classify : Nat
  reassemble : Nat
  total : Nat
  deriving DecidableEq, Repr, Inhabited

def milliseconds (nanoseconds : Nat) : Float :=
  Decimal.seconds nanoseconds * 1000.0

/-- How many things come on a second; zero if no time has passed. -/
def perSecond (count nanoseconds : Nat) : Float :=
  let seconds := Decimal.seconds nanoseconds
  if seconds > 0.0 then Float.ofNat count / seconds else 0.0

def ChunkRecord.tokensPerSecond (record : ChunkRecord) : Float :=
  perSecond record.tokens record.elapsed

/-- What one worker did. A worker that left no record has no summary either. -/
structure WorkerSummary where
  worker : Nat
  chunks : Nat
  tokens : Nat
  /-- In nanoseconds. -/
  busy : Nat
  deriving DecidableEq, Repr, Inhabited

namespace WorkerSummary

/-- What a worker did, by the records of all chunks. Chunks that were given up count for the worker
that failed on them. -/
def ofRecords (worker : Nat) (records : List ChunkRecord) : WorkerSummary :=
  let own := records.filter (·.worker == worker)
  ⟨worker, own.length, total (·.tokens) own, total (·.elapsed) own⟩

def tokensPerSecond (summary : WorkerSummary) : Float :=
  perSecond summary.tokens summary.busy

def line (summary : WorkerSummary) : String :=
  "  worker " ++ Text.alignLeft 3 (toString summary.worker) ++ " " ++ toString summary.chunks ++
    " chunks, " ++ toString summary.tokens ++ " tokens, " ++
    Decimal.fixed 2 (milliseconds summary.busy) ++ "ms busy, " ++
    Decimal.fixed 0 summary.tokensPerSecond ++ " tokens/sec"

end WorkerSummary

structure RunMetrics where
  profile : String
  scan : Scan
  plan : ChunkPlan
  tokens : Nat
  invalid : Nat
  kinds : List (TokenKind × Nat)
  /-- The first invalid tokens, up to the limit of the build. -/
  invalidTokens : List Token
  chunks : List ChunkRecord
  /-- The workers with records, in ascending order. -/
  workers : List WorkerSummary
  degraded : List Nat
  tally : Tally
  /-- The first disagreements, up to the limit of the build. -/
  disagreements : List Disagreement
  readings : Readings
  deriving DecidableEq, Repr, Inhabited

namespace RunMetrics

def workersOf (records : List ChunkRecord) : List Nat :=
  (records.map (·.worker)).eraseDups.mergeSort fun first second => first ≤ second

/-- Puts together what is known at the end of a run. Counts of tokens are taken from the stream and
counts of answers from the records; that the two agree is proved and not enforced. -/
def collect (profile : String) (scan : Scan) (run : ScheduledRun) (stream : TokenStream)
    (readings : Readings) : RunMetrics :=
  let records := run.reassembly.chunks
  { profile := profile
    scan := scan
    plan := run.plan
    tokens := stream.length
    invalid := stream.invalidCount
    kinds := kindCounts stream.tokens
    invalidTokens := stream.invalid.take Limits.maxInvalidSamples
    chunks := records
    workers := (workersOf records).map (WorkerSummary.ofRecords · records)
    degraded := run.reassembly.degraded
    tally := (records.map (·.tally)).foldl Tally.add .zero
    disagreements := (records.flatMap (·.disagreements)).take Limits.maxDisagreementSamples
    readings := readings }

def tokensPerSecond (metrics : RunMetrics) : Float :=
  perSecond metrics.tokens metrics.readings.total

/-- The sum of some numbers from left to right, negative zero for none. -/
def sum (numbers : List Float) : Float :=
  numbers.foldl (· + ·) (-0.0)

/-- How much longer the workers were busy together than the classification took; one if it took no
time. -/
def speedup (metrics : RunMetrics) : Float :=
  let wall := Decimal.seconds metrics.readings.classify
  if wall ≤ 0.0 then 1.0
  else sum (metrics.chunks.map fun record => Decimal.seconds record.elapsed) / wall

def efficiency (metrics : RunMetrics) : Float :=
  metrics.speedup / Float.ofNat (max metrics.plan.workers 1)

def isDegraded (metrics : RunMetrics) : Bool :=
  !metrics.degraded.isEmpty

def durationText (nanoseconds : Nat) : String :=
  Decimal.fixed 2 (milliseconds nanoseconds) ++ "ms"

def summary (metrics : RunMetrics) : String :=
  toString metrics.tokens ++ " tokens (" ++ toString metrics.invalid ++ " invalid) from " ++
    toString metrics.scan.sourceBytes ++ " bytes with profile '" ++ metrics.profile ++ "' on " ++
    toString metrics.plan.workers ++ " worker(s) in " ++ durationText metrics.readings.total ++
    " (" ++ Decimal.fixed 0 metrics.tokensPerSecond ++ " tokens/sec)"

def listText (numbers : List Nat) : String :=
  "[" ++ ", ".intercalate (numbers.map toString) ++ "]"

def report (metrics : RunMetrics) : String :=
  Text.lines <|
    ["Profile:        " ++ metrics.profile,
      "Started:        " ++ Instant.text metrics.readings.started ++ "+00:00",
      "Source bytes:   " ++ toString metrics.scan.sourceBytes,
      "Lexemes:        " ++ toString metrics.scan.bounded.length,
      "Tokens:         " ++ toString metrics.tokens ++ " (" ++ toString metrics.invalid ++
        " invalid)",
      "Workers:        " ++ toString metrics.plan.workers ++ " (chunk length " ++
        toString metrics.plan.length ++ ", " ++ toString metrics.chunks.length ++ " chunks)",
      "Durations:      scan " ++ durationText metrics.readings.scan ++ ", classify " ++
        durationText metrics.readings.classify ++ ", reassemble " ++
        durationText metrics.readings.reassemble ++ ", total " ++
        durationText metrics.readings.total,
      "Throughput:     " ++ Decimal.fixed 0 metrics.tokensPerSecond ++ " tokens/sec, speedup " ++
        Decimal.fixed 2 metrics.speedup ++ "x, efficiency " ++
        Decimal.fixed 0 (metrics.efficiency * 100.0) ++ "%",
      "Kinds:"] ++
    metrics.kinds.map (fun (kind, count) =>
      "  " ++ Text.alignLeft 12 kind.name ++ " " ++ toString count) ++
    (if metrics.workers.isEmpty then [] else "Per worker:" :: metrics.workers.map (·.line)) ++
    (if metrics.isDegraded then ["Degraded chunks: " ++ listText metrics.degraded] else []) ++
    (if metrics.tally.disagreements > 0 then
      ["Path disagreements: " ++ toString metrics.tally.disagreements ++ " (" ++
        toString metrics.disagreements.length ++ " sampled)"]
    else [])

end RunMetrics

end ProfileLexer
