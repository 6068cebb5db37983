import ProfileLexer.Decimal.Shortest
import ProfileLexer.Run.Benchmark

/-!
Metrics and benchmark reports as values.
-/

namespace ProfileLexer

/-- The value of a floating point number; null unless it is finite. -/
def Value.float (x : Float) : Value :=
  if x.isFinite then .number (Decimal.jsonNumber x) else .null

def durationValue (nanoseconds : Nat) : Value :=
  .record [
    ("secs", .nat (nanoseconds / 1000000000)),
    ("nanos", .nat (nanoseconds % 1000000000))]

def ChunkRecord.toValue (record : ChunkRecord) : Value :=
  .record [
    ("chunk_id", .nat record.chunk),
    ("worker_id", .nat record.worker),
    ("lexemes", .nat record.lexemes),
    ("tokens", .nat record.tokens),
    ("invalid", .nat record.invalid),
    ("kind_counts", kindCountsValue record.kinds),
    ("elapsed", durationValue record.elapsed),
    ("classification", record.tally.toValue),
    ("disagreements", .list (record.disagreements.map (·.toValue))),
    ("degraded", .flag record.degraded)]

def WorkerSummary.toValue (summary : WorkerSummary) : Value :=
  .record [
    ("worker_id", .nat summary.worker),
    ("chunks", .nat summary.chunks),
    ("tokens", .nat summary.tokens),
    ("busy_ms", .float (milliseconds summary.busy)),
    ("tokens_per_second", .float summary.tokensPerSecond)]

def Token.invalidValue (token : Token) : Value :=
  .record [
    ("offset", .nat token.offset),
    ("text", .text token.text),
    ("kind", .text token.kind.name),
    ("issue", .text? (token.issue.map (·.name)))]

def Scan.ruleHitsValue (scan : Scan) : Value :=
  .record (scan.ruleHits.map fun (rule, count) => (rule.name, .nat count))

def Scan.toValue (scan : Scan) (elapsed : Nat) : Value :=
  .record [
    ("source_bytes", .nat scan.sourceBytes),
    ("lexemes", .nat scan.bounded.length),
    ("rule_hits", scan.ruleHitsValue),
    ("longest_lexeme", .nat scan.longest),
    ("line_count", .nat? scan.lineCount),
    ("elapsed", durationValue elapsed)]

def RunMetrics.toValue (metrics : RunMetrics) : Value :=
  .record [
    ("started_at", .text (Instant.text metrics.readings.started ++ "Z")),
    ("profile", .text metrics.profile),
    ("source_bytes", .nat metrics.scan.sourceBytes),
    ("lexemes", .nat metrics.scan.bounded.length),
    ("tokens", .nat metrics.tokens),
    ("invalid", .nat metrics.invalid),
    ("kind_counts", kindCountsValue metrics.kinds),
    ("invalid_tokens", .list (metrics.invalidTokens.map (·.invalidValue))),
    ("workers_used", .nat metrics.plan.workers),
    ("chunk_len", .nat metrics.plan.length),
    ("chunks", .list (metrics.chunks.map (·.toValue))),
    ("workers", .list (metrics.workers.map (·.toValue))),
    ("degraded_chunks", .list (metrics.degraded.map .nat)),
    ("classification", metrics.tally.toValue),
    ("disagreements", .list (metrics.disagreements.map (·.toValue))),
    ("scan", metrics.scan.toValue metrics.readings.scan),
    ("durations", .record [
      ("scan_ms", .float (milliseconds metrics.readings.scan)),
      ("classify_ms", .float (milliseconds metrics.readings.classify)),
      ("reassemble_ms", .float (milliseconds metrics.readings.reassemble)),
      ("total_ms", .float (milliseconds metrics.readings.total))])]

def BenchmarkRun.toValue (run : BenchmarkRun) : Value :=
  .record [
    ("workers", .nat run.workers),
    ("chunks", .nat run.chunks),
    ("elapsed_ms", .float run.elapsed),
    ("tokens_per_second", .float run.tokensPerSecond),
    ("speedup", .float run.speedup),
    ("efficiency", .float run.efficiency)]

def BenchmarkReport.toValue (report : BenchmarkReport) : Value :=
  .record [
    ("profile", .text report.profile),
    ("source_bytes", .nat report.sourceBytes),
    ("tokens", .nat report.tokens),
    ("runs", .list (report.runs.map (·.toValue))),
    ("best_workers", .nat report.bestWorkers)]

end ProfileLexer
