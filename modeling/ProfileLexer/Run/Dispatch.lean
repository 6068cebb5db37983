import ProfileLexer.Chunk.Plan
import ProfileLexer.Pool.Basic
import ProfileLexer.Settings.Host

/-!
Dispatch: lexemes are cut into chunks by a plan, and a pool of workers turns the chunks into tokens.
-/

namespace ProfileLexer

/-- The number of workers that preferences ask for on a machine. Zero is an error, while a number
above the limit of the build is cut to it. -/
def SchedulePreferences.workerCount (preferences : SchedulePreferences) (host : Host) :
    Except SchedulerError Nat :=
  match preferences.workers with
  | some 0 => .error (.invalidWorkerCount 0 Limits.maxWorkers)
  | some workers => .ok (min workers Limits.maxWorkers)
  | none => .ok host.defaultWorkers

def SchedulePreferences.plan (preferences : SchedulePreferences) (host : Host) (total : Nat) :
    Except SchedulerError ChunkPlan := do
  let workers ← preferences.workerCount host
  return .compute total workers preferences.minChunk preferences.threshold

structure ScheduledRun where
  plan : ChunkPlan
  reassembly : Reassembly
  deriving DecidableEq, Repr, Inhabited

/-- Has the lexemes of a source turned into tokens by a crew whose turns a schedule sets. It is
not checked that the lexemes are those of the source; the source is used for chunks that are
given up. -/
def dispatch {σ : Type} (preferences : SchedulePreferences) (host : Host) (label : String)
    (crew : Crew σ) (schedule : Schedule) (source : String) (lexemes : List Lexeme) :
    Logged SchedulerError ScheduledRun := do
  let plan ← Logged.ofExcept (preferences.plan host lexemes.length)
  Logged.log <| (Event.info "Dispatching chunks").withDetails
    [("lexemes", toString plan.total), ("chunks", toString plan.count),
      ("chunk_len", toString plan.length), ("workers", toString plan.workers),
      ("policy", preferences.policy.word)]
  let pool : Pool := ⟨plan.workers, preferences.policy, label⟩
  let reassembly ← pool.run crew schedule source (plan.split lexemes)
  Logged.logTimed <| (Event.success .reassemblyComplete "Chunks reassembled").withDetails
    [("chunks", toString plan.count), ("tokens", toString reassembly.tokens.length),
      ("degraded", toString reassembly.degraded.length)]
  return ⟨plan, reassembly⟩

end ProfileLexer
