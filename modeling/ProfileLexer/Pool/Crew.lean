import ProfileLexer.Chunk.Report

/-!
Crews: how the workers of a pool behave. A worker is started once and then given one chunk after
another; it keeps a state of its own from chunk to chunk.
-/

namespace ProfileLexer

/-- What a worker makes of a chunk. Breaking down on a chunk is an answer like any other and does
not by itself end the worker. -/
inductive ChunkAnswer where
  | done (output : ChunkOutput)
  /-- The worker refuses the chunk. -/
  | refused (message : String)
  /-- The worker breaks down on the chunk. -/
  | panicked (message : String)
  deriving DecidableEq, Repr, Inhabited

/-- How workers behave whose states are of type `σ`. A worker sees its number, its own state and its
chunk, but neither the other workers nor the schedule. -/
structure Crew (σ : Type) where
  /-- The first state of a worker, or why the worker breaks down before it has one. -/
  start : Nat → Except String σ
  /-- What a worker makes of a chunk, its next state, and what it logs. -/
  process : σ → Chunk → ChunkAnswer × σ × List Entry

namespace ChunkAnswer

def report (worker : Nat) (chunk : Chunk) : ChunkAnswer → ChunkReport
  | done output => .result (.ofOutput chunk.id worker chunk.lexemes.length output)
  | refused message => .fault ⟨chunk.id, worker, message, false⟩
  | panicked message => .fault ⟨chunk.id, worker, message, true⟩

def entries (chunk : Chunk) : ChunkAnswer → List Entry
  | done output =>
    [.performance <| (Event.success .chunkComplete "Chunk classified").withDetails
      [("lexemes", toString chunk.lexemes.length), ("tokens", toString output.tokens.length)]]
  | refused _ => []
  | panicked _ =>
    [.plain <| (Event.debug "Worker panic caught").withDetail "chunk" (toString chunk.id)]

end ChunkAnswer

namespace Crew

variable {σ : Type}

/-- What a worker reports on a chunk, its next state, and all that is logged on the way. Every entry
without a context of its own names the run, the worker and the chunk. -/
def handle (crew : Crew σ) (label : String) (worker : Nat) (state : σ) (chunk : Chunk) :
    ChunkReport × σ × List Entry :=
  let (answer, next, logged) := crew.process state chunk
  (answer.report worker chunk, next,
    (logged ++ answer.entries chunk).map (Entry.inside (.ofChunk label worker chunk.id)))

/-- Workers that classify, each with a classifier of its own. It is drained after every chunk, so
that the counts of a chunk do not depend on the chunks before it, and such a worker never fails. -/
def classifying (profile : Profile) (preferences : ClassifyPreferences) : Crew Classifier where
  start _ := .ok (.ofProfile profile preferences)
  process classifier chunk :=
    let (tokens, classifier, logged) := classifier.classifyAll chunk.lexemes
    (.done ⟨tokens, classifier.tally, classifier.samples.toList⟩, classifier.drain, logged)

end Crew

end ProfileLexer
