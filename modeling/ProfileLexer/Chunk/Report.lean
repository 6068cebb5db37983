import ProfileLexer.Chunk.Basic
import ProfileLexer.Classifier
import ProfileLexer.Token.Stream

/-!
What workers hand back for their chunks.
-/

namespace ProfileLexer

/-- What classifying one chunk yields. The counts are those of this chunk alone, since a classifier
is drained between chunks. -/
structure ChunkOutput where
  tokens : List Token
  tally : Tally
  disagreements : List Disagreement
  deriving DecidableEq, Repr, Inhabited

/-- What is kept about one chunk at the end of a run. A chunk that was given up has a record like
any other, with the one token that stands for it. -/
structure ChunkRecord where
  chunk : Nat
  worker : Nat
  lexemes : Nat
  tokens : Nat
  invalid : Nat
  kinds : List (TokenKind × Nat)
  /-- How long the worker took, in nanoseconds. -/
  elapsed : Nat
  tally : Tally
  disagreements : List Disagreement
  /-- The chunk was given up. -/
  degraded : Bool
  deriving DecidableEq, Repr, Inhabited

/-- The record of a chunk that became some tokens, with the counts of the classifier left at zero
for the caller to fill in. -/
def ChunkRecord.ofTokens (chunk worker lexemes : Nat) (tokens : List Token) : ChunkRecord where
  chunk := chunk
  worker := worker
  lexemes := lexemes
  tokens := tokens.length
  invalid := tokens.countP (!·.valid)
  kinds := kindCounts tokens
  elapsed := 0
  tally := .zero
  disagreements := []
  degraded := false

/-- The tokens of one chunk, with its record. That the record counts these tokens is not part of the
structure. -/
structure WorkerResult where
  chunk : Nat
  worker : Nat
  tokens : List Token
  record : ChunkRecord
  deriving DecidableEq, Repr, Inhabited

/-- The result that a worker makes of its output for a chunk of `lexemes` lexemes. -/
def WorkerResult.ofOutput (chunk worker lexemes : Nat) (output : ChunkOutput) : WorkerResult where
  chunk := chunk
  worker := worker
  tokens := output.tokens
  record := { ChunkRecord.ofTokens chunk worker lexemes output.tokens with
    tally := output.tally
    disagreements := output.disagreements }

/-- Why a worker has no tokens for a chunk. Refusing a chunk and breaking down on it differ in a
flag only, and a pool answers both in the same way. -/
structure WorkerFault where
  chunk : Nat
  worker : Nat
  message : String
  /-- The worker broke down instead of refusing the chunk. -/
  panicked : Bool
  deriving DecidableEq, Repr, Inhabited

def WorkerFault.text (fault : WorkerFault) : String :=
  "worker " ++ toString fault.worker ++ " failed on chunk " ++ toString fault.chunk ++ ": " ++
    fault.message

/-- What a worker reports on one chunk. Every chunk that a worker takes up becomes one of the two,
but not every report is received. -/
inductive ChunkReport where
  | result (result : WorkerResult)
  | fault (fault : WorkerFault)
  deriving DecidableEq, Repr, Inhabited

def ChunkReport.isFault : ChunkReport → Bool
  | result _ => false
  | fault _ => true

def ChunkReport.chunk : ChunkReport → Nat
  | result done => done.chunk
  | fault failed => failed.chunk

end ProfileLexer
