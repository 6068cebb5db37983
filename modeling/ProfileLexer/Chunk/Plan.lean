import ProfileLexer.Chunk.Basic
import ProfileLexer.Word

/-!
Plans: into how many chunks of which length lexemes are cut, and for how many workers.
-/

namespace ProfileLexer

structure ChunkPlan where
  /-- The number of lexemes. -/
  total : Nat
  /-- The length of every chunk but the last, which takes what is left. -/
  length : Nat
  /-- The number of chunks. -/
  count : Nat
  workers : Nat
  deriving DecidableEq, Repr, Inhabited

namespace ChunkPlan

/-- A plan for a number of lexemes. One worker, or fewer lexemes than `threshold`, make one chunk;
fewer lexemes than workers make chunks of one lexeme. Otherwise there are about two chunks for each
worker, none shorter than `minChunk`. -/
def compute (total workers minChunk threshold : Nat) : ChunkPlan :=
  let workers := max workers 1
  if total = 0 then ⟨0, 0, 0, 1⟩
  else if workers = 1 ∨ total < threshold then ⟨total, total, 1, 1⟩
  else if total < workers then ⟨total, 1, total, total⟩
  else
    let length := max (total / (2 * workers)) (max minChunk 1)
    let count := max (total / length) 1
    ⟨total, length, count, min workers count⟩

/-- The plan, unless making it means to count to twice the number of workers and that number does
not fit into 64 bits. -/
def compute? (total workers minChunk threshold : Nat) : Option ChunkPlan :=
  if 0 < total ∧ threshold ≤ total ∧ workers ≤ total ∧ wordLimit ≤ 2 * workers then none
  else some (compute total workers minChunk threshold)

def isParallel (plan : ChunkPlan) : Bool :=
  plan.workers > 1

/-- Cuts lexemes into `left` chunks numbered from `id`. The last chunk takes all lexemes that are
left, and may be longer or shorter than the others. -/
def splitFrom (length id : Nat) (lexemes : List Lexeme) : Nat → List Chunk
  | 0 => []
  | 1 => [⟨id, lexemes⟩]
  | left + 2 =>
    ⟨id, lexemes.take length⟩ :: splitFrom length (id + 1) (lexemes.drop length) (left + 1)

def split (plan : ChunkPlan) (lexemes : List Lexeme) : List Chunk :=
  splitFrom plan.length 0 lexemes plan.count

def assignedTo (plan : ChunkPlan) (worker : Nat) : List Nat :=
  let workers := max plan.workers 1
  (List.range ((plan.count - worker + workers - 1) / workers)).map fun step =>
    worker + step * workers

def toValue (plan : ChunkPlan) : Value :=
  .record [
    ("total_lexemes", .nat plan.total),
    ("chunk_len", .nat plan.length),
    ("chunk_count", .nat plan.count),
    ("workers", .nat plan.workers)]

end ChunkPlan

end ProfileLexer
