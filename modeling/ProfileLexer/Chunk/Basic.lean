import ProfileLexer.Token.Basic

/-!
Chunks: runs of neighbouring lexemes that are classified together.
-/

namespace ProfileLexer

/-- Neighbouring lexemes under a number. That they are neighbours, and that no two chunks share a
number, is what a plan provides and not part of the structure. -/
structure Chunk where
  id : Nat
  lexemes : List Lexeme
  deriving DecidableEq, Repr, Inhabited

/-- The place of a chunk in its source, in bytes. It outlives the chunk: when a chunk is given up,
its place tells which text is lost. -/
structure ChunkRange where
  id : Nat
  start : Nat
  stop : Nat
  /-- The number of lexemes. -/
  lexemes : Nat
  deriving DecidableEq, Repr, Inhabited

/-- The place of a chunk; a chunk without lexemes stands at the start of the source. -/
def Chunk.range (chunk : Chunk) : ChunkRange where
  id := chunk.id
  start := (chunk.lexemes.head?.map (·.offset)).getD 0
  stop := (chunk.lexemes.getLast?.map Lexeme.stop).getD 0
  lexemes := chunk.lexemes.length

end ProfileLexer
