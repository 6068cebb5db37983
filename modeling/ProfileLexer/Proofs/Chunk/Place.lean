import ProfileLexer.Proofs.Chunk.Finish
import ProfileLexer.Proofs.Chunk.Split
import ProfileLexer.Proofs.Token.Tiling

/-!
The places of chunks. Where lexemes lie end to end over a source, the place of a chunk that they are
cut into is the place of its text.
-/

namespace ProfileLexer

/-- The text of a chunk: those of its lexemes, one behind the other. -/
def Chunk.text (chunk : Chunk) : List Char :=
  chunk.lexemes.flatMap (·.text.toList)

namespace Lexeme

theorem Tiled.stop_getLast {start : Nat} {lexemes : List Lexeme} (tiled : Tiled start lexemes)
    {last : Lexeme} (atLast : lexemes.getLast? = some last) :
    last.stop = start + Text.byteLength (lexemes.flatMap (·.text.toList)) := by
  obtain ⟨before, rfl⟩ := List.getLast?_eq_some_iff.mp atLast
  have atEnd := (tiled_append.mp tiled).2.1
  rw [List.flatMap_append, Text.byteLength_append, List.flatMap_singleton, Text.byteLength_toList,
    stop, atEnd, Nat.add_assoc]

end Lexeme

namespace Chunk

variable {chunk : Chunk} {start : Nat}

theorem range_start (tiled : Lexeme.Tiled start chunk.lexemes) (nonempty : chunk.lexemes ≠ []) :
    chunk.range.start = start := by
  obtain ⟨first, rest, lexemes⟩ := List.exists_cons_of_ne_nil nonempty
  rw [lexemes] at tiled
  simpa [range, lexemes] using tiled.1

theorem range_stop (tiled : Lexeme.Tiled start chunk.lexemes) (nonempty : chunk.lexemes ≠ []) :
    chunk.range.stop = start + Text.byteLength chunk.text := by
  have atLast := List.getLast?_eq_some_getLast nonempty
  rw [text, ← tiled.stop_getLast atLast]
  simp [range, atLast]

end Chunk

namespace ChunkPlan

/-- The lexemes of a chunk are next to each other among those that were cut. How long the chunks are
is left open. -/
theorem exists_around_of_mem_splitFrom {length id left : Nat} {lexemes : List Lexeme} {chunk : Chunk}
    (member : chunk ∈ splitFrom length id lexemes left) :
    ∃ before after, lexemes = before ++ chunk.lexemes ++ after := by
  fun_induction splitFrom length id lexemes left with
  | case1 => cases member
  | case2 id lexemes =>
    rw [List.mem_singleton.mp member]
    exact ⟨[], [], by simp⟩
  | case3 id lexemes left ih =>
    rcases List.mem_cons.mp member with rfl | later
    · exact ⟨[], lexemes.drop length, by simp⟩
    · obtain ⟨before, after, split⟩ := ih later
      refine ⟨lexemes.take length ++ before, after, ?_⟩
      rw [List.append_assoc, List.append_assoc, ← List.append_assoc before, ← split,
        List.take_append_drop]

/-- The place of a chunk in the source is the place of its text, also if the chunk is empty. It
therefore never starts or ends inside a character. -/
theorem slice_of_mem_split {plan : ChunkPlan} {lexemes : List Lexeme} {source : String}
    {chunk : Chunk} (cover : Lexeme.Cover lexemes source) (member : chunk ∈ plan.split lexemes) :
    Text.slice? source.toList chunk.range.start chunk.range.stop = some chunk.text := by
  by_cases empty : chunk.lexemes = []
  · simp [Chunk.range, Chunk.text, empty, Text.slice?, Text.charsWithin?]
  · obtain ⟨before, after, split⟩ := exists_around_of_mem_splitFrom member
    have tiled := cover.tiled
    rw [split, Lexeme.tiled_append, Lexeme.tiled_append, Nat.zero_add] at tiled
    rw [Chunk.range_start tiled.1.2 empty, Chunk.range_stop tiled.1.2 empty, ← cover.texts, split,
      List.flatMap_append, List.flatMap_append, ← Text.byteLength_append]
    exact Text.slice?_append ..

end ChunkPlan

end ProfileLexer
