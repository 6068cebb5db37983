import ProfileLexer.Proofs.Chunk.History
import ProfileLexer.Proofs.Log.Computation
import ProfileLexer.Proofs.Text.Boundary

/-!
Putting a reassembly together. Every slot contributes a piece unless it is empty, or holds a fault
for a chunk whose place can not be cut out of the source.
-/

namespace ProfileLexer

namespace ChunkRange

/-- A place that can be cut out of a source: its ends are in order, and neither is inside a
character. -/
def Within (range : ChunkRange) (source : List Char) : Prop :=
  Text.IsBoundary source range.start ∧ Text.IsBoundary source range.stop ∧ range.start ≤ range.stop

theorem Within.slice {range : ChunkRange} {source : List Char} (within : range.Within source) :
    ∃ text, Text.slice? source range.start range.stop = some text :=
  Option.isSome_iff_exists.mp (Text.slice?_isSome within.1 within.2.1 within.2.2)

end ChunkRange

namespace Slot

theorem piece_of_result {slot : Slot} {done : WorkerResult} (source : List Char)
    (found : slot.result = some done) :
    (slot.piece source).result = .ok ⟨done.tokens, done.record, none⟩ := by
  rw [piece, found]
  rfl

theorem piece_of_fault {slot : Slot} {failed : WorkerFault} {source text : List Char}
    (missing : slot.result = none) (found : slot.fault = some failed)
    (place : Text.slice? source slot.range.start slot.range.stop = some text) :
    (slot.piece source).result = .ok (slot.degradedPiece failed (String.ofList text)) := by
  simp only [piece, missing, found, place]
  rw [Logged.result_bind_of_ok (Logged.result_log _)]
  rfl

theorem piece_of_empty {slot : Slot} (source : List Char) (missing : slot.result = none)
    (faultless : slot.fault = none) :
    (slot.piece source).result = .error (.chunkMissing slot.range.id) := by
  rw [piece, missing, faultless]
  rfl

/-- A slot that can not contribute names its chunk as missing, also where there is a fault and its
place is not in the source. -/
theorem piece_eq_error {slot : Slot} {source : List Char} {error : SchedulerError}
    (failed : (slot.piece source).result = .error error) :
    error = .chunkMissing slot.range.id ∧ slot.result = none ∧
      (slot.range.Within source → slot.fault = none) := by
  cases found : slot.result with
  | some done => simp [piece_of_result source found] at failed
  | none =>
    cases atFault : slot.fault with
    | none =>
      rw [piece_of_empty source found atFault] at failed
      cases failed
      exact ⟨rfl, rfl, fun _ => rfl⟩
    | some fault =>
      cases place : Text.slice? source slot.range.start slot.range.stop with
      | some text => simp [piece_of_fault found atFault place] at failed
      | none =>
        simp only [piece, found, atFault, place, Logged.result_fail] at failed
        cases failed
        refine ⟨rfl, rfl, fun within => ?_⟩
        obtain ⟨text, exists_⟩ := within.slice
        rw [place] at exists_
        cases exists_

end Slot

namespace Reassembler

/-- If every slot contributes a piece, the pieces are put together in the order of the slots. -/
theorem finish_of_pieces {α : Type} {reassembler : Reassembler} {source : String} {items : List α}
    {slotOf : α → Slot} {pieceOf : α → Piece} (slots : reassembler.slots = items.map slotOf)
    (ok : ∀ item ∈ items, ((slotOf item).piece source.toList).result = .ok (pieceOf item)) :
    (reassembler.finish source).result = .ok (.ofPieces (items.map pieceOf)) := by
  have pieces : (reassembler.slots.mapM (Slot.piece · source.toList)).result =
      .ok (items.map pieceOf) := by
    rw [slots, List.mapM_map]
    exact Logged.result_mapM_of_ok ok
  rw [finish, Logged.result_bind_of_ok pieces]
  rfl

/-- Putting things together fails only because of an empty slot or of a place that is not in the
source, and the error names the chunk. Which of several such slots is named is left open. -/
theorem finish_eq_error {reassembler : Reassembler} {source : String} {error : SchedulerError}
    (failed : (reassembler.finish source).result = .error error) :
    ∃ slot ∈ reassembler.slots, error = .chunkMissing slot.range.id ∧ slot.result = none ∧
      (slot.range.Within source.toList → slot.fault = none) := by
  rw [finish, Logged.result_bind_eq_error] at failed
  rcases failed with atPieces | ⟨pieces, _, impossible⟩
  · obtain ⟨before, slot, after, split, atSlot, _⟩ := Logged.result_mapM_eq_error atPieces
    refine ⟨slot, ?_, Slot.piece_eq_error atSlot⟩
    rw [split]
    simp
  · cases impossible

/-- With an empty slot nothing can be put together, whatever the other slots hold. -/
theorem finish_of_empty {reassembler : Reassembler} {slot : Slot} (source : String)
    (member : slot ∈ reassembler.slots) (missing : slot.result = none)
    (faultless : slot.fault = none) :
    ∃ error, (reassembler.finish source).result = .error error := by
  cases ran : (reassembler.finish source).result with
  | error error => exact ⟨error, rfl⟩
  | ok reassembly =>
    rw [finish, Logged.result_bind_eq_ok] at ran
    obtain ⟨pieces, ok, _⟩ := ran
    obtain ⟨piece, atSlot⟩ := Logged.result_of_mem_of_mapM ok member
    rw [Slot.piece_of_empty _ missing faultless] at atSlot
    cases atSlot

end Reassembler

end ProfileLexer
