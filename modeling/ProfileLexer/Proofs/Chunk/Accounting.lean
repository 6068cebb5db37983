import Mathlib.Algebra.GroupWithZero.Nat
import ProfileLexer.Proofs.Chunk.Finish

/-!
What a reassembler counts. A chunk is delivered when a result for it, or a fault that the policy
lets through, has arrived; it is overtaken when a fault was there before its first result. An
overtaken chunk is counted twice, so the number of reports received is the number of delivered
chunks exactly as long as no chunk is overtaken.
-/

namespace ProfileLexer

namespace Reassembler

/-- A history has something for a chunk that its slot keeps: a result, or a fault that the policy
lets through. How many of them there are does not matter. -/
def delivered (policy : FailurePolicy) (history : List ChunkReport) (chunk : Nat) : Bool :=
  history.any fun report =>
    (report.resultOf? chunk).isSome || (report.faultOf? policy chunk).isSome

/-- A fault for a chunk arrives before the first result for it, which arrives all the same. Faults
behind the first result do not count. -/
def overtaken (policy : FailurePolicy) (history : List ChunkReport) (chunk : Nat) : Bool :=
  (history.any fun report => (report.resultOf? chunk).isSome) &&
    (history.takeWhile fun report => (report.resultOf? chunk).isNone).any fun report =>
      (report.faultOf? policy chunk).isSome

/-- How often a chunk is counted: once when it is delivered, and once more when it is overtaken. -/
def weight (policy : FailurePolicy) (history : List ChunkReport) (chunk : Nat) : Nat :=
  (delivered policy history chunk).toNat + (overtaken policy history chunk).toNat

theorem isSome_lastResult? (history : List ChunkReport) (chunk : Nat) :
    (lastResult? history chunk).isSome =
      history.any fun report => (report.resultOf? chunk).isSome := by
  rw [Bool.eq_iff_iff, lastResult?, List.findSome?_isSome_iff]
  simp

theorem isSome_lastFault? (policy : FailurePolicy) (history : List ChunkReport) (chunk : Nat) :
    (lastFault? policy history chunk).isSome =
      history.any fun report => (report.faultOf? policy chunk).isSome := by
  rw [Bool.eq_iff_iff, lastFault?, List.findSome?_isSome_iff]
  simp

/-- A chunk is delivered exactly when its slot is not empty, whichever of the two a slot keeps. -/
theorem delivered_eq (policy : FailurePolicy) (history : List ChunkReport) (chunk : Nat) :
    delivered policy history chunk =
      ((lastResult? history chunk).isSome || (lastFault? policy history chunk).isSome) := by
  rw [isSome_lastResult?, isSome_lastFault?]
  induction history with
  | nil => rfl
  | cons report history ih =>
    rw [delivered] at ih ⊢
    simp only [List.any_cons, ih]
    cases (report.resultOf? chunk).isSome <;> cases (report.faultOf? policy chunk).isSome <;> simp

/-- Once there is a result for a chunk, later reports do not change what came before it. -/
theorem overtaken_concat_of_result {policy : FailurePolicy} {history : List ChunkReport}
    {chunk : Nat} (report : ChunkReport) (found : (lastResult? history chunk).isSome) :
    overtaken policy (history ++ [report]) chunk = overtaken policy history chunk := by
  rw [isSome_lastResult?] at found
  have front : (history ++ [report]).takeWhile (fun report => (report.resultOf? chunk).isNone) =
      history.takeWhile fun report => (report.resultOf? chunk).isNone := by
    induction history with
    | nil => simp at found
    | cons first history ih =>
      rw [List.cons_append, List.takeWhile_cons, List.takeWhile_cons]
      cases atFirst : first.resultOf? chunk with
      | some done => rfl
      | none =>
        rw [List.any_cons, atFirst, Option.isSome_none, Bool.false_or] at found
        rw [ih found]
  rw [overtaken, overtaken, front, List.any_append, found, Bool.true_or]

/-- Without a result for a chunk, the whole history comes before the first one. -/
theorem overtaken_concat_of_no_result {policy : FailurePolicy} {history : List ChunkReport}
    {chunk : Nat} (report : ChunkReport) (missing : lastResult? history chunk = none) :
    overtaken policy (history ++ [report]) chunk =
      ((report.resultOf? chunk).isSome && (lastFault? policy history chunk).isSome) := by
  have none : (history.any fun report => (report.resultOf? chunk).isSome) = false := by
    rw [← isSome_lastResult?, missing]; rfl
  have before : ∀ earlier ∈ history, (earlier.resultOf? chunk).isNone = true := by
    intro earlier member
    have := List.any_eq_false.mp none earlier member
    simpa using this
  rw [overtaken, List.any_append, none, Bool.false_or, List.any_cons, List.any_nil, Bool.or_false]
  cases atReport : report.resultOf? chunk with
  | none => rfl
  | some done =>
    have front : (history ++ [report]).takeWhile (fun report => (report.resultOf? chunk).isNone) =
        history := by
      rw [List.takeWhile_append_of_pos before, List.takeWhile_cons, atReport]
      simp
    rw [front, isSome_lastFault?]

theorem overtaken_of_no_result {policy : FailurePolicy} {history : List ChunkReport}
    {chunk : Nat} (missing : lastResult? history chunk = none) :
    overtaken policy history chunk = false := by
  rw [overtaken, ← isSome_lastResult?, missing]
  rfl

/-- A report changes how often its own chunk is counted, and no other, so counts add up chunk by
chunk. -/
theorem weight_concat_of_ne (policy : FailurePolicy) (history : List ChunkReport)
    {report : ChunkReport} {chunk : Nat} (other : report.chunk ≠ chunk) :
    weight policy (history ++ [report]) chunk = weight policy history chunk := by
  have noResult : report.resultOf? chunk = none := by
    cases report with
    | fault failed => rfl
    | result done => exact if_neg other
  have noFault : report.faultOf? policy chunk = none := by
    cases report with
    | result done => rfl
    | fault failed => exact if_neg fun both => other both.2
  have sameDelivered :
      delivered policy (history ++ [report]) chunk = delivered policy history chunk := by
    rw [delivered_eq, delivered_eq, lastResult?_concat, lastFault?_concat, noResult, noFault]
    rfl
  have sameOvertaken :
      overtaken policy (history ++ [report]) chunk = overtaken policy history chunk := by
    cases found : lastResult? history chunk with
    | some done => exact overtaken_concat_of_result report (by rw [found]; rfl)
    | none =>
      rw [overtaken_concat_of_no_result report found, overtaken_of_no_result found, noResult]
      rfl
  rw [weight, weight, sameDelivered, sameOvertaken]

/-- A result counts unless there was one before, whether or not there was a fault. This is where a
chunk comes to be counted twice. -/
theorem weight_concat_result (policy : FailurePolicy) (history : List ChunkReport)
    (done : WorkerResult) :
    weight policy (history ++ [.result done]) done.chunk =
      weight policy history done.chunk + (lastResult? history done.chunk).isNone.toNat := by
  have own : (ChunkReport.result done).resultOf? done.chunk = some done := if_pos rfl
  have now : delivered policy (history ++ [.result done]) done.chunk = true := by
    rw [delivered_eq, lastResult?_concat, own]
    rfl
  cases found : lastResult? history done.chunk with
  | some earlier =>
    have before : delivered policy history done.chunk = true := by
      rw [delivered_eq, found]; rfl
    rw [weight, weight, now, before, overtaken_concat_of_result _ (by rw [found]; rfl)]
    rfl
  | none =>
    rw [weight, weight, now, delivered_eq, found, overtaken_of_no_result found,
      overtaken_concat_of_no_result _ found, own]
    cases (lastFault? policy history done.chunk).isSome <;> rfl

/-- A fault counts unless there was a fault or a result before. Under the aborting policy it never
counts. -/
theorem weight_concat_fault (history : List ChunkReport) (failed : WorkerFault) :
    weight .degradeChunk (history ++ [.fault failed]) failed.chunk =
      weight .degradeChunk history failed.chunk +
        ((lastFault? .degradeChunk history failed.chunk).isNone &&
          (lastResult? history failed.chunk).isNone).toNat := by
  have own : (ChunkReport.fault failed).faultOf? .degradeChunk failed.chunk = some failed :=
    if_pos ⟨rfl, rfl⟩
  have noResult : (ChunkReport.fault failed).resultOf? failed.chunk = none := rfl
  have now : delivered .degradeChunk (history ++ [.fault failed]) failed.chunk = true := by
    rw [delivered_eq, lastResult?_concat, lastFault?_concat, own, noResult]
    simp
  cases found : lastResult? history failed.chunk with
  | some earlier =>
    have before : delivered .degradeChunk history failed.chunk = true := by
      rw [delivered_eq, found]; rfl
    rw [weight, weight, now, before, overtaken_concat_of_result _ (by rw [found]; rfl)]
    simp
  | none =>
    rw [weight, weight, now, delivered_eq, found, overtaken_of_no_result found,
      overtaken_concat_of_no_result _ found, noResult]
    cases lastFault? .degradeChunk history failed.chunk <;> rfl

theorem weight_concat_fault_of_abort (history : List ChunkReport) (failed : WorkerFault)
    (chunk : Nat) :
    weight .abortRun (history ++ [.fault failed]) chunk = weight .abortRun history chunk := by
  have noFault : (ChunkReport.fault failed).faultOf? .abortRun chunk = none := by
    simp [ChunkReport.faultOf?]
  have noResult : (ChunkReport.fault failed).resultOf? chunk = none := rfl
  have sameDelivered : delivered .abortRun (history ++ [.fault failed]) chunk =
      delivered .abortRun history chunk := by
    rw [delivered_eq, delivered_eq, lastResult?_concat, lastFault?_concat, noFault, noResult]
    rfl
  cases found : lastResult? history chunk with
  | some done =>
    rw [weight, weight, sameDelivered, overtaken_concat_of_result _ (by rw [found]; rfl)]
  | none =>
    rw [weight, weight, sameDelivered, overtaken_of_no_result found,
      overtaken_concat_of_no_result _ found, noResult]
    rfl

/-- Two measures that agree on all numbers but one have sums that differ by that one. Written
additively to avoid truncated subtraction. -/
theorem total_range_of_agree {count chosen : Nat} {before after : Nat → Nat}
    (within : chosen < count) (agree : ∀ other, other ≠ chosen → after other = before other) :
    ((List.range count).map after).sum + before chosen =
      ((List.range count).map before).sum + after chosen := by
  induction count with
  | zero => omega
  | succ count ih =>
    simp only [List.range_succ, List.map_append, List.map_singleton, List.sum_append,
      List.sum_singleton]
    by_cases last : chosen = count
    · subst last
      have same : (List.range chosen).map after = (List.range chosen).map before := by
        apply List.map_congr_left
        intro other member
        exact agree other (by have := List.mem_range.mp member; omega)
      rw [same]
      omega
    · have := ih (by omega)
      have := agree count (Ne.symm last)
      omega

@[simp] theorem received_update (reassembler : Reassembler) (chunk : Nat) (slot : Slot)
    (filled : Bool) :
    (reassembler.update chunk slot filled).received = reassembler.received + filled.toNat := by
  cases filled <;> rfl

/-- What is received is what every chunk counts for. Reports on chunks that are not there count for
nothing. -/
theorem received_takeAll (policy : FailurePolicy) (ranges : List ChunkRange)
    (history : List ChunkReport) :
    ((ofRanges policy ranges).takeAll history).received =
      ((List.range ranges.length).map (weight policy history)).sum := by
  induction history using List.reverseRecOn with
  | nil =>
    have zero : (List.range ranges.length).map (weight policy []) =
        List.replicate ranges.length 0 := by
      rw [List.eq_replicate_iff]
      simp [weight, delivered, overtaken]
    rw [zero]
    simp [ofRanges]
  | append_singleton history report ih =>
    rw [takeAll_concat]
    have policyEq : ((ofRanges policy ranges).takeAll history).policy = policy := by
      rw [takeAll_policy]; rfl
    cases inRange : ranges[report.chunk]? with
    | none =>
      have missing : ((ofRanges policy ranges).takeAll history).slots[report.chunk]? = none := by
        rw [slots_takeAll, List.getElem?_mapIdx, inRange]; rfl
      have outside : ranges.length ≤ report.chunk := List.getElem?_eq_none_iff.mp inRange
      rw [receive_of_no_slot missing, ih]
      congr 1
      apply List.map_congr_left
      intro chunk member
      have := List.mem_range.mp member
      exact (weight_concat_of_ne policy history (by omega)).symm
    | some range =>
      have within : report.chunk < ranges.length := (List.getElem?_eq_some_iff.mp inRange).1
      have atSlot : ((ofRanges policy ranges).takeAll history).slots[report.chunk]? =
          some (slotAfter policy history report.chunk range) := by
        rw [slots_takeAll, List.getElem?_mapIdx, inRange]; rfl
      have balance : ((List.range ranges.length).map (weight policy (history ++ [report]))).sum +
            weight policy history report.chunk =
          ((List.range ranges.length).map (weight policy history)).sum +
            weight policy (history ++ [report]) report.chunk :=
        total_range_of_agree within fun other apart =>
          weight_concat_of_ne policy history (Ne.symm apart)
      cases report with
      | result done =>
        have own := weight_concat_result policy history done
        rw [receive_result atSlot, received_update, ih]
        simp only [ChunkReport.chunk, slotAfter] at balance ⊢
        omega
      | fault failed =>
        cases policy with
        | abortRun =>
          have own := weight_concat_fault_of_abort history failed failed.chunk
          rw [receive_fault_of_abort failed policyEq, ih]
          simp only [ChunkReport.chunk] at balance
          omega
        | degradeChunk =>
          have own := weight_concat_fault history failed
          rw [receive_fault policyEq atSlot, received_update, ih]
          simp only [ChunkReport.chunk, slotAfter] at balance ⊢
          omega

theorem total_weight (policy : FailurePolicy) (history : List ChunkReport) (chunks : List Nat) :
    (chunks.map (weight policy history)).sum =
      chunks.countP (delivered policy history) + chunks.countP (overtaken policy history) := by
  induction chunks with
  | nil => rfl
  | cons chunk chunks ih =>
    rw [List.map_cons, List.sum_cons, ih, List.countP_cons, List.countP_cons, weight]
    cases delivered policy history chunk <;> cases overtaken policy history chunk <;>
      simp only [Bool.toNat_true, Bool.toNat_false, Bool.false_eq_true, if_true, if_false] <;> omega

/-- The reports received are the chunks delivered and, once more, the chunks overtaken. Nothing is
assumed of the history: reports may come twice, in any order, and on unknown chunks. -/
theorem received_eq (policy : FailurePolicy) (ranges : List ChunkRange)
    (history : List ChunkReport) :
    ((ofRanges policy ranges).takeAll history).received =
      (List.range ranges.length).countP (delivered policy history) +
        (List.range ranges.length).countP (overtaken policy history) := by
  rw [received_takeAll, total_weight]

theorem isComplete_takeAll (policy : FailurePolicy) (ranges : List ChunkRange)
    (history : List ChunkReport) :
    ((ofRanges policy ranges).takeAll history).isComplete ↔
      (List.range ranges.length).countP (delivered policy history) +
        (List.range ranges.length).countP (overtaken policy history) = ranges.length := by
  rw [isComplete, expected, beq_iff_eq, received_eq, length_slots_takeAll]

/-- A slot that contributes nothing belongs to a chunk that is not delivered, and the other way
around. The number in the error is that of the place, which need not be the number of the slot. -/
theorem finish_takeAll_eq_missing {policy : FailurePolicy} {ranges : List ChunkRange}
    {history : List ChunkReport} {source : String}
    (within : ∀ range ∈ ranges, range.Within source.toList) :
    (∃ chunk, (((ofRanges policy ranges).takeAll history).finish source).result =
        .error (.chunkMissing chunk)) ↔
      ∃ chunk < ranges.length, delivered policy history chunk = false := by
  constructor
  · rintro ⟨chunk, failed⟩
    obtain ⟨slot, member, _, missing, faultless⟩ := finish_eq_error failed
    rw [slots_takeAll] at member
    obtain ⟨i, inside, rfl⟩ := List.mem_mapIdx.mp member
    have noFault := faultless (within _ (List.getElem_mem inside))
    refine ⟨i, inside, ?_⟩
    simp only [slotAfter] at missing noFault
    rw [delivered_eq, missing, noFault]
    rfl
  · rintro ⟨chunk, inside, undelivered⟩
    rw [delivered_eq, Bool.or_eq_false_iff] at undelivered
    have member : slotAfter policy history chunk ranges[chunk] ∈
        ((ofRanges policy ranges).takeAll history).slots := by
      rw [slots_takeAll]
      exact List.mem_mapIdx.mpr ⟨chunk, inside, rfl⟩
    obtain ⟨error, failed⟩ := finish_of_empty source member
      (by simpa [slotAfter] using undelivered.1) (by simpa [slotAfter] using undelivered.2)
    obtain ⟨slot, _, rfl, _⟩ := finish_eq_error failed
    exact ⟨slot.range.id, failed⟩

theorem countP_range_eq_zero {count : Nat} {test : Nat → Bool} :
    (List.range count).countP test = 0 ↔ ∀ chunk < count, test chunk = false := by
  simp

theorem countP_range_eq_self {count : Nat} {test : Nat → Bool} :
    (List.range count).countP test = count ↔ ∀ chunk < count, test chunk = true := by
  have all := List.countP_eq_length (p := test) (l := List.range count)
  rw [List.length_range] at all
  simp [all]

/-- What a reassembler counts after any history. Reports received are the delivered chunks, unless a
result comes after a fault for the same chunk, which counts twice. As long as that does not happen,
a reassembler is complete exactly when every chunk is delivered; and whether something is missing at
the end depends on the chunks delivered alone. A refused report leaves everything as it was. The
history may be one that no pool would make. -/
theorem received_eq_delivered_iff (policy : FailurePolicy) (ranges : List ChunkRange)
    (history : List ChunkReport) :
    let reassembler := (ofRanges policy ranges).takeAll history
    let chunks := List.range ranges.length
    reassembler.received =
        chunks.countP (delivered policy history) + chunks.countP (overtaken policy history) ∧
      (reassembler.received = chunks.countP (delivered policy history) ↔
        ∀ chunk < ranges.length, overtaken policy history chunk = false) ∧
      (reassembler.isComplete ↔
        chunks.countP (delivered policy history) + chunks.countP (overtaken policy history) =
          ranges.length) ∧
      ((∀ chunk < ranges.length, overtaken policy history chunk = false) →
        (reassembler.isComplete ↔ ∀ chunk < ranges.length, delivered policy history chunk)) ∧
      (∀ source : String, (∀ range ∈ ranges, range.Within source.toList) →
        ((∃ chunk, (reassembler.finish source).result = .error (.chunkMissing chunk)) ↔
          ∃ chunk < ranges.length, delivered policy history chunk = false)) ∧
      ∀ report error, (reassembler.receive report).2 = some error →
        (reassembler.receive report).1 = reassembler := by
  intro reassembler chunks
  have received : reassembler.received =
      chunks.countP (delivered policy history) + chunks.countP (overtaken policy history) :=
    received_eq policy ranges history
  have none : chunks.countP (overtaken policy history) = 0 ↔
      ∀ chunk < ranges.length, overtaken policy history chunk = false :=
    countP_range_eq_zero
  refine ⟨received, ?_, isComplete_takeAll policy ranges history, ?_, ?_, ?_⟩
  · rw [← none]
    omega
  · intro never
    rw [isComplete_takeAll, none.mpr never, Nat.add_zero, countP_range_eq_self]
  · intro source within
    exact finish_takeAll_eq_missing within
  · intro report error refused
    exact receive_of_refused refused

/-- A fault and then a result for the first of two chunks: two reports are received, the reassembler
says that it is complete, and the second chunk is missing. -/
theorem received_two_for_one_chunk :
    let ranges : List ChunkRange := [⟨0, 0, 2, 1⟩, ⟨1, 2, 5, 2⟩]
    let history : List ChunkReport :=
      [.fault ⟨0, 7, "injected", false⟩, .result (.ofOutput 0 0 0 ⟨[], .zero, []⟩)]
    let reassembler := (ofRanges .degradeChunk ranges).takeAll history
    (List.range 2).countP (delivered .degradeChunk history) = 1 ∧ reassembler.received = 2 ∧
      reassembler.isComplete ∧ delivered .degradeChunk history 1 = false ∧
      (reassembler.finish "ab cd").result = .error (.chunkMissing 1) := by
  refine ⟨by decide, by decide, by decide, by decide, rfl⟩

end Reassembler

end ProfileLexer
