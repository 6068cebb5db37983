import Mathlib.Data.List.Induction
import ProfileLexer.Chunk.Reassembler

/-!
Histories of a reassembler: the reports it has been given, oldest first. What stands in its slots is
a function of the history alone: the last result and the last fault for each chunk.
-/

namespace ProfileLexer

namespace ChunkReport

/-- The result that a report has for a chunk. -/
def resultOf? (chunk : Nat) : ChunkReport → Option WorkerResult
  | result done => if done.chunk = chunk then some done else none
  | fault _ => none

/-- The fault that a report has for a chunk, if the policy lets a reassembler take it. Under the
aborting policy no report has one. -/
def faultOf? (policy : FailurePolicy) (chunk : Nat) : ChunkReport → Option WorkerFault
  | result _ => none
  | fault failed =>
    if policy = .degradeChunk ∧ failed.chunk = chunk then some failed else none

theorem chunk_of_resultOf? {report : ChunkReport} {chunk : Nat}
    (found : (report.resultOf? chunk).isSome = true) : report.chunk = chunk := by
  cases report with
  | fault failed => cases found
  | result done =>
    rw [resultOf?] at found
    split at found
    · rename_i same
      exact same
    · cases found

theorem chunk_of_faultOf? {policy : FailurePolicy} {report : ChunkReport} {chunk : Nat}
    (found : (report.faultOf? policy chunk).isSome = true) : report.chunk = chunk := by
  cases report with
  | result done => cases found
  | fault failed =>
    rw [faultOf?] at found
    split at found
    · rename_i same
      exact same.2
    · cases found

end ChunkReport

namespace Reassembler

/-- The last result for a chunk in a history. -/
def lastResult? (history : List ChunkReport) (chunk : Nat) : Option WorkerResult :=
  history.reverse.findSome? (·.resultOf? chunk)

/-- The last fault for a chunk in a history that a policy lets a reassembler take. -/
def lastFault? (policy : FailurePolicy) (history : List ChunkReport) (chunk : Nat) :
    Option WorkerFault :=
  history.reverse.findSome? (·.faultOf? policy chunk)

/-- The reassembler after a history. A report that is refused is passed over, and the next one is
given. -/
def takeAll (reassembler : Reassembler) (history : List ChunkReport) : Reassembler :=
  history.foldl (fun current report => (current.receive report).1) reassembler

@[simp] theorem takeAll_nil (reassembler : Reassembler) : reassembler.takeAll [] = reassembler :=
  rfl

@[simp] theorem takeAll_concat (reassembler : Reassembler) (history : List ChunkReport)
    (report : ChunkReport) :
    reassembler.takeAll (history ++ [report]) = ((reassembler.takeAll history).receive report).1 := by
  simp only [takeAll, List.foldl_append, List.foldl_cons, List.foldl_nil]

@[simp] theorem lastResult?_nil (chunk : Nat) : lastResult? [] chunk = none := rfl

@[simp] theorem lastFault?_nil (policy : FailurePolicy) (chunk : Nat) :
    lastFault? policy [] chunk = none := rfl

theorem lastResult?_concat (history : List ChunkReport) (report : ChunkReport) (chunk : Nat) :
    lastResult? (history ++ [report]) chunk =
      (report.resultOf? chunk).or (lastResult? history chunk) := by
  rw [lastResult?, List.reverse_append, List.reverse_singleton, List.singleton_append,
    List.findSome?_cons]
  cases report.resultOf? chunk <;> rfl

theorem lastFault?_concat (policy : FailurePolicy) (history : List ChunkReport)
    (report : ChunkReport) (chunk : Nat) :
    lastFault? policy (history ++ [report]) chunk =
      (report.faultOf? policy chunk).or (lastFault? policy history chunk) := by
  rw [lastFault?, List.reverse_append, List.reverse_singleton, List.singleton_append,
    List.findSome?_cons]
  cases report.faultOf? policy chunk <;> rfl

theorem lastResult?_mem {history : List ChunkReport} {chunk : Nat} {done : WorkerResult}
    (found : lastResult? history chunk = some done) :
    .result done ∈ history ∧ done.chunk = chunk := by
  obtain ⟨report, member, atReport⟩ := List.exists_of_findSome?_eq_some found
  cases report with
  | fault failed => simp [ChunkReport.resultOf?] at atReport
  | result other =>
    by_cases same : other.chunk = chunk
    · rw [ChunkReport.resultOf?, if_pos same] at atReport
      cases atReport
      exact ⟨List.mem_reverse.mp member, same⟩
    · simp [ChunkReport.resultOf?, same] at atReport

theorem lastFault?_mem {policy : FailurePolicy} {history : List ChunkReport} {chunk : Nat}
    {failed : WorkerFault} (found : lastFault? policy history chunk = some failed) :
    .fault failed ∈ history ∧ failed.chunk = chunk ∧ policy = .degradeChunk := by
  obtain ⟨report, member, atReport⟩ := List.exists_of_findSome?_eq_some found
  cases report with
  | result done => simp [ChunkReport.faultOf?] at atReport
  | fault other =>
    by_cases same : policy = .degradeChunk ∧ other.chunk = chunk
    · rw [ChunkReport.faultOf?, if_pos same] at atReport
      cases atReport
      exact ⟨List.mem_reverse.mp member, same.2, same.1⟩
    · simp [ChunkReport.faultOf?, same] at atReport

theorem lastResult?_isSome {history : List ChunkReport} {done : WorkerResult}
    (member : .result done ∈ history) : (lastResult? history done.chunk).isSome := by
  rw [lastResult?, List.findSome?_isSome_iff]
  exact ⟨.result done, List.mem_reverse.mpr member, by simp [ChunkReport.resultOf?]⟩

theorem lastFault?_isSome {history : List ChunkReport} {failed : WorkerFault}
    (member : .fault failed ∈ history) :
    (lastFault? .degradeChunk history failed.chunk).isSome := by
  rw [lastFault?, List.findSome?_isSome_iff]
  exact ⟨.fault failed, List.mem_reverse.mpr member, by simp [ChunkReport.faultOf?]⟩

/-- The slot of a chunk after a history, told by the reports of the history alone. -/
def slotAfter (policy : FailurePolicy) (history : List ChunkReport) (chunk : Nat)
    (range : ChunkRange) : Slot :=
  ⟨range, lastResult? history chunk, lastFault? policy history chunk⟩

/-- A report for a chunk without a slot changes nothing. It is refused. -/
theorem receive_of_no_slot {reassembler : Reassembler} {report : ChunkReport}
    (missing : reassembler.slots[report.chunk]? = none) :
    (reassembler.receive report).1 = reassembler := by
  cases report with
  | result done =>
    have atChunk : reassembler.slots[done.chunk]? = none := missing
    simp only [receive, atChunk]
  | fault failed =>
    have atChunk : reassembler.slots[failed.chunk]? = none := missing
    cases policy : reassembler.policy <;> simp only [receive, policy, atChunk]

theorem receive_result {reassembler : Reassembler} {done : WorkerResult} {slot : Slot}
    (atChunk : reassembler.slots[done.chunk]? = some slot) :
    reassembler.receive (.result done) =
      (reassembler.update done.chunk (slot.putResult done) slot.result.isNone, none) := by
  simp only [receive, atChunk]

theorem receive_fault_of_abort {reassembler : Reassembler} (failed : WorkerFault)
    (policy : reassembler.policy = .abortRun) :
    reassembler.receive (.fault failed) = (reassembler, some (.workerFault failed)) := by
  simp only [receive, policy]

theorem receive_fault {reassembler : Reassembler} {failed : WorkerFault} {slot : Slot}
    (policy : reassembler.policy = .degradeChunk)
    (atChunk : reassembler.slots[failed.chunk]? = some slot) :
    reassembler.receive (.fault failed) =
      (reassembler.update failed.chunk (slot.putFault failed)
        (slot.fault.isNone && slot.result.isNone), none) := by
  simp only [receive, policy, atChunk]

/-- A report that is refused changes nothing, for whatever reason it is refused. -/
theorem receive_of_refused {reassembler : Reassembler} {report : ChunkReport}
    {error : SchedulerError} (refused : (reassembler.receive report).2 = some error) :
    (reassembler.receive report).1 = reassembler := by
  cases report with
  | result done =>
    cases atChunk : reassembler.slots[done.chunk]? with
    | none => exact receive_of_no_slot atChunk
    | some slot =>
      rw [receive_result atChunk] at refused
      cases refused
  | fault failed =>
    cases policy : reassembler.policy with
    | abortRun => rw [receive_fault_of_abort failed policy]
    | degradeChunk =>
      cases atChunk : reassembler.slots[failed.chunk]? with
      | none => exact receive_of_no_slot atChunk
      | some slot =>
        rw [receive_fault policy atChunk] at refused
        cases refused

@[simp] theorem receive_policy (reassembler : Reassembler) (report : ChunkReport) :
    (reassembler.receive report).1.policy = reassembler.policy := by
  cases report with
  | result done =>
    cases atChunk : reassembler.slots[done.chunk]? with
    | none => rw [receive_of_no_slot atChunk]
    | some slot => rw [receive_result atChunk, update]
  | fault failed =>
    cases policy : reassembler.policy with
    | abortRun => rw [receive_fault_of_abort failed policy, policy]
    | degradeChunk =>
      cases atChunk : reassembler.slots[failed.chunk]? with
      | none => rw [receive_of_no_slot atChunk, policy]
      | some slot => rw [receive_fault policy atChunk, update, policy]

@[simp] theorem takeAll_policy (reassembler : Reassembler) (history : List ChunkReport) :
    (reassembler.takeAll history).policy = reassembler.policy := by
  induction history using List.reverseRecOn with
  | nil => rfl
  | append_singleton history report ih => rw [takeAll_concat, receive_policy, ih]

/-- Only the slot of the chunk that a report is for can change, and it changes as the history
says. -/
theorem slotAfter_concat_of_ne (policy : FailurePolicy) (history : List ChunkReport)
    {report : ChunkReport} {chunk : Nat} (range : ChunkRange) (other : report.chunk ≠ chunk) :
    slotAfter policy (history ++ [report]) chunk range = slotAfter policy history chunk range := by
  rw [slotAfter, lastResult?_concat, lastFault?_concat]
  cases report with
  | result done =>
    have apart : done.chunk ≠ chunk := other
    simp [ChunkReport.resultOf?, ChunkReport.faultOf?, apart, slotAfter]
  | fault failed =>
    have apart : failed.chunk ≠ chunk := other
    simp [ChunkReport.resultOf?, ChunkReport.faultOf?, apart, slotAfter]

theorem mapIdx_set_of_agree {α β : Type} {f g : Nat → α → β} {items : List α} {i : Nat} {item : α}
    (atIndex : items[i]? = some item) (agree : ∀ j, j ≠ i → ∀ other, f j other = g j other) :
    (items.mapIdx f).set i (g i item) = items.mapIdx g := by
  apply List.ext_getElem?
  intro j
  rw [List.getElem?_set, List.length_mapIdx]
  by_cases same : i = j
  · subst same
    obtain ⟨within, atItem⟩ := List.getElem?_eq_some_iff.mp atIndex
    simp [within, atItem]
  · rw [if_neg same, List.getElem?_mapIdx, List.getElem?_mapIdx]
    cases items[j]? with
    | none => rfl
    | some other => simp only [Option.map_some, agree j (Ne.symm same) other]

/-- The slots after a history hold the last result and the last fault for each chunk. Nothing else
of the history is in them. -/
theorem slots_takeAll (policy : FailurePolicy) (ranges : List ChunkRange)
    (history : List ChunkReport) :
    ((ofRanges policy ranges).takeAll history).slots =
      ranges.mapIdx (slotAfter policy history) := by
  induction history using List.reverseRecOn with
  | nil =>
    rw [takeAll_nil, ofRanges, List.mapIdx_eq_zipIdx_map]
    apply List.ext_getElem?
    intro i
    simp only [List.getElem?_map, List.getElem?_zipIdx]
    cases ranges[i]? <;> rfl
  | append_singleton history report ih =>
    rw [takeAll_concat]
    have policyEq : ((ofRanges policy ranges).takeAll history).policy = policy := by
      rw [takeAll_policy]; rfl
    cases inRange : ranges[report.chunk]? with
    | none =>
      have missing : ((ofRanges policy ranges).takeAll history).slots[report.chunk]? = none := by
        rw [ih, List.getElem?_mapIdx, inRange]; rfl
      rw [receive_of_no_slot missing, ih]
      apply List.ext_getElem?
      intro i
      rw [List.getElem?_mapIdx, List.getElem?_mapIdx]
      cases atIndex : ranges[i]? with
      | none => rfl
      | some range =>
        have other : report.chunk ≠ i := by
          rintro rfl
          rw [inRange] at atIndex
          cases atIndex
        simp only [Option.map_some, slotAfter_concat_of_ne policy history range other]
    | some range =>
      have atSlot : ((ofRanges policy ranges).takeAll history).slots[report.chunk]? =
          some (slotAfter policy history report.chunk range) := by
        rw [ih, List.getElem?_mapIdx, inRange]; rfl
      have agree : ∀ j, j ≠ report.chunk → ∀ other,
          slotAfter policy history j other = slotAfter policy (history ++ [report]) j other :=
        fun j apart other => (slotAfter_concat_of_ne policy history other (Ne.symm apart)).symm
      cases report with
      | result done =>
        have value : (slotAfter policy history done.chunk range).putResult done =
            slotAfter policy (history ++ [.result done]) done.chunk range := by
          simp [slotAfter, Slot.putResult, lastResult?_concat, lastFault?_concat,
            ChunkReport.resultOf?, ChunkReport.faultOf?]
        rw [receive_result atSlot, update, ih, ← mapIdx_set_of_agree inRange agree]
        simp only [ChunkReport.chunk, value]
      | fault failed =>
        cases policy with
        | abortRun =>
          have unchanged : slotAfter .abortRun (history ++ [.fault failed]) =
              slotAfter .abortRun history := by
            funext chunk range
            simp [slotAfter, lastResult?_concat, lastFault?_concat, ChunkReport.resultOf?,
              ChunkReport.faultOf?]
          rw [receive_fault_of_abort failed policyEq, ih, unchanged]
        | degradeChunk =>
          have value : (slotAfter .degradeChunk history failed.chunk range).putFault failed =
              slotAfter .degradeChunk (history ++ [.fault failed]) failed.chunk range := by
            simp [slotAfter, Slot.putFault, lastResult?_concat, lastFault?_concat,
              ChunkReport.resultOf?, ChunkReport.faultOf?]
          rw [receive_fault policyEq atSlot, update, ih, ← mapIdx_set_of_agree inRange agree]
          simp only [ChunkReport.chunk, value]

theorem length_slots_takeAll (policy : FailurePolicy) (ranges : List ChunkRange)
    (history : List ChunkReport) :
    ((ofRanges policy ranges).takeAll history).slots.length = ranges.length := by
  rw [slots_takeAll, List.length_mapIdx]

end Reassembler

end ProfileLexer
