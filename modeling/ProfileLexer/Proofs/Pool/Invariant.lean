import Mathlib.Data.List.Nodup
import ProfileLexer.Proofs.Chunk.Accounting
import ProfileLexer.Proofs.Pool.Progress
import ProfileLexer.Proofs.Pool.Script

/-!
What holds all along a run, whoever has the turns: what the collector has taken is, worker by
worker, the first part of what the workers have to report.
-/

namespace ProfileLexer

variable {σ : Type}

/-- Chunks that are numbered by their places, each with one of `workers` workers. There is at least
one chunk to each worker; that they lie end to end is not needed here. -/
structure Chunk.Dealt (workers : Nat) (chunks : List Chunk) : Prop where
  numbered : chunks.map Chunk.id = List.range chunks.length
  someWorker : 0 < workers
  enough : workers ≤ chunks.length

/-- What the collector ends with: a fault that aborts the run, after no other fault; or everything
that all workers report. In the first case reports may still be on their way. -/
inductive PoolState.Ended (pool : Pool) (crew : Crew σ) (workers : Nat) (chunks : List Chunk)
    (history : List ChunkReport) (state : PoolState σ) : Prop
  | aborted {earlier : List ChunkReport} {fault : WorkerFault}
      (last : history = earlier ++ [.fault fault])
      (faultless : ∀ report ∈ earlier, report.isFault = false)
      (policy : pool.policy = .abortRun) (failure : state.failure = some (.workerFault fault))
  | complete (failure : state.failure = none)
      (faultless : pool.policy = .abortRun → ∀ report ∈ history, report.isFault = false)
      (all : ∀ id < workers, ChunkReport.sentBy workers id history =
        crew.script pool.label id (Chunk.ownedBy workers id chunks))

/-- A fault is on its way to the collector: in the channel, or with a worker that has announced it
and not yet sent it. -/
def PoolState.FaultUnderway (state : PoolState σ) : Prop :=
  (∃ report ∈ state.channel, report.isFault = true) ∨
    ∃ (id : Nat) (worker : Worker σ) (current : σ) (report : ChunkReport),
      state.workers[id]? = some worker ∧ worker.station = .sending current report ∧
        report.isFault = true

/-- What holds all along a run in which the collector has taken the reports of `history`. The order
in which workers take turns is nowhere mentioned: only the reports of one worker are in order among
themselves. -/
structure PoolState.Sound (pool : Pool) (crew : Crew σ) (workers : Nat) (chunks : List Chunk)
    (history : List ChunkReport) (state : PoolState σ) : Prop where
  size : state.workers.length = workers
  follows : ∀ (id : Nat) (worker : Worker σ), state.workers[id]? = some worker →
    worker.Follows crew pool.label id (Chunk.ownedBy workers id chunks)
      (ChunkReport.sentBy workers id (history ++ state.channel))
      (state.cancelled = true ∨ state.listening = false)
  reassembled : state.reassembler =
    (Reassembler.ofRanges pool.policy (chunks.map Chunk.range)).takeAll history
  /-- Workers are told to stop only because of a fault that the collector will take. -/
  pending : state.cancelled = true → state.listening = true →
    pool.policy = .abortRun ∧ state.FaultUnderway
  calm : state.listening = true → state.failure = none ∧
    (pool.policy = .abortRun → ∀ report ∈ history, report.isFault = false)
  ended : state.listening = false → state.Ended pool crew workers chunks history

namespace Chunk.Dealt

variable {workers : Nat} {chunks : List Chunk}

theorem ascending_ownedBy (dealt : Dealt workers chunks) (id : Nat) :
    ((ownedBy workers id chunks).map Chunk.id).Pairwise (· < ·) := by
  have all : (chunks.map Chunk.id).Pairwise (· < ·) := by
    rw [dealt.numbered]
    exact List.pairwise_lt_range
  exact all.sublist (List.filter_sublist.map _)

theorem id_lt (dealt : Dealt workers chunks) {chunk : Chunk} (member : chunk ∈ chunks) :
    chunk.id < chunks.length := by
  rw [← List.mem_range, ← dealt.numbered]
  exact List.mem_map_of_mem member

theorem exists_chunk (dealt : Dealt workers chunks) {id : Nat} (within : id < chunks.length) :
    ∃ chunk ∈ ownedBy workers (id % workers) chunks, chunk.id = id := by
  have inRange : id ∈ chunks.map Chunk.id := by
    rw [dealt.numbered]
    exact List.mem_range.mpr within
  obtain ⟨chunk, member, same⟩ := List.mem_map.mp inRange
  exact ⟨chunk, mem_ownedBy.mpr ⟨member, by rw [same]⟩, same⟩

/-- A worker reports on its chunks in the order of their numbers, if it reports at all. -/
theorem ascending_script (dealt : Dealt workers chunks) (crew : Crew σ) (label : String)
    (worker : Nat) :
    ((crew.script label worker (ownedBy workers worker chunks)).map
      ChunkReport.chunk).Pairwise (· < ·) := by
  cases start : crew.start worker with
  | error message => simp [Crew.script_of_crash start]
  | ok first =>
    rw [Crew.map_chunk_script start]
    exact dealt.ascending_ownedBy worker

theorem nodup_script (dealt : Dealt workers chunks) (crew : Crew σ) (label : String)
    (worker : Nat) :
    ((crew.script label worker (ownedBy workers worker chunks)).map ChunkReport.chunk).Nodup :=
  (dealt.ascending_script crew label worker).imp Nat.ne_of_lt

end Chunk.Dealt

namespace PoolState.Sound

open ChunkReport (sentBy sentBy_append sentBy_own sentBy_other mem_sentBy chunk_of_resultOf?
  chunk_of_faultOf?)
open Chunk (ownedBy)

variable {pool : Pool} {crew : Crew σ} {workers : Nat} {chunks : List Chunk}
variable {history : List ChunkReport} {state next : PoolState σ}

theorem exists_worker (sound : state.Sound pool crew workers chunks history) {id : Nat}
    (within : id < workers) : ∃ worker, state.workers[id]? = some worker :=
  ⟨_, List.getElem?_eq_getElem (by rw [sound.size]; exact within)⟩

/-- A report that has been sent is in the script of its worker, whether or not it has been taken. -/
theorem mem_script (sound : state.Sound pool crew workers chunks history)
    (dealt : Chunk.Dealt workers chunks) {report : ChunkReport}
    (member : report ∈ history ++ state.channel) :
    report ∈ crew.script pool.label (report.chunk % workers)
      (ownedBy workers (report.chunk % workers) chunks) := by
  obtain ⟨worker, atId⟩ := sound.exists_worker (Nat.mod_lt report.chunk dealt.someWorker)
  obtain ⟨rest, script⟩ := (sound.follows _ _ atId).sent_starts
  rw [script]
  exact List.mem_append_left _ (mem_sentBy.mpr ⟨member, rfl⟩)

theorem chunk_lt (sound : state.Sound pool crew workers chunks history)
    (dealt : Chunk.Dealt workers chunks) {report : ChunkReport}
    (member : report ∈ history ++ state.channel) : report.chunk < chunks.length := by
  obtain ⟨chunk, inChunks, _, current, made⟩ :=
    Crew.exists_chunk_of_mem_script (sound.mem_script dealt member)
  rw [made, Crew.handle_chunk]
  exact dealt.id_lt inChunks

/-- There is one report on a chunk at most, among those that have been taken and those on their
way. -/
theorem unique (sound : state.Sound pool crew workers chunks history)
    (dealt : Chunk.Dealt workers chunks) {report other : ChunkReport}
    (member : report ∈ history ++ state.channel) (otherMember : other ∈ history ++ state.channel)
    (same : report.chunk = other.chunk) : report = other := by
  have inScript := sound.mem_script dealt member
  have otherInScript := sound.mem_script dealt otherMember
  rw [← same] at otherInScript
  exact List.inj_on_of_nodup_map (dealt.nodup_script ..) inScript otherInScript same

/-- The slot that a report is for. There is one, as no worker reports on a chunk that is not
there. -/
theorem exists_slot (sound : state.Sound pool crew workers chunks history)
    (dealt : Chunk.Dealt workers chunks) {report : ChunkReport}
    (member : report ∈ history ++ state.channel) :
    ∃ slot, state.reassembler.slots[report.chunk]? = some slot := by
  refine ⟨_, List.getElem?_eq_getElem ?_⟩
  rw [sound.reassembled, Reassembler.length_slots_takeAll, List.length_map]
  exact sound.chunk_lt dealt member

theorem policy (sound : state.Sound pool crew workers chunks history) :
    state.reassembler.policy = pool.policy := by
  rw [sound.reassembled, Reassembler.takeAll_policy]
  rfl

/-- The collector refuses nothing but a fault that aborts the run. In particular no report comes
twice, and none is on an unknown chunk. -/
theorem refused (sound : state.Sound pool crew workers chunks history)
    (dealt : Chunk.Dealt workers chunks) {report : ChunkReport} {reassembler : Reassembler}
    {error : SchedulerError} (member : report ∈ history ++ state.channel)
    (received : state.reassembler.receive report = (reassembler, some error)) :
    pool.policy = .abortRun ∧
      ∃ fault, report = .fault fault ∧ error = .workerFault fault := by
  obtain ⟨slot, atChunk⟩ := sound.exists_slot dealt member
  cases report with
  | result done =>
    rw [Reassembler.receive_result atChunk] at received
    cases received
  | fault fault =>
    cases policy : pool.policy with
    | abortRun =>
      rw [Reassembler.receive_fault_of_abort fault (sound.policy.trans policy)] at received
      cases received
      exact ⟨rfl, fault, rfl, rfl⟩
    | degradeChunk =>
      rw [Reassembler.receive_fault (sound.policy.trans policy) atChunk] at received
      cases received

/-- Under the aborting policy the collector takes no fault without refusing it. -/
theorem not_fault (sound : state.Sound pool crew workers chunks history) {report : ChunkReport}
    {reassembler : Reassembler} (received : state.reassembler.receive report = (reassembler, none))
    (policy : pool.policy = .abortRun) : report.isFault = false := by
  cases report with
  | result done => rfl
  | fault fault =>
    rw [Reassembler.receive_fault_of_abort fault (sound.policy.trans policy)] at received
    cases received

/-- No chunk is counted twice, since no result follows a fault on the same chunk. -/
theorem not_overtaken (sound : state.Sound pool crew workers chunks history)
    (dealt : Chunk.Dealt workers chunks) {taken : List ChunkReport}
    (early : taken <+: history ++ state.channel) {id : Nat} :
    Reassembler.overtaken pool.policy taken id = false := by
  rw [Bool.eq_false_iff]
  intro twice
  obtain ⟨result, fault⟩ := Bool.and_eq_true_iff.mp twice
  obtain ⟨report, member, isResult⟩ := List.any_eq_true.mp result
  obtain ⟨other, before, isFault⟩ := List.any_eq_true.mp fault
  have otherMember := (List.takeWhile_prefix _).subset before
  have same : report.chunk = other.chunk :=
    (chunk_of_resultOf? isResult).trans (chunk_of_faultOf? isFault).symm
  have equal := sound.unique dealt (early.subset member) (early.subset otherMember) same
  rw [equal] at isResult
  cases other with
  | result done => cases isFault
  | fault failed => cases isResult

/-- With a complete reassembler every chunk has been reported on. The collector goes by a count,
which says nothing of single chunks by itself. -/
theorem exists_report_of_complete (sound : state.Sound pool crew workers chunks history)
    (dealt : Chunk.Dealt workers chunks) {taken : List ChunkReport}
    (early : taken <+: history ++ state.channel)
    (complete : ((Reassembler.ofRanges pool.policy (chunks.map Chunk.range)).takeAll
      taken).isComplete = true) {id : Nat} (within : id < chunks.length) :
    ∃ report ∈ taken, report.chunk = id := by
  have once : ∀ other < (chunks.map Chunk.range).length,
      Reassembler.overtaken pool.policy taken other = false :=
    fun other _ => sound.not_overtaken dealt early
  rw [Reassembler.isComplete_takeAll, Reassembler.countP_range_eq_zero.mpr once,
    Nat.add_zero, Reassembler.countP_range_eq_self, List.length_map] at complete
  obtain ⟨report, member, arrived⟩ := List.any_eq_true.mp (complete id within)
  rw [Bool.or_eq_true] at arrived
  exact ⟨report, member, arrived.elim chunk_of_resultOf? chunk_of_faultOf?⟩

/-- A worker all whose chunks have been reported on has come to the end of its script. None of its
reports is on the way then. -/
theorem script_of_complete (sound : state.Sound pool crew workers chunks history)
    (dealt : Chunk.Dealt workers chunks) {taken : List ChunkReport}
    (early : taken <+: history ++ state.channel)
    (complete : ((Reassembler.ofRanges pool.policy (chunks.map Chunk.range)).takeAll
      taken).isComplete = true) {id : Nat} (within : id < workers) :
    sentBy workers id taken = crew.script pool.label id (ownedBy workers id chunks) := by
  obtain ⟨worker, atId⟩ := sound.exists_worker within
  obtain ⟨rest, script⟩ := (sound.follows id worker atId).sent_starts
  obtain ⟨left, split⟩ := early
  rw [← split, sentBy_append, List.append_assoc] at script
  rw [script, List.self_eq_append_right, List.eq_nil_iff_forall_not_mem]
  intro report member
  have inScript : report ∈ crew.script pool.label id (ownedBy workers id chunks) := by
    rw [script]
    exact List.mem_append_right _ member
  obtain ⟨chunk, inChunks, owner, current, made⟩ := Crew.exists_chunk_of_mem_script inScript
  have number : report.chunk = chunk.id := by rw [made, Crew.handle_chunk]
  obtain ⟨earlier, arrived, same⟩ := sound.exists_report_of_complete dealt ⟨left, split⟩ complete
    (dealt.id_lt inChunks)
  have before : earlier ∈ sentBy workers id taken := mem_sentBy.mpr ⟨arrived, by rw [same, owner]⟩
  have unique := dealt.nodup_script crew pool.label id
  rw [script, List.map_append, List.nodup_append] at unique
  exact unique.2.2 _ (List.mem_map_of_mem before) _ (List.mem_map_of_mem member)
    (same.trans number.symm)

end PoolState.Sound

end ProfileLexer
