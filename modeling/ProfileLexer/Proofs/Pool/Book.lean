import Mathlib.Data.List.Nodup
import Mathlib.Data.List.Perm.Basic
import ProfileLexer.Proofs.Pool.Faults

/-!
What the workers of a pool log and report on their chunks, if nobody stops them. Every chunk is in
the book of its worker once, and the faults are on the chunks on which workers fail.
-/

namespace ProfileLexer

variable {σ : Type}

/-- What is logged on a chunk by the worker that has it, without the context of the chunk. -/
structure ChunkLog where
  worker : Nat
  chunk : Chunk
  entries : List Entry

namespace ChunkLog

def context (label : String) (log : ChunkLog) : RunContext :=
  .ofChunk label log.worker log.chunk.id

/-- The entries as the worker logs them: each of them inside the context of the chunk, whatever
context it has had before. -/
def attributed (label : String) (log : ChunkLog) : List Entry :=
  log.entries.map (Entry.inside (log.context label))

end ChunkLog

namespace Crew

variable (crew : Crew σ) (label : String) (worker : Nat)

/-- What a worker logs on its chunks from a state on, to the end of its queue. A worker that is told
to stop logs the first part of it. -/
def logs : σ → List Chunk → List ChunkLog
  | _, [] => []
  | state, chunk :: queue =>
    let (answer, next, logged) := crew.process state chunk
    ⟨worker, chunk, logged ++ answer.entries chunk⟩ :: logs next queue

/-- All that a worker logs if nobody stops it. A worker that does not start logs nothing on any
chunk. -/
def logScript (queue : List Chunk) : List ChunkLog :=
  match crew.start worker with
  | .ok first => crew.logs worker first queue
  | .error _ => []

/-- What all of some workers log on their chunks, worker by worker. No run needs to write it in that
order. -/
def logBook (workers : Nat) (chunks : List Chunk) : List ChunkLog :=
  (List.range workers).flatMap fun worker =>
    crew.logScript worker (Chunk.ownedBy workers worker chunks)

/-- What all of some workers report on their chunks, worker by worker, with the name of the run in
panics. -/
def reportBook (workers : Nat) (chunks : List Chunk) : List ChunkReport :=
  (List.range workers).flatMap fun worker =>
    crew.script label worker (Chunk.ownedBy workers worker chunks)

/-- Workers that fail on some chunks, and log nothing inside a context of their own. What they log,
and how many entries, may depend on all that they have done before. -/
structure AnswersBut (usual : σ → Prop) (faulty : Set Nat) : Prop extends
    crew.FailsAt usual faulty where
  bare : ∀ state chunk, usual state → ∀ entry ∈ (crew.process state chunk).2.2,
    entry.context = none

end Crew

/-- The queues of all workers hold every chunk once. The order changes, as neighbours go to
different workers. -/
theorem Chunk.Dealt.perm_owned {workers : Nat} {chunks : List Chunk} (dealt : Dealt workers chunks) :
    ((List.range workers).flatMap fun worker => ownedBy workers worker chunks).Perm chunks := by
  have distinct : chunks.Nodup :=
    List.Nodup.of_map Chunk.id (by rw [dealt.numbered]; exact List.nodup_range)
  have once : ((List.range workers).flatMap fun worker => ownedBy workers worker chunks).Nodup := by
    refine List.nodup_flatMap.mpr ⟨fun worker _ => distinct.filter _, ?_⟩
    refine (List.nodup_range (n := workers)).imp ?_
    intro first second apart chunk inFirst inSecond
    exact apart ((mem_ownedBy.mp inFirst).2.symm.trans (mem_ownedBy.mp inSecond).2)
  refine (List.perm_ext_iff_of_nodup once distinct).mpr fun chunk => ?_
  rw [List.mem_flatMap]
  constructor
  · rintro ⟨worker, _, owned⟩
    exact (mem_ownedBy.mp owned).1
  · intro member
    exact ⟨_, List.mem_range.mpr (Nat.mod_lt _ dealt.someWorker), mem_ownedBy.mpr ⟨member, rfl⟩⟩

theorem ChunkAnswer.of_report_eq_fault {worker : Nat} {chunk : Chunk} {answer : ChunkAnswer}
    {fault : WorkerFault} (made : answer.report worker chunk = .fault fault) :
    fault.chunk = chunk.id ∧ fault.worker = worker := by
  cases answer with
  | done output => cases made
  | refused message | panicked message =>
    cases made
    exact ⟨rfl, rfl⟩

namespace Crew

variable {crew : Crew σ} {label : String} {workers : Nat} {chunks : List Chunk}

theorem logScript_of_start {worker : Nat} {first : σ} (started : crew.start worker = .ok first)
    (queue : List Chunk) : crew.logScript worker queue = crew.logs worker first queue := by
  rw [logScript, started]

theorem map_chunk_logs (worker : Nat) (state : σ) (queue : List Chunk) :
    (crew.logs worker state queue).map (·.chunk) = queue := by
  induction queue generalizing state with
  | nil => rfl
  | cons chunk queue ih => exact congrArg _ (ih _)

theorem logBook_nil (workers : Nat) : crew.logBook workers [] = [] := by
  refine List.flatMap_eq_nil_iff.mpr fun worker _ => ?_
  unfold logScript
  cases crew.start worker <;> rfl

theorem reportBook_nil (workers : Nat) : crew.reportBook label workers [] = [] := by
  refine List.flatMap_eq_nil_iff.mpr fun worker _ => ?_
  unfold script
  cases crew.start worker <;> rfl

/-- Every entry of the reports is about a fault; a result causes none. -/
theorem flatMap_entries_eq (reports : List ChunkReport) :
    reports.flatMap ChunkReport.entries =
      (reports.filterMap ChunkReport.fault?).flatMap fun fault =>
        (ChunkReport.fault fault).entries := by
  induction reports with
  | nil => rfl
  | cons report reports ih =>
    cases report with
    | result done => exact ih
    | fault failed => exact congrArg _ ih

/-- The faults of some workers name the worker that has the chunk. Nothing is assumed of the
crew. -/
theorem worker_of_mem_faults {fault : WorkerFault}
    (member : fault ∈ (crew.reportBook label workers chunks).filterMap ChunkReport.fault?) :
    fault.worker = fault.chunk % workers := by
  obtain ⟨report, inBook, isFault⟩ := List.mem_filterMap.mp member
  obtain ⟨worker, _, inScript⟩ := List.mem_flatMap.mp inBook
  obtain ⟨chunk, _, owner, current, made⟩ := exists_chunk_of_mem_script inScript
  cases report with
  | result done => cases isFault
  | fault failed =>
    cases isFault
    obtain ⟨number, name⟩ := ChunkAnswer.of_report_eq_fault made.symm
    rw [name, number, owner]

namespace AnswersBut

variable {usual : σ → Prop} {faulty : Set Nat}

/-- There is a fault on every chunk of `faulty`, and on no other. Numbers in `faulty` that no chunk
has do no harm. -/
theorem perm_faults [DecidablePred (· ∈ faulty)] (answers : crew.AnswersBut usual faulty)
    (dealt : Chunk.Dealt workers chunks) :
    (((crew.reportBook label workers chunks).filterMap ChunkReport.fault?).map
      WorkerFault.chunk).Perm ((chunks.map Chunk.id).filter (· ∈ faulty)) := by
  have owned (worker : Nat) :
      ((crew.script label worker (Chunk.ownedBy workers worker chunks)).filterMap
        ChunkReport.fault?).map WorkerFault.chunk =
      ((Chunk.ownedBy workers worker chunks).map Chunk.id).filter (· ∈ faulty) := by
    obtain ⟨first, started, _⟩ := answers.starts worker
    rw [← map_chunk_script started]
    have faults : ∀ report ∈ crew.script label worker (Chunk.ownedBy workers worker chunks),
        report.isFault = true ↔ report.chunk ∈ faulty := fun _ => answers.isFault_iff
    generalize crew.script label worker (Chunk.ownedBy workers worker chunks) = reports at faults ⊢
    induction reports with
    | nil => rfl
    | cons report reports ih =>
      obtain ⟨atHead, atRest⟩ := List.forall_mem_cons.mp faults
      have rest := ih atRest
      cases report with
      | result done =>
        have spared : done.chunk ∉ faulty := fun failed => nomatch atHead.mpr failed
        have noFault : (ChunkReport.result done).fault? = none := rfl
        rw [List.filterMap_cons_none noFault, rest]
        simp [ChunkReport.chunk, spared]
      | fault failed =>
        have isFaulty : failed.chunk ∈ faulty := atHead.mp rfl
        have isFault : (ChunkReport.fault failed).fault? = some failed := rfl
        rw [List.filterMap_cons_some isFault, List.map_cons, rest]
        simp [ChunkReport.chunk, isFaulty]
  unfold reportBook
  rw [List.filterMap_flatMap, List.map_flatMap, List.flatMap_congr fun worker _ => owned worker,
    ← List.filter_flatMap, ← List.map_flatMap]
  exact (dealt.perm_owned.map _).filter _

/-- Every chunk is in the book once, also one on which its worker fails. -/
theorem perm_logBook (answers : crew.AnswersBut usual faulty) (dealt : Chunk.Dealt workers chunks) :
    ((crew.logBook workers chunks).map (·.chunk)).Perm chunks := by
  have owned (worker : Nat) :
      (crew.logScript worker (Chunk.ownedBy workers worker chunks)).map (·.chunk) =
        Chunk.ownedBy workers worker chunks := by
    obtain ⟨first, started, _⟩ := answers.starts worker
    rw [logScript_of_start started, map_chunk_logs]
  unfold logBook
  rw [List.map_flatMap, List.flatMap_congr fun worker _ => owned worker]
  exact dealt.perm_owned

/-- What is in the log of a chunk: the worker that has it, and entries outside any context. The
events that the pool adds on a result or a fault are among them. -/
theorem of_mem_logs (answers : crew.AnswersBut usual faulty) {worker : Nat} {state : σ}
    (atState : usual state) {queue : List Chunk} {log : ChunkLog}
    (member : log ∈ crew.logs worker state queue) :
    log.worker = worker ∧ log.chunk ∈ queue ∧ ∀ entry ∈ log.entries, entry.context = none := by
  induction queue generalizing state with
  | nil => cases member
  | cons chunk queue ih =>
    rcases List.mem_cons.mp member with rfl | later
    · refine ⟨rfl, List.mem_cons_self, fun entry logged => ?_⟩
      rcases List.mem_append.mp logged with own | answered
      · exact answers.bare state chunk atState entry own
      · cases answer : (crew.process state chunk).1 with
        | done output =>
          simp only [answer, ChunkAnswer.entries, List.mem_singleton] at answered
          rw [answered]
          rfl
        | refused message => simp [answer, ChunkAnswer.entries] at answered
        | panicked message =>
          simp only [answer, ChunkAnswer.entries, List.mem_singleton] at answered
          rw [answered]
          rfl
    · obtain ⟨same, inQueue, bare⟩ := ih (answers.stays state chunk atState) later
      exact ⟨same, List.mem_cons_of_mem _ inQueue, bare⟩

theorem of_mem_logBook (answers : crew.AnswersBut usual faulty) {log : ChunkLog}
    (member : log ∈ crew.logBook workers chunks) :
    log.worker = log.chunk.id % workers ∧ ∀ entry ∈ log.entries, entry.context = none := by
  obtain ⟨worker, _, inScript⟩ := List.mem_flatMap.mp member
  obtain ⟨first, started, atFirst⟩ := answers.starts worker
  rw [logScript_of_start started] at inScript
  obtain ⟨same, owned, bare⟩ := answers.of_mem_logs atFirst inScript
  exact ⟨same.trans (Chunk.mem_ownedBy.mp owned).2.symm, bare⟩

end AnswersBut

end Crew

end ProfileLexer
