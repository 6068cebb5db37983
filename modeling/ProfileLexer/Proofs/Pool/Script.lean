import Mathlib.Data.List.Basic
import ProfileLexer.Pool.Basic

/-!
What workers report. A worker that is not stopped reports on its chunks one after the other, so its
reports so far are the first part of what it would report in all.
-/

namespace ProfileLexer

variable {σ : Type}

/-- The reports on the chunks of one of `workers` workers. They are told by the chunk; who has sent
them is not looked at. -/
def ChunkReport.sentBy (workers id : Nat) (reports : List ChunkReport) : List ChunkReport :=
  reports.filter (·.chunk % workers == id)

/-- The chunks of one of `workers` workers: every one whose number leaves that of the worker as a
remainder. -/
def Chunk.ownedBy (workers id : Nat) (chunks : List Chunk) : List Chunk :=
  chunks.filter (·.id % workers == id)

namespace ChunkReport

@[simp] theorem sentBy_nil (workers id : Nat) : sentBy workers id [] = [] := rfl

@[simp] theorem sentBy_append (workers id : Nat) (earlier later : List ChunkReport) :
    sentBy workers id (earlier ++ later) = sentBy workers id earlier ++ sentBy workers id later :=
  List.filter_append earlier later

theorem sentBy_own {workers id : Nat} {report : ChunkReport}
    (own : report.chunk % workers = id) : sentBy workers id [report] = [report] := by
  simp [sentBy, own]

theorem sentBy_other {workers id : Nat} {report : ChunkReport}
    (other : report.chunk % workers ≠ id) : sentBy workers id [report] = [] := by
  simp [sentBy, other]

theorem mem_sentBy {workers id : Nat} {reports : List ChunkReport} {report : ChunkReport} :
    report ∈ sentBy workers id reports ↔ report ∈ reports ∧ report.chunk % workers = id := by
  simp [sentBy]

end ChunkReport

theorem Chunk.mem_ownedBy {workers id : Nat} {chunks : List Chunk} {chunk : Chunk} :
    chunk ∈ ownedBy workers id chunks ↔ chunk ∈ chunks ∧ chunk.id % workers = id := by
  simp [ownedBy]

theorem ChunkAnswer.report_chunk (worker : Nat) (chunk : Chunk) (answer : ChunkAnswer) :
    (answer.report worker chunk).chunk = chunk.id := by
  cases answer <;> rfl

namespace Crew

variable (crew : Crew σ) (label : String) (worker : Nat)

/-- What a worker reports on its chunks from a state on. A fault does not end it: the worker goes on
with its next chunk. -/
def reports : σ → List Chunk → List ChunkReport
  | _, [] => []
  | state, chunk :: queue =>
    let (report, next, _) := crew.handle label worker state chunk
    report :: reports next queue

/-- All that a worker reports if nobody stops it. A worker that breaks down at its start reports
nothing. -/
def script (queue : List Chunk) : List ChunkReport :=
  match crew.start worker with
  | .ok first => crew.reports label worker first queue
  | .error _ => []

variable {crew label worker}

@[simp] theorem handle_chunk (state : σ) (chunk : Chunk) :
    (crew.handle label worker state chunk).1.chunk = chunk.id :=
  ChunkAnswer.report_chunk worker chunk (crew.process state chunk).1

theorem reports_cons (state : σ) (chunk : Chunk) (queue : List Chunk) :
    crew.reports label worker state (chunk :: queue) =
      (crew.handle label worker state chunk).1 ::
        crew.reports label worker (crew.handle label worker state chunk).2.1 queue := rfl

/-- There is one report on every chunk, in order, whatever the worker makes of it. -/
theorem map_chunk_reports (state : σ) (queue : List Chunk) :
    (crew.reports label worker state queue).map ChunkReport.chunk = queue.map Chunk.id := by
  induction queue generalizing state with
  | nil => rfl
  | cons chunk queue ih => rw [reports_cons, List.map_cons, List.map_cons, handle_chunk, ih]

theorem script_of_start {first : σ} (started : crew.start worker = .ok first)
    (queue : List Chunk) :
    crew.script label worker queue = crew.reports label worker first queue := by
  rw [script, started]

/-- A worker that starts has one report on every chunk, in order. -/
theorem map_chunk_script {first : σ} (started : crew.start worker = .ok first)
    (queue : List Chunk) :
    (crew.script label worker queue).map ChunkReport.chunk = queue.map Chunk.id := by
  rw [script_of_start started, map_chunk_reports]

theorem script_of_crash {message : String} (broken : crew.start worker = .error message)
    (queue : List Chunk) : crew.script label worker queue = [] := by
  rw [script, broken]

/-- What holds of the first state of a worker and is kept from chunk to chunk, also from one on
which the worker fails. -/
structure Keeps (crew : Crew σ) (usual : σ → Prop) : Prop where
  first : ∀ id state, crew.start id = .ok state → usual state
  next : ∀ state chunk, usual state → usual (crew.process state chunk).2.1

theorem keeps_true (crew : Crew σ) : crew.Keeps fun _ => True :=
  ⟨fun _ _ _ => trivial, fun _ _ _ => trivial⟩

/-- Every report is made by handling a chunk of the queue, in a state that the worker can be in. -/
theorem exists_chunk_of_mem_reports {usual : σ → Prop} (keeps : crew.Keeps usual) {state : σ}
    (atState : usual state) {queue : List Chunk} {report : ChunkReport}
    (member : report ∈ crew.reports label worker state queue) :
    ∃ chunk ∈ queue, ∃ current, usual current ∧
      report = (crew.handle label worker current chunk).1 := by
  induction queue generalizing state with
  | nil => cases member
  | cons chunk queue ih =>
    rcases List.mem_cons.mp member with rfl | later
    · exact ⟨chunk, List.mem_cons_self, state, atState, rfl⟩
    · obtain ⟨other, inQueue, made⟩ := ih (keeps.next state chunk atState) later
      exact ⟨other, List.mem_cons_of_mem _ inQueue, made⟩

theorem exists_state_of_mem_script {usual : σ → Prop} (keeps : crew.Keeps usual) {workers : Nat}
    {chunks : List Chunk} {report : ChunkReport}
    (member : report ∈ crew.script label worker (Chunk.ownedBy workers worker chunks)) :
    ∃ chunk ∈ chunks, chunk.id % workers = worker ∧
      ∃ current, usual current ∧ report = (crew.handle label worker current chunk).1 := by
  cases start : crew.start worker with
  | error message => simp [script_of_crash start] at member
  | ok first =>
    rw [script_of_start start] at member
    obtain ⟨chunk, owned, made⟩ :=
      exists_chunk_of_mem_reports keeps (keeps.first worker first start) member
    obtain ⟨inChunks, rest⟩ := Chunk.mem_ownedBy.mp owned
    exact ⟨chunk, inChunks, rest, made⟩

theorem exists_chunk_of_mem_script {workers : Nat} {chunks : List Chunk}
    {report : ChunkReport}
    (member : report ∈ crew.script label worker (Chunk.ownedBy workers worker chunks)) :
    ∃ chunk ∈ chunks, chunk.id % workers = worker ∧
      ∃ current, report = (crew.handle label worker current chunk).1 := by
  obtain ⟨chunk, inChunks, owner, current, _, made⟩ :=
    exists_state_of_mem_script crew.keeps_true member
  exact ⟨chunk, inChunks, owner, current, made⟩

end Crew

/-- The reports of a worker that has started, some of which have been sent and some of which are
still to come. -/
def Crew.Splits (crew : Crew σ) (label : String) (id : Nat) (own : List Chunk)
    (sent rest : List ChunkReport) : Prop :=
  ∃ first, crew.start id = .ok first ∧ crew.reports label id first own = sent ++ rest

/-- A worker that stands where its reports so far have brought it. A worker that has finished has
reported on all its chunks or has been `stopped`; one that has crashed has sent nothing. -/
def Worker.Follows (crew : Crew σ) (label : String) (id : Nat) (own : List Chunk)
    (sent : List ChunkReport) (stopped : Prop) (worker : Worker σ) : Prop :=
  match worker.station with
  | .starting => worker.queue = own ∧ sent = []
  | .ready current => crew.Splits label id own sent (crew.reports label id current worker.queue)
  | .holding current report | .sending current report =>
    crew.Splits label id own sent (report :: crew.reports label id current worker.queue)
  | .finished => ∃ rest, crew.Splits label id own sent rest ∧ (rest = [] ∨ stopped)
  | .crashed message => crew.start id = .error message ∧ sent = []

namespace Worker.Follows

variable {crew : Crew σ} {label : String} {id : Nat} {own : List Chunk} {sent : List ChunkReport}
variable {stopped later : Prop} {worker : Worker σ}

theorem mono (follows : worker.Follows crew label id own sent stopped) (stays : stopped → later) :
    worker.Follows crew label id own sent later := by
  unfold Follows at follows ⊢
  split at follows
  case h_5 =>
    obtain ⟨rest, splits, done⟩ := follows
    exact ⟨rest, splits, done.imp_right stays⟩
  all_goals exact follows

/-- A worker that has reported has been started, and its reports are the first part of its script.
Without a report it may still be about to start. -/
theorem splits (follows : worker.Follows crew label id own sent stopped) (some_sent : sent ≠ []) :
    ∃ rest, crew.Splits label id own sent rest := by
  unfold Follows at follows
  split at follows
  · exact absurd follows.2 some_sent
  · exact ⟨_, follows⟩
  · exact ⟨_, follows⟩
  · exact ⟨_, follows⟩
  · obtain ⟨rest, splits, _⟩ := follows
    exact ⟨rest, splits⟩
  · exact absurd follows.2 some_sent

theorem sent_starts (follows : worker.Follows crew label id own sent stopped) :
    ∃ rest, crew.script label id own = sent ++ rest := by
  by_cases nothing : sent = []
  · exact ⟨crew.script label id own, by rw [nothing, List.nil_append]⟩
  · obtain ⟨rest, first, started, splits⟩ := follows.splits nothing
    exact ⟨rest, by rw [Crew.script_of_start started, splits]⟩

end Worker.Follows

end ProfileLexer
