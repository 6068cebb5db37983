import ProfileLexer.Proofs.Log.Entries
import ProfileLexer.Proofs.Pool.Book

/-!
The entries of a run whose workers all start and which no fault aborts. No move of the pool loses an
entry or makes one up: what is logged, together with what is still to be logged, stays the same, and
at the end nothing is left to be logged.
-/

namespace ProfileLexer

variable {σ : Type}

theorem Slot.every_piece (slot : Slot) (source : List Char) :
    (slot.piece source).Every Entry.Ordinary := by
  unfold piece
  split
  · exact Logged.every_pure _
  · split
    · exact Logged.every_fail _
    · exact (Logged.ordinary_log (by decide) _).bind fun _ => Logged.every_pure _
  · exact Logged.every_fail _

theorem Reassembler.every_finish (reassembler : Reassembler) (source : String) :
    (reassembler.finish source).Every Entry.Ordinary :=
  (Logged.Every.mapM fun slot => slot.every_piece source.toList).bind fun _ => Logged.every_pure _

namespace Crew

variable (crew : Crew σ) (label : String) (worker : Nat)

/-- The entries that are still to come from a worker in a state: those that it logs on its chunks,
and those that its reports cause when the collector takes them. -/
def owed (state : σ) (queue : List Chunk) : List Entry :=
  (crew.logs worker state queue).flatMap (·.attributed label) ++
    (crew.reports label worker state queue).flatMap ChunkReport.entries

theorem logs_cons (state : σ) (chunk : Chunk) (queue : List Chunk) :
    ∃ log : ChunkLog, crew.logs worker state (chunk :: queue) =
        log :: crew.logs worker (crew.handle label worker state chunk).2.1 queue ∧
      log.attributed label = (crew.handle label worker state chunk).2.2 :=
  ⟨_, rfl, rfl⟩

variable {crew label worker}

theorem count_owed_cons {state next : σ} {chunk : Chunk} {report : ChunkReport}
    {logged : List Entry} (handled : crew.handle label worker state chunk = (report, next, logged))
    (queue : List Chunk) (entry : Entry) :
    (crew.owed label worker state (chunk :: queue)).count entry =
      logged.count entry + report.entries.count entry +
        (crew.owed label worker next queue).count entry := by
  obtain ⟨log, logs, attributed⟩ := crew.logs_cons label worker state chunk queue
  rw [handled] at logs attributed
  unfold owed
  rw [logs, reports_cons, handled]
  simp only [List.flatMap_cons, List.count_append, attributed]
  omega

end Crew

/-- The entries that are still to come from a worker. What it has in hand has been logged already,
but its report has not been taken. -/
def Worker.owes (crew : Crew σ) (label : String) (id : Nat) (worker : Worker σ) : List Entry :=
  match worker.station with
  | .starting =>
    match crew.start id with
    | .ok first => crew.owed label id first worker.queue
    | .error _ => []
  | .ready current => crew.owed label id current worker.queue
  | .holding current report | .sending current report =>
    report.entries ++ crew.owed label id current worker.queue
  | .finished | .crashed _ => []

/-- Replacing the part of one item. Written without taking anything away, since parts of other items
may hold the same. -/
theorem perm_flatten_mapIdx_set {α β : Type} (f : Nat → α → List β) {items : List α} {i : Nat}
    {old : α} (new : α) (atIndex : items[i]? = some old) :
    (((items.set i new).mapIdx f).flatten ++ f i old).Perm ((items.mapIdx f).flatten ++ f i new) := by
  induction items generalizing i f with
  | nil => simp at atIndex
  | cons head tail ih =>
    cases i with
    | zero =>
      cases atIndex
      simp only [List.set_cons_zero, List.mapIdx_cons, List.flatten_cons]
      have behind : (f 0 new ++ (tail.mapIdx fun index => f (index + 1)).flatten).Perm
          ((tail.mapIdx fun index => f (index + 1)).flatten ++ f 0 new) := List.perm_append_comm
      refine List.perm_append_comm.trans ?_
      rw [List.append_assoc]
      exact behind.append_left _
    | succ i =>
      have rest := ih (fun index => f (index + 1)) (by simpa using atIndex)
      simp only [List.set_cons_succ, List.mapIdx_cons, List.flatten_cons, List.append_assoc]
      exact rest.append_left _


namespace PoolState

variable {pool : Pool} {crew : Crew σ} {workers : Nat} {chunks : List Chunk}
variable {state next : PoolState σ} {label : String}

/-- What is logged, and what is still to be logged about the reports on their way and by the
workers. Its order is of no account. -/
def ledger (crew : Crew σ) (label : String) (state : PoolState σ) : List Entry :=
  state.entries ++ state.channel.flatMap ChunkReport.entries ++
    (state.workers.mapIdx (Worker.owes crew label)).flatten

/-- A worker's move keeps the ledger if what the worker owes less is what is logged more, entry by
entry. Other workers may owe the same entries. -/
theorem ledger_of_worker_move {id : Nat} {old new : Worker σ}
    (atId : state.workers[id]? = some old) (moved : next.workers = state.workers.set id new)
    (balance : ∀ entry : Entry,
      next.entries.count entry + (next.channel.flatMap ChunkReport.entries).count entry +
          (new.owes crew label id).count entry =
        state.entries.count entry + (state.channel.flatMap ChunkReport.entries).count entry +
          (old.owes crew label id).count entry) :
    (next.ledger crew label).Perm (state.ledger crew label) := by
  refine List.perm_iff_count.mpr fun entry => ?_
  have replaced := (perm_flatten_mapIdx_set (Worker.owes crew label) new atId).count_eq entry
  have kept := balance entry
  unfold ledger
  rw [moved]
  simp only [List.count_append] at replaced ⊢
  omega

end PoolState

namespace PoolState.Sound

open ChunkReport (sentBy sentBy_append mem_sentBy)
open Chunk (ownedBy)

variable {pool : Pool} {crew : Crew σ} {workers : Nat} {chunks : List Chunk}
variable {history : List ChunkReport} {state next : PoolState σ}

/-- When the collector has stopped, no report of a worker is on its way or still to come, as no
fault has made it stop early. -/
theorem nothing_left (sound : state.Sound pool crew workers chunks history)
    (dealt : Chunk.Dealt workers chunks) (undisturbed : pool.Undisturbed crew workers chunks)
    (closed : state.listening = false) {id : Nat} (within : id < workers) {rest : List ChunkReport}
    (script : crew.script pool.label id (ownedBy workers id chunks) =
      sentBy workers id (history ++ state.channel) ++ rest) :
    sentBy workers id state.channel = [] ∧ rest = [] := by
  obtain ⟨_, _, scripts⟩ := sound.scripts_of_closed dealt undisturbed closed
  rw [← scripts id within, sentBy_append,
    List.append_assoc, List.self_eq_append_right] at script
  exact List.append_eq_nil_iff.mp script

theorem channel_of_closed (sound : state.Sound pool crew workers chunks history)
    (dealt : Chunk.Dealt workers chunks) (undisturbed : pool.Undisturbed crew workers chunks)
    (closed : state.listening = false) : state.channel = [] := by
  rw [List.eq_nil_iff_forall_not_mem]
  intro report member
  have within : report.chunk % workers < workers := Nat.mod_lt _ dealt.someWorker
  obtain ⟨worker, atId⟩ := sound.exists_worker within
  obtain ⟨rest, script⟩ := (sound.follows _ worker atId).sent_starts
  have sent : report ∈ sentBy workers (report.chunk % workers) state.channel :=
    mem_sentBy.mpr ⟨member, rfl⟩
  rw [(sound.nothing_left dealt undisturbed closed within script).1] at sent
  cases sent

theorem lt_of_atId (sound : state.Sound pool crew workers chunks history) {id : Nat}
    {worker : Worker σ} (atId : state.workers[id]? = some worker) : id < workers := by
  rw [← sound.size]
  exact (List.getElem?_eq_some_iff.mp atId).1

/-- No worker is about to send when the collector has stopped, so no report is dropped. -/
theorem not_sending_of_closed (sound : state.Sound pool crew workers chunks history)
    (dealt : Chunk.Dealt workers chunks) (undisturbed : pool.Undisturbed crew workers chunks)
    (closed : state.listening = false) {id : Nat} {worker : Worker σ}
    (atId : state.workers[id]? = some worker) (current : σ) (report : ChunkReport) :
    worker.station ≠ .sending current report := by
  intro station
  have follows := sound.follows id worker atId
  simp only [Worker.Follows, station] at follows
  obtain ⟨first, started, reports⟩ := follows
  rw [← Crew.script_of_start started] at reports
  cases (sound.nothing_left dealt undisturbed closed (sound.lt_of_atId atId) reports).2

/-- No worker has a fault in hand that would abort the run, and nobody is told to stop. -/
theorem not_aborting (sound : state.Sound pool crew workers chunks history)
    (undisturbed : pool.Undisturbed crew workers chunks) {id : Nat} {worker : Worker σ}
    (atId : state.workers[id]? = some worker) {current : σ} {report : ChunkReport}
    (station : worker.station = .holding current report) :
    (report.isFault && pool.policy == .abortRun) = false := by
  have follows := sound.follows id worker atId
  simp only [Worker.Follows, station] at follows
  obtain ⟨first, started, reports⟩ := follows
  rw [← Crew.script_of_start started] at reports
  have member : report ∈ crew.script pool.label id (ownedBy workers id chunks) := by
    rw [reports]
    simp
  cases policy : pool.policy with
  | abortRun => simp [undisturbed.faultless policy id (sound.lt_of_atId atId) report member]
  | degradeChunk => simp

/-- Every move keeps the ledger, and nobody is told to stop. An aborted run would leave entries of
its ledger unwritten, and which ones would depend on the turns. -/
theorem ledger_of_move (sound : state.Sound pool crew workers chunks history)
    (dealt : Chunk.Dealt workers chunks) (undisturbed : pool.Undisturbed crew workers chunks)
    (active : state.cancelled = false) (moved : Move pool crew state next) :
    next.cancelled = false ∧
      (next.ledger crew pool.label).Perm (state.ledger crew pool.label) := by
  cases moved with
  | starts atId station started =>
    refine ⟨active, ledger_of_worker_move atId rfl fun entry => ?_⟩
    simp only [move, Worker.owes, station, started]
  | crashes atId station broken =>
    obtain ⟨first, started⟩ := undisturbed.starts _ (sound.lt_of_atId atId)
    rw [broken] at started
    cases started
  | finishes atId station stopped =>
    have empty := stopped.resolve_right (by simp [active])
    refine ⟨active, ledger_of_worker_move atId rfl fun entry => ?_⟩
    simp [move, Worker.owes, station, empty, Crew.owed, Crew.logs, Crew.reports]
  | @handles id worker current chunk queue report after logged atId station waiting _ handled =>
    refine ⟨active, ledger_of_worker_move atId rfl fun entry => ?_⟩
    have owed := Crew.count_owed_cons handled queue entry
    simp only [move, Worker.owes, station, waiting, List.count_append, owed]
    omega
  | announces atId station =>
    have unheeded := sound.not_aborting undisturbed atId station
    refine ⟨by simp [active, unheeded], ledger_of_worker_move atId rfl fun entry => ?_⟩
    simp only [move, Worker.owes, station]
  | @sends id worker current report atId station _ =>
    refine ⟨active, ledger_of_worker_move atId rfl fun entry => ?_⟩
    simp only [move, Worker.owes, station, List.flatMap_append, List.flatMap_singleton,
      List.count_append]
    omega
  | drops atId station closed =>
    exact absurd station (sound.not_sending_of_closed dealt undisturbed closed atId _ _)
  | @takes report channel reassembler listens pending _ =>
    refine ⟨active, List.perm_iff_count.mpr fun entry => ?_⟩
    simp only [ledger, pending, List.flatMap_cons, List.count_append]
    omega
  | refuses listens pending refused =>
    have member : _ ∈ history ++ state.channel :=
      List.mem_append_right _ (pending ▸ List.mem_cons_self)
    obtain ⟨policy, fault, rfl, _⟩ := sound.refused dealt member refused
    cases undisturbed.faultless policy _ (Nat.mod_lt _ dealt.someWorker) _
      (sound.mem_script dealt member)
  | closes listens empty quiet => exact ⟨active, .refl _⟩

end PoolState.Sound

/-- The whole ledger before a run. All of it is still owed by the workers. -/
theorem PoolState.ledger_start (pool : Pool) (crew : Crew σ) (workers : Nat) (chunks : List Chunk)
    (starts : ∀ id < workers, ∃ first, crew.start id = .ok first) :
    ((start workers pool.policy chunks : PoolState σ).ledger crew pool.label).Perm
      ((crew.logBook workers chunks).flatMap (·.attributed pool.label) ++
        (crew.reportBook pool.label workers chunks).flatMap ChunkReport.entries) := by
  have owes : ((start workers pool.policy chunks : PoolState σ).workers.mapIdx
      (Worker.owes crew pool.label)).flatten = (List.range workers).flatMap fun id =>
        (crew.logScript id (Chunk.ownedBy workers id chunks)).flatMap (·.attributed pool.label) ++
          (crew.script pool.label id (Chunk.ownedBy workers id chunks)).flatMap
            ChunkReport.entries := by
    rw [List.flatMap_def]
    congr 1
    apply List.ext_getElem
    · simp [start]
    intro id _ within
    rw [List.length_map, List.length_range] at within
    obtain ⟨first, started⟩ := starts id within
    simp only [start, List.getElem_mapIdx, List.getElem_map, List.getElem_range, Worker.owes,
      Crew.owed, Crew.logScript, Crew.script, started, Chunk.ownedBy]
  unfold ledger
  rw [owes]
  unfold Crew.logBook Crew.reportBook
  rw [List.flatMap_assoc, List.flatMap_assoc]
  exact (List.flatMap_append_perm _ _ _).symm

namespace Pool

variable {pool : Pool} {crew : Crew σ} {chunks : List Chunk}

/-- When a run is over, its entries are those of the chunks and those of the reports, whoever has
had the turns. Their order is not determined. -/
theorem entries_final (schedule : Schedule) (numbered : chunks.map Chunk.id = List.range chunks.length)
    (nonempty : chunks ≠ []) (undisturbed : pool.Undisturbed crew (pool.crewSize chunks) chunks) :
    (pool.final crew schedule chunks).entries.Perm
      ((crew.logBook (pool.crewSize chunks) chunks).flatMap (·.attributed pool.label) ++
        (crew.reportBook pool.label (pool.crewSize chunks) chunks).flatMap
          ChunkReport.entries) := by
  have dealt := Chunk.dealt_crewSize pool numbered nonempty
  let first : PoolState σ := .start (pool.crewSize chunks) pool.policy chunks
  obtain ⟨⟨history, sound⟩, _, ledger⟩ := pool.final_induction crew schedule chunks
    (fun state => (∃ history, state.Sound pool crew (pool.crewSize chunks) chunks history) ∧
      state.cancelled = false ∧
      (state.ledger crew pool.label).Perm (first.ledger crew pool.label))
    ⟨⟨[], PoolState.sound_start _ _⟩, rfl, .refl _⟩
    fun ⟨⟨_, sound⟩, active, same⟩ moved =>
      have kept := sound.ledger_of_move dealt undisturbed active moved
      ⟨sound.step dealt moved, kept.1, kept.2.trans same⟩
  have closed := pool.listening_final crew schedule chunks
  have quiet := pool.isQuiet_final crew schedule chunks
  have owes : ((pool.final crew schedule chunks).workers.mapIdx
      (Worker.owes crew pool.label)).flatten = [] := by
    rw [List.flatten_eq_nil_iff]
    intro part member
    obtain ⟨id, within, made⟩ := List.mem_mapIdx.mp member
    have rest := List.all_eq_true.mp quiet _ (List.getElem_mem within)
    rw [← made]
    unfold Worker.owes
    cases station : (pool.final crew schedule chunks).workers[id].station with
    | finished => rfl
    | crashed message => rfl
    | starting | ready _ | holding _ _ | sending _ _ =>
      rw [station] at rest
      cases rest
  have settled : (pool.final crew schedule chunks).ledger crew pool.label =
      (pool.final crew schedule chunks).entries := by
    rw [PoolState.ledger, sound.channel_of_closed dealt undisturbed closed, owes]
    simp
  rw [← settled]
  exact ledger.trans (PoolState.ledger_start pool crew _ chunks undisturbed.starts)

/-- Whoever has the turns, a run yields the same, and leaves the entries of its chunks and of its
reports behind. A run over no chunks is included; it leaves nothing. -/
theorem run_leaves {workers : Nat} (size : chunks ≠ [] → pool.crewSize chunks = workers)
    (source : String) (numbered : chunks.map Chunk.id = List.range chunks.length)
    (undisturbed : pool.Undisturbed crew workers chunks) :
    Logged.Leaves
        ((crew.logBook workers chunks).flatMap (·.attributed pool.label) ++
          (crew.reportBook pool.label workers chunks).flatMap ChunkReport.entries)
        (fun schedule => pool.run crew schedule source chunks) ∧
      ∀ schedule other, (pool.run crew schedule source chunks).result =
        (pool.run crew other source chunks).result := by
  by_cases empty : chunks = []
  · subst empty
    rw [Crew.logBook_nil, Crew.reportBook_nil]
    exact ⟨⟨[], (fun _ member => nomatch member), fun _ => .refl _⟩, fun _ _ => rfl⟩
  obtain rfl := size empty
  have dealt := Chunk.dealt_crewSize pool numbered empty
  obtain ⟨reportOn, reports⟩ := Crew.exists_reports dealt pool.label undisturbed.starts
  let ending := (⟨pool.policy, chunks.map fun chunk => (reportOn chunk).slot chunk.range, 0⟩ :
    Reassembler).finish source
  have ran (schedule : Schedule) : pool.run crew schedule source chunks =
      (Logged.write (pool.final crew schedule chunks).entries >>= fun _ => ending) := by
    obtain ⟨history, sound⟩ := pool.final_sound crew schedule numbered empty
    obtain ⟨failure, calm, scripts⟩ := sound.scripts_of_closed dealt undisturbed
      (pool.listening_final crew schedule chunks)
    obtain ⟨concluded, slots⟩ := sound.conclude_of_scripts dealt undisturbed.starts reports failure
      calm scripts source
    have finished : (pool.final crew schedule chunks).reassembler.finish source = ending := by
      unfold ending Reassembler.finish
      rw [slots]
    rw [pool.run_of_ne_nil crew schedule source empty, concluded, finished]
  refine ⟨⟨ending.entries, Reassembler.every_finish _ source, fun schedule => ?_⟩, ?_⟩
  · dsimp only
    rw [ran, Logged.entries_bind_of_ok (Logged.result_write _)]
    exact List.perm_append_comm.trans
      ((pool.entries_final schedule numbered empty undisturbed).append_left _)
  · intro schedule other
    rw [ran, ran, Logged.result_bind_of_ok (Logged.result_write _),
      Logged.result_bind_of_ok (Logged.result_write _)]

end Pool

end ProfileLexer
