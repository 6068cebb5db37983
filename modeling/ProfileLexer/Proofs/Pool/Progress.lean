import Mathlib.Algebra.GroupWithZero.Nat
import ProfileLexer.Proofs.Pool.Move

/-!
Runs of a pool end. Every move uses up some of a measure that is bounded by the number of workers
and chunks, and as long as a run is not over somebody can move.
-/

namespace ProfileLexer

variable {σ : Type}

/-- How many moves a worker can still take part in, reports on their way included. It is an upper
bound: each chunk in the queue counts for five, and takes four. -/
def Worker.moves (worker : Worker σ) : Nat :=
  match worker.station with
  | .starting => 5 * worker.queue.length + 2
  | .ready _ => 5 * worker.queue.length + 1
  | .holding _ _ => 5 * worker.queue.length + 4
  | .sending _ _ => 5 * worker.queue.length + 3
  | .finished | .crashed _ => 0

theorem Worker.atRest_of_moves_eq_zero {worker : Worker σ} (none_left : worker.moves = 0) :
    worker.station.atRest = true := by
  cases station : worker.station <;> simp [Worker.moves, station, Station.atRest] at none_left ⊢

/-- Replacing one summand. Written additively to avoid truncated subtraction. -/
theorem sum_map_set {α : Type} (f : α → Nat) {items : List α} {i : Nat} {old : α} (new : α)
    (atIndex : items[i]? = some old) :
    ((items.set i new).map f).sum + f old = (items.map f).sum + f new := by
  induction items generalizing i with
  | nil => simp at atIndex
  | cons head tail ih =>
    cases i with
    | zero =>
      cases atIndex
      simp only [List.set_cons_zero, List.map_cons, List.sum_cons]
      omega
    | succ i =>
      have rest := ih (by simpa using atIndex)
      simp only [List.set_cons_succ, List.map_cons, List.sum_cons]
      omega

namespace PoolState

variable {pool : Pool} {crew : Crew σ} {state next : PoolState σ}

/-- How many moves a pool can still make. It is a bound, as a run may be aborted before. -/
def moves (state : PoolState σ) : Nat :=
  (state.workers.map Worker.moves).sum + state.channel.length + state.listening.toNat

theorem Move.moves_lt (moved : Move pool crew state next) : next.moves < state.moves := by
  cases moved with
  | @starts id worker first atId station _ =>
    have sum := sum_map_set Worker.moves ⟨worker.queue, .ready first⟩ atId
    simp only [moves, move, Worker.moves, station] at sum ⊢
    omega
  | @crashes id worker message atId station _ =>
    have sum := sum_map_set Worker.moves ⟨worker.queue, .crashed message⟩ atId
    simp only [moves, move, Worker.moves, station] at sum ⊢
    omega
  | @finishes id worker current atId station _ =>
    have sum := sum_map_set Worker.moves ⟨worker.queue, .finished⟩ atId
    simp only [moves, move, Worker.moves, station] at sum ⊢
    omega
  | @handles id worker current chunk queue report after logged atId station waiting _ _ =>
    have sum := sum_map_set Worker.moves ⟨queue, .holding after report⟩ atId
    simp only [moves, move, Worker.moves, station, waiting, List.length_cons] at sum ⊢
    omega
  | @announces id worker current report atId station =>
    have sum := sum_map_set Worker.moves ⟨worker.queue, .sending current report⟩ atId
    simp only [moves, move, Worker.moves, station] at sum ⊢
    omega
  | @sends id worker current report atId station _ =>
    have sum := sum_map_set Worker.moves ⟨worker.queue, .ready current⟩ atId
    simp only [moves, move, Worker.moves, station, List.length_append, List.length_singleton]
      at sum ⊢
    omega
  | @drops id worker current report atId station _ =>
    have sum := sum_map_set Worker.moves ⟨worker.queue, .finished⟩ atId
    simp only [moves, move, Worker.moves, station] at sum ⊢
    omega
  | @takes report channel reassembler listens pending _ =>
    have fewer := Bool.toNat_le (!reassembler.isComplete)
    simp only [moves, listens, pending, List.length_cons, Bool.toNat_true]
    omega
  | refuses listens pending _ =>
    simp only [moves, listens, pending, List.length_cons, Bool.toNat_true, Bool.toNat_false]
    omega
  | closes listens _ _ =>
    simp only [moves, listens, Bool.toNat_true, Bool.toNat_false]
    omega

theorem workerStep?_isSome {id : Nat} {worker : Worker σ} (atId : state.workers[id]? = some worker)
    (active : worker.station.atRest = false) : (state.workerStep? pool crew id).isSome = true := by
  rw [workerStep?, atId, Option.bind_eq_bind, Option.bind_some]
  cases station : worker.station with
  | starting =>
    simp only
    cases crew.start id <;> rfl
  | ready current =>
    simp only
    cases worker.queue with
    | nil => rfl
    | cons chunk queue =>
      simp only
      split <;> rfl
  | holding current report => rfl
  | sending current report =>
    simp only
    split <;> rfl
  | finished => simp [station, Station.atRest] at active
  | crashed message => simp [station, Station.atRest] at active

theorem collectorStep?_isSome (listens : state.listening = true) (quiet : state.isQuiet = true) :
    (state.collectorStep?).isSome = true := by
  rw [collectorStep?, listens, if_pos rfl]
  cases state.channel with
  | nil => simp [quiet]
  | cons report channel =>
    simp only
    split <;> rfl

/-- As long as a run is not over, a round has a turn in which somebody can move. Which one it is may
depend on the state. -/
theorem exists_turn_of_not_over (pool : Pool) (crew : Crew σ) (going : state.isOver = false) :
    ∃ turn ∈ round state.workers.length, (state.step? pool crew turn).isSome = true := by
  cases quiet : state.isQuiet with
  | false =>
    obtain ⟨worker, member, active⟩ := List.all_eq_false.mp quiet
    obtain ⟨id, within, atId⟩ := List.mem_iff_getElem.mp member
    refine ⟨.worker id, ?_, ?_⟩
    · simp [round, within]
    · exact workerStep?_isSome (by rw [List.getElem?_eq_getElem within, atId])
        (by simpa using active)
  | true =>
    have listens : state.listening = true := by simpa [isOver, quiet] using going
    exact ⟨.collector, by simp [round], collectorStep?_isSome listens quiet⟩

theorem after_cons (turn : Turn) (turns : List Turn) :
    state.after pool crew (turn :: turns) =
      ((state.step? pool crew turn).getD state).after pool crew turns := rfl

/-- What holds at first and is kept by every move holds after any turns. Turns in which nobody can
move change nothing. -/
theorem after_induction (holds : PoolState σ → Prop) (turns : List Turn) (first : holds state)
    (keeps : ∀ {before after : PoolState σ}, holds before → Move pool crew before after →
      holds after) :
    holds (state.after pool crew turns) := by
  induction turns generalizing state with
  | nil => exact first
  | cons turn turns ih =>
    rw [after_cons]
    cases stepped : state.step? pool crew turn with
    | none => exact ih first
    | some next => exact ih (keeps first (step?_move stepped))

/-- What holds at first and is kept by every move holds after any rounds. -/
theorem settle_induction (holds : PoolState σ → Prop) (rounds : Nat) (first : holds state)
    (keeps : ∀ {before after : PoolState σ}, holds before → Move pool crew before after →
      holds after) :
    holds (state.settle pool crew rounds) := by
  induction rounds generalizing state with
  | zero => exact first
  | succ rounds ih =>
    rw [settle]
    split
    · exact first
    · exact ih (after_induction holds _ first keeps)

theorem moves_after_le (turns : List Turn) :
    (state.after pool crew turns).moves ≤ state.moves :=
  after_induction (fun reached => reached.moves ≤ state.moves) turns
    (Nat.le_refl _) fun below moved => Nat.le_trans (Nat.le_of_lt moved.moves_lt) below

theorem moves_after_lt {turns : List Turn}
    (movable : ∃ turn ∈ turns, (state.step? pool crew turn).isSome = true) :
    (state.after pool crew turns).moves < state.moves := by
  induction turns with
  | nil => simp at movable
  | cons turn turns ih =>
    rw [after_cons]
    cases stepped : state.step? pool crew turn with
    | none =>
      obtain ⟨other, member, moves⟩ := movable
      have later : other ∈ turns := by
        rcases List.mem_cons.mp member with rfl | later
        · simp [stepped] at moves
        · exact later
      exact ih ⟨other, later, moves⟩
    | some next => exact Nat.lt_of_le_of_lt (moves_after_le turns) (step?_move stepped).moves_lt

theorem isOver_of_moves_eq_zero (none_left : state.moves = 0) : state.isOver = true := by
  have silent : state.listening = false := by
    cases listens : state.listening
    · rfl
    · simp [moves, listens] at none_left
  have idle : ∀ worker ∈ state.workers, worker.station.atRest = true := by
    intro worker member
    apply Worker.atRest_of_moves_eq_zero
    have sum : (state.workers.map Worker.moves).sum = 0 := by
      rw [moves] at none_left
      omega
    exact List.sum_eq_zero_iff_forall_eq_nat.mp sum _ (List.mem_map_of_mem member)
  rw [isOver, silent, isQuiet, List.all_eq_true.mpr idle]
  rfl

theorem settle_isOver {rounds : Nat} (enough : state.moves ≤ rounds) :
    (state.settle pool crew rounds).isOver = true := by
  induction rounds generalizing state with
  | zero => exact isOver_of_moves_eq_zero (Nat.le_zero.mp enough)
  | succ rounds ih =>
    rw [settle]
    cases ended : state.isOver with
    | true => simpa using ended
    | false =>
      have fewer := moves_after_lt (exists_turn_of_not_over pool crew ended)
      simpa using ih (by omega)

theorem sum_length_filter_cons (owns : Nat → Chunk → Bool) (ids : List Nat) (chunk : Chunk)
    (chunks : List Chunk) :
    (ids.map fun id => ((chunk :: chunks).filter (owns id)).length).sum =
      (ids.map fun id => (chunks.filter (owns id)).length).sum + ids.countP (owns · chunk) := by
  induction ids with
  | nil => rfl
  | cons id ids ih =>
    rw [List.map_cons, List.map_cons, List.sum_cons, List.sum_cons, List.countP_cons, ih]
    cases owned : owns id chunk with
    | true =>
      simp only [List.filter_cons, owned, if_true, List.length_cons]
      omega
    | false =>
      simp only [List.filter_cons, owned, Bool.false_eq_true, if_false]
      omega

/-- Every chunk is queued with one worker at most, so the queues together are no longer than the
list of chunks. -/
theorem sum_queues_le (workers : Nat) (chunks : List Chunk) :
    ((List.range workers).map fun id => (chunks.filter (·.id % workers == id)).length).sum ≤
      chunks.length := by
  induction chunks with
  | nil => simp
  | cons chunk chunks ih =>
    have once : (List.range workers).countP (chunk.id % workers == ·) ≤ 1 := by
      have unique := List.nodup_iff_count.mp (List.nodup_range (n := workers)) (chunk.id % workers)
      simpa only [List.count, BEq.comm] using unique
    rw [sum_length_filter_cons fun id chunk => chunk.id % workers == id, List.length_cons]
    omega

theorem moves_start_le (workers : Nat) (policy : FailurePolicy) (chunks : List Chunk) :
    (start workers policy chunks : PoolState σ).moves ≤ Pool.mostMoves workers chunks := by
  have queues := sum_queues_le workers chunks
  have sum : ∀ ids : List Nat, ((ids.map fun id =>
      (⟨chunks.filter (·.id % workers == id), .starting⟩ : Worker σ)).map Worker.moves).sum =
        5 * (ids.map fun id => (chunks.filter (·.id % workers == id)).length).sum +
          2 * ids.length := by
    intro ids
    induction ids with
    | nil => rfl
    | cons id ids ih =>
      simp only [List.map_cons, List.sum_cons, List.length_cons, Worker.moves] at ih ⊢
      omega
  simp only [moves, start, sum, List.length_range, List.length_nil, Bool.toNat_true,
    Pool.mostMoves]
  omega

end PoolState

namespace Pool

variable (pool : Pool) (crew : Crew σ) (schedule : Schedule) (chunks : List Chunk)

/-- What holds at the start of a run and is kept by every move holds at its end. The property need
not mention the schedule. -/
theorem final_induction (holds : PoolState σ → Prop)
    (first : holds (.start (pool.crewSize chunks) pool.policy chunks))
    (keeps : ∀ {before after : PoolState σ}, holds before →
      PoolState.Move pool crew before after → holds after) :
    holds (pool.final crew schedule chunks) :=
  PoolState.settle_induction holds _ (PoolState.after_induction holds _ first keeps) keeps

/-- Whatever turns the schedule gives, at the end of a run nobody can move: the rounds behind the
schedule are enough for what it has left. -/
theorem final_isOver : (pool.final crew schedule chunks).isOver = true :=
  PoolState.settle_isOver <| Nat.le_trans (PoolState.moves_after_le _) <|
    PoolState.moves_start_le _ _ _

theorem listening_final : (pool.final crew schedule chunks).listening = false := by
  have ended := pool.final_isOver crew schedule chunks
  simpa using (Bool.and_eq_true_iff.mp ended).1

theorem isQuiet_final : (pool.final crew schedule chunks).isQuiet = true :=
  (Bool.and_eq_true_iff.mp (pool.final_isOver crew schedule chunks)).2

end Pool

end ProfileLexer
