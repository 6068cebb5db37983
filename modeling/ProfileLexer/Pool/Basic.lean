import ProfileLexer.Chunk.Reassembler
import ProfileLexer.Pool.Crew

/-!
A pool of workers and the collector of their reports, as a system that moves in turns. Worker `w` of
`W` has the chunks whose numbers leave the rest `w` when divided by `W`. In a turn one worker or the
collector takes one step; a schedule says whose turn it is, as far as it goes, and every order of
turns is a possible run of the pool.
-/

namespace ProfileLexer

/-- Where a worker stands between two of its steps. Holding a report and sending it are two
stations, since others may move in between. -/
inductive Station (σ : Type) where
  | starting
  /-- Before the next chunk. -/
  | ready (state : σ)
  /-- With a report on a chunk, before others are told to stop. -/
  | holding (state : σ) (report : ChunkReport)
  /-- With a report that is to be sent. -/
  | sending (state : σ) (report : ChunkReport)
  | finished
  /-- Broken down before the first chunk. -/
  | crashed (message : String)
  deriving Inhabited

def Station.atRest {σ : Type} : Station σ → Bool
  | finished | crashed _ => true
  | starting | ready _ | holding _ _ | sending _ _ => false

/-- A worker with the chunks that are left for it. A worker that has stopped may still have some. -/
structure Worker (σ : Type) where
  queue : List Chunk
  station : Station σ
  deriving Inhabited

/-- The state of a pool on a run. Any combination of fields is a state; which of them can be reached
is for the invariants to say. -/
structure PoolState (σ : Type) where
  workers : List (Worker σ)
  /-- Workers take no more chunks. -/
  cancelled : Bool
  /-- Reports on their way, oldest first. -/
  channel : List ChunkReport
  /-- The collector takes reports. -/
  listening : Bool
  /-- Why the collector has given up. -/
  failure : Option SchedulerError
  reassembler : Reassembler
  entries : List Entry
  deriving Inhabited

/-- Whose turn it is. A turn may be given to a worker that the pool does not have; nothing then
moves. -/
inductive Turn where
  | worker (id : Nat)
  | collector
  deriving DecidableEq, Repr, Inhabited

/-- A number of workers, and what a fault means to them. The number is a request: a pool never sets
more workers than there are chunks. -/
structure Pool where
  workers : Nat
  policy : FailurePolicy
  /-- The name of the run in the log. -/
  label : String
  deriving DecidableEq, Repr, Inhabited

/-- The first turns of a run with a number of workers and with some chunks. Nothing is asked of a
schedule: a turn of somebody who can not move is passed over, and rounds follow when the turns are
used up. -/
abbrev Schedule := Nat → List Chunk → List Turn

/-- The schedule that takes the chunks one after the other: all workers start, each chunk is
processed, sent and collected before the next one, and all workers finish. -/
def Schedule.inOrder : Schedule := fun workers chunks =>
  let all := (List.range workers).map Turn.worker
  all ++
    (chunks.flatMap fun chunk => List.replicate 3 (.worker (chunk.id % workers)) ++ [.collector]) ++
    all ++ [.collector]

namespace PoolState

variable {σ : Type}

/-- The state in which some workers have all their chunks before them. A chunk is dealt by the rest
of its number, so that every chunk belongs to one worker only. -/
def start (workers : Nat) (policy : FailurePolicy) (chunks : List Chunk) : PoolState σ where
  workers := (List.range workers).map fun id =>
    ⟨chunks.filter (·.id % workers == id), .starting⟩
  cancelled := false
  channel := []
  listening := true
  failure := none
  reassembler := .ofRanges policy (chunks.map Chunk.range)
  entries := []

def move (state : PoolState σ) (id : Nat) (worker : Worker σ) : PoolState σ :=
  { state with workers := state.workers.set id worker }

def isQuiet (state : PoolState σ) : Bool :=
  state.workers.all (·.station.atRest)

def isOver (state : PoolState σ) : Bool :=
  !state.listening && state.isQuiet

/-- The state after a step of a worker; none when the worker is at rest. A stop is noticed before
the next chunk only, and a report to which nobody listens ends the worker. -/
def workerStep? (pool : Pool) (crew : Crew σ) (state : PoolState σ) (id : Nat) :
    Option (PoolState σ) := do
  let worker ← state.workers[id]?
  match worker.station with
  | .starting =>
    match crew.start id with
    | .ok first => return state.move id { worker with station := .ready first }
    | .error message => return state.move id { worker with station := .crashed message }
  | .ready current =>
    match worker.queue with
    | [] => return state.move id { worker with station := .finished }
    | chunk :: queue =>
      if state.cancelled then return state.move id { worker with station := .finished }
      else
        let (report, next, logged) := crew.handle pool.label id current chunk
        return { state.move id ⟨queue, .holding next report⟩ with
          entries := state.entries ++ logged }
  | .holding current report =>
    return { state.move id { worker with station := .sending current report } with
      cancelled := state.cancelled || (report.isFault && pool.policy == .abortRun) }
  | .sending current report =>
    if state.listening then
      return { state.move id { worker with station := .ready current } with
        channel := state.channel ++ [report] }
    else return state.move id { worker with station := .finished }
  | .finished | .crashed _ => none

/-- The state after a step of the collector: it takes the next report, and stops at an error, when
every chunk has been reported on, or when there is nothing left to wait for. None when it has
stopped or has to wait. -/
def collectorStep? (state : PoolState σ) : Option (PoolState σ) :=
  if state.listening then
    match state.channel with
    | report :: channel =>
      let state := { state with channel := channel, entries := state.entries ++ report.entries }
      match state.reassembler.accept report with
      | .ok reassembler =>
        some { state with
          reassembler := reassembler, listening := !reassembler.isComplete }
      | .error error =>
        some { state with cancelled := true, listening := false, failure := some error }
    | [] => if state.isQuiet then some { state with listening := false } else none
  else none

/-- The state after a turn; none when whoever has the turn can not move. A step touches at most one
worker. -/
def step? (pool : Pool) (crew : Crew σ) (state : PoolState σ) : Turn → Option (PoolState σ)
  | .worker id => state.workerStep? pool crew id
  | .collector => state.collectorStep?

/-- The state after some turns, in which those who can not move are passed over. -/
def after (pool : Pool) (crew : Crew σ) (turns : List Turn) (state : PoolState σ) : PoolState σ :=
  turns.foldl (fun state turn => (state.step? pool crew turn).getD state) state

def round (workers : Nat) : List Turn :=
  (List.range workers).map Turn.worker ++ [.collector]

/-- The state after rounds of turns, until nobody can move. `rounds` is the most there may be; that
`Pool.mostMoves` are enough is a theorem and not assumed here. -/
def settle (pool : Pool) (crew : Crew σ) (state : PoolState σ) : Nat → PoolState σ
  | 0 => state
  | rounds + 1 =>
    if state.isOver then state
    else (state.after pool crew (round state.workers.length)).settle pool crew rounds

/-- The first worker that has broken down outside its chunks, in the order of the workers and not of
time, with its message. -/
def crash? (state : PoolState σ) : Option (Nat × String) :=
  state.workers.zipIdx.findSome? fun (worker, id) =>
    match worker.station with
    | .crashed message => some (id, message)
    | _ => none

/-- What comes of a run that is over. What stopped the collector comes first, then a worker that
broke down outside its chunks, and only then is it asked whether all chunks have been reported
on. -/
def conclude (state : PoolState σ) (source : String) : Logged SchedulerError Reassembly := do
  Logged.write state.entries
  match state.failure, state.crash? with
  | some error, _ => Logged.fail error
  | none, some (id, message) => Logged.fail (.workerPanic id message)
  | none, none =>
    if state.reassembler.isComplete then state.reassembler.finish source
    else
      Logged.fail (.channelClosed state.reassembler.received state.reassembler.expected)

end PoolState

namespace Pool

/-- How many workers a pool sets to some chunks: those that were asked for, but at least one, and
never more than there are chunks. -/
def crewSize (pool : Pool) (chunks : List Chunk) : Nat :=
  min (max pool.workers 1) chunks.length

/-- More moves than a run can take: at most five for a chunk, two more for a worker, and one more
for the collector. -/
def mostMoves (workers : Nat) (chunks : List Chunk) : Nat :=
  5 * chunks.length + 2 * workers + 1

/-- The last state of a run: turns are taken by a schedule, and then in rounds until nobody can
move. The schedule may be empty, unfair or longer than the run. -/
def final {σ : Type} (pool : Pool) (crew : Crew σ) (schedule : Schedule) (chunks : List Chunk) :
    PoolState σ :=
  let workers := pool.crewSize chunks
  ((PoolState.start workers pool.policy chunks).after pool crew (schedule workers chunks)).settle
    pool crew (mostMoves workers chunks)

/-- Has the chunks of a source processed by a crew, and puts the results together. Nothing ties the
chunks to the source here; a source without chunks needs no workers. -/
def run {σ : Type} (pool : Pool) (crew : Crew σ) (schedule : Schedule) (source : String)
    (chunks : List Chunk) : Logged SchedulerError Reassembly :=
  if chunks.isEmpty then (Reassembler.ofRanges pool.policy []).finish source
  else (pool.final crew schedule chunks).conclude source

end Pool

end ProfileLexer
