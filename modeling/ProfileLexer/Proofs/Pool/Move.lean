import Mathlib.Data.List.Basic
import ProfileLexer.Pool.Basic

/-!
The moves of a pool, one for each thing that a worker or the collector can do in a turn. Every move
uses something up, so a run ends; and as long as a run is not over, somebody can move.
-/

namespace ProfileLexer

variable {σ : Type}

namespace PoolState

/-- What a turn can do to a pool, one case for each thing that a worker or the collector does. Each
case has what has to be so for the move to be made; the state behind it is spelled out in full. -/
inductive Move (pool : Pool) (crew : Crew σ) (state : PoolState σ) : PoolState σ → Prop
  | starts {id worker first} (atId : state.workers[id]? = some worker)
      (station : worker.station = .starting) (started : crew.start id = .ok first) :
      Move pool crew state (state.move id ⟨worker.queue, .ready first⟩)
  | crashes {id worker message} (atId : state.workers[id]? = some worker)
      (station : worker.station = .starting) (broken : crew.start id = .error message) :
      Move pool crew state (state.move id ⟨worker.queue, .crashed message⟩)
  | finishes {id worker current} (atId : state.workers[id]? = some worker)
      (station : worker.station = .ready current)
      (stopped : worker.queue = [] ∨ state.cancelled = true) :
      Move pool crew state (state.move id ⟨worker.queue, .finished⟩)
  | handles {id worker current chunk queue report next logged}
      (atId : state.workers[id]? = some worker) (station : worker.station = .ready current)
      (waiting : worker.queue = chunk :: queue) (active : state.cancelled = false)
      (handled : crew.handle pool.label id current chunk = (report, next, logged)) :
      Move pool crew state { state.move id ⟨queue, .holding next report⟩ with
        entries := state.entries ++ logged }
  | announces {id worker current report} (atId : state.workers[id]? = some worker)
      (station : worker.station = .holding current report) :
      Move pool crew state { state.move id ⟨worker.queue, .sending current report⟩ with
        cancelled := state.cancelled || (report.isFault && pool.policy == .abortRun) }
  | sends {id worker current report} (atId : state.workers[id]? = some worker)
      (station : worker.station = .sending current report) (listens : state.listening = true) :
      Move pool crew state { state.move id ⟨worker.queue, .ready current⟩ with
        channel := state.channel ++ [report] }
  | drops {id worker current report} (atId : state.workers[id]? = some worker)
      (station : worker.station = .sending current report) (closed : state.listening = false) :
      Move pool crew state (state.move id ⟨worker.queue, .finished⟩)
  | takes {report channel reassembler} (listens : state.listening = true)
      (pending : state.channel = report :: channel)
      (accepted : state.reassembler.receive report = (reassembler, none)) :
      Move pool crew state { state with
        channel := channel
        entries := state.entries ++ report.entries
        reassembler := reassembler
        listening := !reassembler.isComplete }
  | refuses {report channel reassembler error} (listens : state.listening = true)
      (pending : state.channel = report :: channel)
      (refused : state.reassembler.receive report = (reassembler, some error)) :
      Move pool crew state { state with
        channel := channel
        entries := state.entries ++ report.entries
        cancelled := true
        listening := false
        failure := some error }
  | closes (listens : state.listening = true) (empty : state.channel = [])
      (quiet : state.isQuiet = true) :
      Move pool crew state { state with listening := false }

variable {pool : Pool} {crew : Crew σ} {state next : PoolState σ}

theorem workerStep?_move {id : Nat} (stepped : state.workerStep? pool crew id = some next) :
    Move pool crew state next := by
  rw [workerStep?, Option.bind_eq_bind, Option.bind_eq_some_iff] at stepped
  obtain ⟨worker, atId, moved⟩ := stepped
  cases station : worker.station with
  | starting =>
    simp only [station] at moved
    cases start : crew.start id with
    | ok first =>
      simp only [start] at moved
      cases moved
      exact .starts atId station start
    | error message =>
      simp only [start] at moved
      cases moved
      exact .crashes atId station start
  | ready current =>
    simp only [station] at moved
    cases waiting : worker.queue with
    | nil =>
      simp only [waiting] at moved
      cases moved
      have move : Move pool crew state _ := .finishes atId station (.inl waiting)
      simpa only [waiting, station] using move
    | cons chunk queue =>
      simp only [waiting] at moved
      cases active : state.cancelled with
      | true =>
        simp only [active, if_true] at moved
        cases moved
        have move : Move pool crew state _ := .finishes atId station (.inr active)
        simpa only [waiting, station] using move
      | false =>
        simp only [active, Bool.false_eq_true, if_false] at moved
        cases moved
        exact .handles atId station waiting active rfl
  | holding current report =>
    simp only [station] at moved
    cases moved
    exact .announces atId station
  | sending current report =>
    simp only [station] at moved
    cases listening : state.listening with
    | true =>
      simp only [listening, if_true] at moved
      cases moved
      have move : Move pool crew state _ := .sends atId station listening
      exact move
    | false =>
      simp only [listening, Bool.false_eq_true, if_false] at moved
      cases moved
      exact .drops atId station listening
  | finished => simp [station] at moved
  | crashed message => simp [station] at moved

theorem collectorStep?_move (stepped : state.collectorStep? = some next) :
    Move pool crew state next := by
  rw [collectorStep?] at stepped
  cases listens : state.listening with
  | false => simp [listens] at stepped
  | true =>
    rw [listens, if_pos rfl] at stepped
    cases pending : state.channel with
    | nil =>
      simp only [pending] at stepped
      split at stepped
      · rename_i quiet
        cases stepped
        have move : Move pool crew state _ := .closes listens pending quiet
        simpa only [pending] using move
      · cases stepped
    | cons report channel =>
      simp only [pending, Reassembler.accept] at stepped
      cases received : state.reassembler.receive report with
      | mk reassembler verdict =>
        rw [received] at stepped
        cases verdict with
        | none =>
          cases stepped
          exact .takes listens pending received
        | some error =>
          cases stepped
          exact .refuses listens pending received

theorem step?_move {turn : Turn} (stepped : state.step? pool crew turn = some next) :
    Move pool crew state next := by
  cases turn with
  | worker id => exact workerStep?_move stepped
  | collector => exact collectorStep?_move stepped

end PoolState

end ProfileLexer
