import ProfileLexer.Proofs.Pool.Invariant

/-!
Every move of a worker or of the collector keeps the invariant of a run.
-/

namespace ProfileLexer

variable {σ : Type} {crew : Crew σ} {pool : Pool}

theorem Crew.Splits.shift {label : String} {id : Nat} {own : List Chunk} {report : ChunkReport}
    {sent rest : List ChunkReport} (splits : crew.Splits label id own sent (report :: rest)) :
    crew.Splits label id own (sent ++ [report]) rest := by
  obtain ⟨first, started, all⟩ := splits
  exact ⟨first, started, by rw [all, List.append_assoc, List.singleton_append]⟩

theorem Crew.Splits.owner {label : String} {id workers : Nat} {chunks : List Chunk}
    {report : ChunkReport} {sent rest : List ChunkReport}
    (splits : crew.Splits label id (Chunk.ownedBy workers id chunks) sent (report :: rest)) :
    report.chunk % workers = id := by
  obtain ⟨first, started, all⟩ := splits
  have member : report ∈ crew.script label id (Chunk.ownedBy workers id chunks) := by
    rw [Crew.script_of_start started, all]
    simp
  obtain ⟨chunk, _, owner, current, made⟩ := Crew.exists_chunk_of_mem_script member
  rw [made, Crew.handle_chunk, owner]

namespace PoolState

open ChunkReport (sentBy sentBy_append sentBy_own sentBy_other sentBy_nil)

variable {workers : Nat} {chunks : List Chunk} {history : List ChunkReport}
variable {state next : PoolState σ}

theorem Ended.of_same_failure (ended : state.Ended pool crew workers chunks history)
    (same : next.failure = state.failure) : next.Ended pool crew workers chunks history := by
  cases ended with
  | aborted last faultless policy failure =>
    exact .aborted last faultless policy (same.trans failure)
  | complete failure faultless all => exact .complete (same.trans failure) faultless all

/-- A fault stays on its way while a worker moves that is not about to send. A worker that sends
puts it into the channel, which is another case. -/
theorem FaultUnderway.of_worker_move {id : Nat} {old new : Worker σ}
    (underway : state.FaultUnderway) (atId : state.workers[id]? = some old)
    (idle : ∀ current report, old.station ≠ .sending current report)
    (moved : next.workers = state.workers.set id new) (channel : next.channel = state.channel) :
    next.FaultUnderway := by
  rcases underway with ⟨report, member, isFault⟩ | ⟨other, worker, current, report, atOther,
    station, isFault⟩
  · exact .inl ⟨report, by rw [channel]; exact member, isFault⟩
  · have apart : id ≠ other := by
      rintro rfl
      rw [atId] at atOther
      cases atOther
      exact idle current report station
    refine .inr ⟨other, worker, current, report, ?_, station, isFault⟩
    rw [moved, List.getElem?_set_ne apart, atOther]

namespace Sound

/-- A worker's move keeps the invariant if the worker still follows its script, and nothing changes
for the others. Every move of a worker comes down to this. -/
theorem of_worker_move (sound : state.Sound pool crew workers chunks history) {id : Nat}
    {new : Worker σ} (moved : next.workers = state.workers.set id new)
    (reassembler : next.reassembler = state.reassembler) (failure : next.failure = state.failure)
    (listening : next.listening = state.listening)
    (cancelled : state.cancelled = true → next.cancelled = true)
    (others : ∀ other, other ≠ id →
      sentBy workers other next.channel = sentBy workers other state.channel)
    (follows : new.Follows crew pool.label id (Chunk.ownedBy workers id chunks)
      (sentBy workers id (history ++ next.channel))
      (next.cancelled = true ∨ next.listening = false))
    (pending : next.cancelled = true → next.listening = true →
      pool.policy = .abortRun ∧ next.FaultUnderway) :
    next.Sound pool crew workers chunks history where
  size := by rw [moved, List.length_set, sound.size]
  follows := by
    intro other worker atOther
    rw [moved, List.getElem?_set] at atOther
    by_cases same : id = other
    · subst same
      rw [if_pos rfl] at atOther
      split at atOther
      · cases atOther
        exact follows
      · cases atOther
    · rw [if_neg same] at atOther
      have before := sound.follows other worker atOther
      rw [sentBy_append, ← others other (Ne.symm same), ← sentBy_append] at before
      exact before.mono (Or.imp cancelled fun stopped => listening.trans stopped)
  reassembled := reassembler.trans sound.reassembled
  pending := pending
  calm := by
    intro listens
    rw [failure]
    exact sound.calm (listening ▸ listens)
  ended := by
    intro stopped
    exact (sound.ended (listening ▸ stopped)).of_same_failure failure

/-- A worker that starts, takes a chunk, announces a fault or finishes changes nothing on the way to
the collector. Nobody is told to stop by it, either. -/
theorem of_quiet_move (sound : state.Sound pool crew workers chunks history) {id : Nat}
    {old new : Worker σ} (atId : state.workers[id]? = some old)
    (idle : ∀ current report, old.station ≠ .sending current report)
    (moved : next.workers = state.workers.set id new)
    (reassembler : next.reassembler = state.reassembler) (failure : next.failure = state.failure)
    (listening : next.listening = state.listening) (channel : next.channel = state.channel)
    (cancelled : next.cancelled = state.cancelled)
    (follows : new.Follows crew pool.label id (Chunk.ownedBy workers id chunks)
      (sentBy workers id (history ++ state.channel))
      (state.cancelled = true ∨ state.listening = false)) :
    next.Sound pool crew workers chunks history := by
  refine sound.of_worker_move moved reassembler failure listening (cancelled.trans ·) ?_ ?_ ?_
  · intro other _
    rw [channel]
  · rw [channel, cancelled, listening]
    exact follows
  · intro stopped listens
    rw [cancelled] at stopped
    rw [listening] at listens
    obtain ⟨policy, underway⟩ := sound.pending stopped listens
    exact ⟨policy, underway.of_worker_move atId idle moved channel⟩

variable {id : Nat} {worker : Worker σ}

theorem starts {first : σ} (sound : state.Sound pool crew workers chunks history)
    (atId : state.workers[id]? = some worker) (station : worker.station = .starting)
    (started : crew.start id = .ok first) :
    (state.move id ⟨worker.queue, .ready first⟩).Sound pool crew workers chunks history := by
  refine sound.of_quiet_move atId (by simp [station]) rfl rfl rfl rfl rfl rfl ?_
  have follows := sound.follows id worker atId
  simp only [Worker.Follows, station] at follows ⊢
  obtain ⟨queue, nothing⟩ := follows
  exact ⟨first, started, by rw [queue, nothing, List.nil_append]⟩

theorem crashes {message : String} (sound : state.Sound pool crew workers chunks history)
    (atId : state.workers[id]? = some worker) (station : worker.station = .starting)
    (broken : crew.start id = .error message) :
    (state.move id ⟨worker.queue, .crashed message⟩).Sound pool crew workers chunks history := by
  refine sound.of_quiet_move atId (by simp [station]) rfl rfl rfl rfl rfl rfl ?_
  have follows := sound.follows id worker atId
  simp only [Worker.Follows, station] at follows ⊢
  exact ⟨broken, follows.2⟩

theorem finishes {current : σ} (sound : state.Sound pool crew workers chunks history)
    (atId : state.workers[id]? = some worker) (station : worker.station = .ready current)
    (stopped : worker.queue = [] ∨ state.cancelled = true) :
    (state.move id ⟨worker.queue, .finished⟩).Sound pool crew workers chunks history := by
  refine sound.of_quiet_move atId (by simp [station]) rfl rfl rfl rfl rfl rfl ?_
  have follows := sound.follows id worker atId
  simp only [Worker.Follows, station] at follows ⊢
  refine ⟨_, follows, ?_⟩
  rcases stopped with empty | cancelled
  · exact .inl (by rw [empty, Crew.reports])
  · exact .inr (.inl cancelled)

theorem handles {current after : σ} {chunk : Chunk} {queue : List Chunk} {report : ChunkReport}
    {logged : List Entry} (sound : state.Sound pool crew workers chunks history)
    (atId : state.workers[id]? = some worker) (station : worker.station = .ready current)
    (waiting : worker.queue = chunk :: queue)
    (handled : crew.handle pool.label id current chunk = (report, after, logged)) :
    PoolState.Sound pool crew workers chunks history
      { state.move id ⟨queue, .holding after report⟩ with entries := state.entries ++ logged } := by
  refine sound.of_quiet_move atId (by simp [station]) rfl rfl rfl rfl rfl rfl ?_
  have follows := sound.follows id worker atId
  simp only [Worker.Follows, station, waiting, Crew.reports, handled] at follows ⊢
  exact follows

theorem announces {current : σ} {report : ChunkReport}
    (sound : state.Sound pool crew workers chunks history)
    (atId : state.workers[id]? = some worker) (station : worker.station = .holding current report) :
    PoolState.Sound pool crew workers chunks history
      { state.move id ⟨worker.queue, .sending current report⟩ with
        cancelled := state.cancelled || (report.isFault && pool.policy == .abortRun) } := by
  have follows := sound.follows id worker atId
  refine sound.of_worker_move rfl rfl rfl rfl ?_ (fun _ _ => rfl) ?_ ?_
  · intro cancelled
    simp only [cancelled, Bool.true_or]
  · simp only [Worker.Follows, station] at follows ⊢
    exact follows
  · intro stopped listens
    rw [Bool.or_eq_true, Bool.and_eq_true, beq_iff_eq] at stopped
    rcases stopped with earlier | ⟨isFault, policy⟩
    · obtain ⟨policy, underway⟩ := sound.pending earlier listens
      exact ⟨policy, underway.of_worker_move atId (by simp [station]) rfl rfl⟩
    · refine ⟨policy, .inr ⟨id, ⟨worker.queue, .sending current report⟩, current, report, ?_, rfl,
        isFault⟩⟩
      exact List.getElem?_set_self (List.getElem?_eq_some_iff.mp atId).1

theorem sends {current : σ} {report : ChunkReport}
    (sound : state.Sound pool crew workers chunks history)
    (atId : state.workers[id]? = some worker) (station : worker.station = .sending current report) :
    PoolState.Sound pool crew workers chunks history
      { state.move id ⟨worker.queue, .ready current⟩ with
        channel := state.channel ++ [report] } := by
  have follows := sound.follows id worker atId
  simp only [Worker.Follows, station] at follows
  have owner := follows.owner
  refine sound.of_worker_move rfl rfl rfl rfl (fun cancelled => cancelled) ?_ ?_ ?_
  · intro other apart
    rw [sentBy_append, sentBy_other (owner.trans_ne apart.symm), List.append_nil]
  · simp only [Worker.Follows]
    rw [← List.append_assoc, sentBy_append, sentBy_own owner]
    exact follows.shift
  · intro stopped listens
    obtain ⟨policy, underway⟩ := sound.pending stopped listens
    refine ⟨policy, ?_⟩
    rcases underway with ⟨fault, member, isFault⟩ | ⟨other, holder, held, fault, atOther,
      atSending, isFault⟩
    · exact .inl ⟨fault, List.mem_append_left _ member, isFault⟩
    · by_cases same : id = other
      · subst same
        rw [atId] at atOther
        cases atOther
        rw [station] at atSending
        cases atSending
        exact .inl ⟨report, List.mem_append_right _ List.mem_cons_self, isFault⟩
      · refine .inr ⟨other, holder, held, fault, ?_, atSending, isFault⟩
        exact (List.getElem?_set_ne same).trans atOther

theorem drops {current : σ} {report : ChunkReport}
    (sound : state.Sound pool crew workers chunks history)
    (atId : state.workers[id]? = some worker) (station : worker.station = .sending current report)
    (closed : state.listening = false) :
    (state.move id ⟨worker.queue, .finished⟩).Sound pool crew workers chunks history := by
  have follows := sound.follows id worker atId
  refine sound.of_worker_move rfl rfl rfl rfl (fun cancelled => cancelled) (fun _ _ => rfl) ?_ ?_
  · simp only [Worker.Follows, station] at follows ⊢
    exact ⟨_, follows, .inr (.inr closed)⟩
  · intro _ listens
    have contradiction : false = true := closed.symm.trans listens
    cases contradiction

theorem passes {report : ChunkReport} {channel : List ChunkReport}
    (pending : state.channel = report :: channel) :
    history ++ state.channel = (history ++ [report]) ++ channel := by
  rw [pending, List.append_assoc, List.singleton_append]

theorem takes {report : ChunkReport} {channel : List ChunkReport} {reassembler : Reassembler}
    (sound : state.Sound pool crew workers chunks history)
    (dealt : Chunk.Dealt workers chunks) (listens : state.listening = true)
    (pending : state.channel = report :: channel)
    (accepted : state.reassembler.receive report = (reassembler, none)) :
    PoolState.Sound pool crew workers chunks (history ++ [report])
      { state with
        channel := channel
        entries := state.entries ++ report.entries
        reassembler := reassembler
        listening := !reassembler.isComplete } := by
  have reassembled : reassembler =
      (Reassembler.ofRanges pool.policy (chunks.map Chunk.range)).takeAll (history ++ [report]) := by
    rw [Reassembler.takeAll_concat, ← sound.reassembled, accepted]
  obtain ⟨noFailure, faultless⟩ := sound.calm listens
  have still : pool.policy = .abortRun → ∀ other ∈ history ++ [report], other.isFault = false := by
    intro policy other member
    rcases List.mem_append.mp member with earlier | last
    · exact faultless policy other earlier
    · rw [List.mem_singleton.mp last]
      exact sound.not_fault accepted policy
  refine ⟨sound.size, ?_, reassembled, ?_, fun _ => ⟨noFailure, still⟩, ?_⟩
  · intro id worker atId
    have follows := sound.follows id worker atId
    rw [passes pending] at follows
    refine follows.mono (Or.imp_right fun stopped => ?_)
    have contradiction : false = true := stopped.symm.trans listens
    cases contradiction
  · intro stopped _
    obtain ⟨policy, underway⟩ := sound.pending stopped listens
    refine ⟨policy, underway.imp_left ?_⟩
    rintro ⟨fault, member, isFault⟩
    rw [pending, List.mem_cons] at member
    rcases member with rfl | later
    · have calm := sound.not_fault accepted policy
      rw [isFault] at calm
      cases calm
    · exact ⟨fault, later, isFault⟩
  · intro stopped
    have complete : reassembler.isComplete = true := by simpa using stopped
    rw [reassembled] at complete
    refine .complete noFailure still fun id within => ?_
    exact sound.script_of_complete dealt ⟨channel, (passes pending).symm⟩ complete within

theorem refuses {report : ChunkReport} {channel : List ChunkReport} {reassembler : Reassembler}
    {error : SchedulerError} (sound : state.Sound pool crew workers chunks history)
    (dealt : Chunk.Dealt workers chunks) (listens : state.listening = true)
    (pending : state.channel = report :: channel)
    (refused : state.reassembler.receive report = (reassembler, some error)) :
    PoolState.Sound pool crew workers chunks (history ++ [report])
      { state with
        channel := channel
        entries := state.entries ++ report.entries
        cancelled := true
        listening := false
        failure := some error } := by
  have member : report ∈ history ++ state.channel := by
    rw [pending]
    simp
  obtain ⟨policy, fault, rfl, rfl⟩ := sound.refused dealt member refused
  refine ⟨sound.size, ?_, ?_, ?_, ?_, fun _ => ?_⟩
  · intro id worker atId
    have follows := sound.follows id worker atId
    rw [passes pending] at follows
    exact follows.mono fun _ => .inl rfl
  · have unchanged : (state.reassembler.receive (.fault fault)).1 = state.reassembler :=
      Reassembler.receive_of_refused (congrArg Prod.snd refused)
    rw [Reassembler.takeAll_concat, ← sound.reassembled, unchanged]
  · intro _ impossible
    cases impossible
  · intro impossible
    cases impossible
  · exact .aborted rfl ((sound.calm listens).2 policy) policy rfl

theorem closes (sound : state.Sound pool crew workers chunks history)
    (listens : state.listening = true) (empty : state.channel = [])
    (quiet : state.isQuiet = true) :
    PoolState.Sound pool crew workers chunks history { state with listening := false } := by
  have idle : ∀ (id : Nat) (worker : Worker σ), state.workers[id]? = some worker →
      worker.station.atRest = true :=
    fun id worker atId => List.all_eq_true.mp quiet worker (List.mem_of_getElem? atId)
  have active : state.cancelled = false := by
    rw [Bool.eq_false_iff]
    intro stopped
    rcases (sound.pending stopped listens).2 with ⟨report, member, _⟩ | ⟨id, worker, current, report,
      atId, station, _⟩
    · simp [empty] at member
    · have rest := idle id worker atId
      rw [station] at rest
      cases rest
  refine ⟨sound.size, ?_, sound.reassembled, ?_, ?_, fun _ => ?_⟩
  · intro id worker atId
    exact (sound.follows id worker atId).mono (Or.imp_right fun _ => rfl)
  · intro _ impossible
    cases impossible
  · intro impossible
    cases impossible
  obtain ⟨noFailure, faultless⟩ := sound.calm listens
  refine .complete noFailure faultless fun id within => ?_
  obtain ⟨worker, atId⟩ := sound.exists_worker within
  have follows := sound.follows id worker atId
  have rest := idle id worker atId
  rw [empty, List.append_nil, active, listens] at follows
  cases station : worker.station with
  | finished =>
    simp only [Worker.Follows, station] at follows
    obtain ⟨left, ⟨first, started, all⟩, done⟩ := follows
    have nothing : left = [] := by simpa using done
    rw [Crew.script_of_start started, all, nothing, List.append_nil]
  | crashed message =>
    simp only [Worker.Follows, station] at follows
    rw [Crew.script_of_crash follows.1, follows.2]
  | _ =>
    rw [station] at rest
    cases rest

/-- The invariant holds after every move; the collector's history grows with the reports it takes.
Nothing is assumed of the crew. -/
theorem step (sound : state.Sound pool crew workers chunks history)
    (dealt : Chunk.Dealt workers chunks) (moved : Move pool crew state next) :
    ∃ later, next.Sound pool crew workers chunks later := by
  cases moved with
  | starts atId station started => exact ⟨history, sound.starts atId station started⟩
  | crashes atId station broken => exact ⟨history, sound.crashes atId station broken⟩
  | finishes atId station stopped => exact ⟨history, sound.finishes atId station stopped⟩
  | handles atId station waiting _ handled =>
    exact ⟨history, sound.handles atId station waiting handled⟩
  | announces atId station => exact ⟨history, sound.announces atId station⟩
  | sends atId station _ => exact ⟨history, sound.sends atId station⟩
  | drops atId station closed => exact ⟨history, sound.drops atId station closed⟩
  | takes listens pending accepted => exact ⟨_, sound.takes dealt listens pending accepted⟩
  | refuses listens pending refused => exact ⟨_, sound.refuses dealt listens pending refused⟩
  | closes listens empty quiet => exact ⟨history, sound.closes listens empty quiet⟩

end Sound

theorem sound_start (workers : Nat) (chunks : List Chunk) :
    (start workers pool.policy chunks : PoolState σ).Sound pool crew workers chunks [] where
  size := by simp [start]
  follows := by
    intro id worker atId
    simp only [start, List.getElem?_map, Option.map_eq_some_iff] at atId
    obtain ⟨other, atRange, rfl⟩ := atId
    have same : other = id := by
      obtain ⟨within, atIndex⟩ := List.getElem?_eq_some_iff.mp atRange
      rw [← atIndex, List.getElem_range]
    rw [same]
    exact ⟨rfl, rfl⟩
  reassembled := rfl
  pending := by
    intro impossible
    cases impossible
  calm := by
    intro _
    exact ⟨rfl, by simp⟩
  ended := by
    intro impossible
    cases impossible

end PoolState

end ProfileLexer
