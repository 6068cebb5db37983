import ProfileLexer.Proofs.Chunk.Partition
import ProfileLexer.Proofs.Log.Delivery
import ProfileLexer.Proofs.Pool.Ledger
import ProfileLexer.Proofs.Run.Degraded

/-!
The log of a run. Whoever has the turns, a run leaves the same events behind, and every event tells
of the run, the worker and the chunk that it belongs to.
-/

namespace ProfileLexer

variable {σ : Type}

namespace Classifier

variable (classifier : Classifier)

theorem bare_crossCheck (lexeme : Lexeme) (direct : TokenKind) :
    ∀ entry ∈ (classifier.crossCheck lexeme direct).2, entry.context = none := by
  unfold crossCheck
  dsimp only
  split <;> simp [Entry.plain]

theorem bare_judge (lexeme : Lexeme) :
    ∀ entry ∈ (classifier.judge lexeme).2.2, entry.context = none := by
  unfold judge
  split
  · dsimp only
    split
    · exact bare_crossCheck _ lexeme _
    · simp
  · simp

theorem bare_classify (lexeme : Lexeme) :
    ∀ entry ∈ (classifier.classify lexeme).2.2, entry.context = none := by
  unfold classify
  dsimp only
  split
  · exact classifier.bare_judge lexeme
  · intro entry member
    rcases List.mem_append.mp member with earlier | report
    · exact classifier.bare_judge lexeme entry earlier
    · split at report
      · rw [List.mem_singleton.mp report]
        rfl
      · cases report

theorem bare_classifyOnto (tokens : Array Token) {entries : Array Entry}
    (bare : ∀ entry ∈ entries.toList, entry.context = none) (lexemes : List Lexeme) :
    ∀ entry ∈ (classifier.classifyOnto tokens entries lexemes).2.2.toList,
      entry.context = none := by
  induction lexemes generalizing classifier tokens entries with
  | nil => exact bare
  | cons lexeme lexemes ih =>
    unfold classifyOnto
    refine ih _ _ fun entry member => ?_
    rw [Array.toList_append, List.mem_append] at member
    rcases member with earlier | more
    · exact bare entry earlier
    · exact classifier.bare_classify lexeme entry more

/-- A classifier logs outside any context. The context of its chunk is put around what it logs by
the pool, so it can name no chunk but the right one. -/
theorem bare_classifyAll (lexemes : List Lexeme) :
    ∀ entry ∈ (classifier.classifyAll lexemes).2.2, entry.context = none := by
  have nothing : ∀ entry ∈ (#[] : Array Entry).toList, entry.context = none :=
    fun _ member => nomatch member
  exact classifier.bare_classifyOnto #[] nothing lexemes

end Classifier

namespace Crew

/-- Workers that classify answer every chunk, in whatever state they are. -/
theorem answersBut_classifying (profile : Profile) (asked : ClassifyPreferences) :
    (classifying profile asked).AnswersBut (fun _ => True) ∅ where
  starts _ := ⟨_, rfl, trivial⟩
  stays _ _ _ := trivial
  answers _ _ _ := ⟨fun _ => Set.notMem_empty _, fun _ => ⟨_, rfl⟩⟩
  bare classifier chunk _ := classifier.bare_classifyAll chunk.lexemes

/-- Workers that answer every chunk, but for those that they refuse. What they refuse leaves their
state as it was. -/
theorem AnswersBut.refusing {crew : Crew σ} {usual : σ → Prop} (answers : crew.AnswersBut usual ∅)
    (faulty : Set Nat) [DecidablePred (· ∈ faulty)] (message : String) :
    (crew.refusing faulty message).AnswersBut usual faulty where
  starts := answers.starts
  stays := by
    intro state chunk atState
    by_cases failed : chunk.id ∈ faulty
    · rw [process_refusing_of_failed failed]
      exact atState
    · rw [process_refusing_of_spared failed]
      exact answers.stays state chunk atState
  answers := by
    intro state chunk atState
    by_cases failed : chunk.id ∈ faulty
    · rw [process_refusing_of_failed failed]
      simp [failed]
    · rw [process_refusing_of_spared failed, answers.answers state chunk atState]
      exact ⟨fun _ => failed, fun _ => Set.notMem_empty _⟩
  bare := by
    intro state chunk atState
    by_cases failed : chunk.id ∈ faulty
    · rw [process_refusing_of_failed failed]
      exact fun _ member => nomatch member
    · rw [process_refusing_of_spared failed]
      exact answers.bare state chunk atState

end Crew

theorem Profile.every_scan (profile : Profile) (preferences : ScanPreferences) (source : String) :
    (profile.scan preferences source).Every Entry.Ordinary := by
  unfold scan
  dsimp only
  split
  · exact (Logged.ordinary_log (by decide) _).bind fun _ => Logged.every_fail _
  · refine (Logged.ordinary_log (by decide) _).bind fun _ => ?_
    split
    · exact (Logged.ordinary_log (by decide) _).bind fun _ => Logged.every_fail _
    · split
      · exact (Logged.ordinary_logTimed (by decide) _).bind fun _ => Logged.every_pure _
      · exact Logged.every_pure _

namespace SchedulePreferences

variable {preferences : SchedulePreferences} {host : Host} {lexemes : List Lexeme} {plan : ChunkPlan}

theorem exists_workers_of_plan {total : Nat} (planned : preferences.plan host total = .ok plan) :
    ∃ workers, plan = .compute total workers preferences.minChunk preferences.threshold := by
  unfold SchedulePreferences.plan at planned
  cases counted : preferences.workerCount host with
  | error error =>
    rw [counted] at planned
    cases planned
  | ok workers =>
    rw [counted] at planned
    exact ⟨workers, (Except.ok.inj planned).symm⟩

/-- The chunks of a plan that has some are dealt to the workers of the plan, at least one chunk to
each of them. -/
theorem dealt_of_plan (planned : preferences.plan host lexemes.length = .ok plan)
    (nonempty : plan.split lexemes ≠ []) : Chunk.Dealt plan.workers (plan.split lexemes) := by
  obtain ⟨workers, made⟩ := exists_workers_of_plan planned
  have some_left : 0 < lexemes.length := by
    refine Nat.pos_of_ne_zero fun none_left => nonempty ?_
    have none_cut : plan.count = 0 := by
      rw [made]
      exact ChunkPlan.count_compute_eq_zero.mpr none_left
    exact List.eq_nil_of_length_eq_zero ((plan.length_split lexemes).trans none_cut)
  obtain ⟨some_worker, few_workers⟩ := ChunkPlan.workers_compute workers preferences.minChunk
    preferences.threshold some_left
  rw [← made] at some_worker few_workers
  rw [← plan.length_split lexemes] at few_workers
  exact ⟨plan.map_id_split lexemes, some_worker, few_workers⟩

end SchedulePreferences

section

variable {crew : Crew σ} {usual : σ → Prop} {faulty : Set Nat} (label source : String)
variable {preferences : SchedulePreferences} {host : Host} {lexemes : List Lexeme} {plan : ChunkPlan}

/-- Whoever has the turns, a dispatch yields the same, and leaves the entries of its chunks and of
its reports behind. Their order is left open, and under the aborting policy no chunk may fail: the
turns decide which chunks are begun before a run is aborted. -/
theorem dispatch_leaves (answers : crew.AnswersBut usual faulty)
    (spared : preferences.policy = .abortRun → faulty = ∅)
    (planned : preferences.plan host lexemes.length = .ok plan) :
    Logged.Leaves
        ((crew.logBook plan.workers (plan.split lexemes)).flatMap (·.attributed label) ++
          (crew.reportBook label plan.workers (plan.split lexemes)).flatMap ChunkReport.entries)
        (fun schedule => dispatch preferences host label crew schedule source lexemes) ∧
      ∀ schedule other, (dispatch preferences host label crew schedule source lexemes).result =
        (dispatch preferences host label crew other source lexemes).result := by
  let pool : Pool := ⟨plan.workers, preferences.policy, label⟩
  have calm : pool.policy = .abortRun → ∀ chunk ∈ plan.split lexemes, chunk.id ∉ faulty := by
    intro aborts chunk _
    rw [spared aborts]
    exact Set.notMem_empty _
  have size (nonempty : plan.split lexemes ≠ []) :
      pool.crewSize (plan.split lexemes) = plan.workers := by
    have dealt := SchedulePreferences.dealt_of_plan planned nonempty
    have some_worker := dealt.someWorker
    have few_workers := dealt.enough
    show min (max plan.workers 1) (plan.split lexemes).length = plan.workers
    omega
  obtain ⟨leaves, agree⟩ :=
    Pool.run_leaves size source (plan.map_id_split lexemes) (answers.undisturbed calm plan.workers)
  have settled := (Logged.result_ofExcept (preferences.plan host lexemes.length)).trans planned
  constructor
  · unfold dispatch
    refine .after (Logged.every_ofExcept _) settled ?_
    refine .after (Logged.ordinary_log (by decide) _) (Logged.result_log _) ?_
    refine leaves.bind agree (fun _ _ => ?_) fun _ _ _ => rfl
    exact (Logged.ordinary_logTimed (by decide) _).bind fun _ => Logged.every_pure _
  · intro schedule other
    unfold dispatch
    rw [Logged.result_bind_of_ok settled, Logged.result_bind_of_ok (Logged.result_log _),
      Logged.result_bind_of_ok settled, Logged.result_bind_of_ok (Logged.result_log _),
      Logged.result_bind, Logged.result_bind, agree schedule other]

/-- Without a plan nothing is dispatched, and nothing is logged. -/
theorem dispatch_of_no_plan (crew : Crew σ) {error : SchedulerError}
    (failed : preferences.plan host lexemes.length = .error error) :
    Logged.Leaves []
        (fun schedule => dispatch preferences host label crew schedule source lexemes) ∧
      ∀ schedule other, (dispatch preferences host label crew schedule source lexemes).result =
        (dispatch preferences host label crew other source lexemes).result := by
  have settled := (Logged.result_ofExcept (preferences.plan host lexemes.length)).trans failed
  refine ⟨⟨[], (fun _ member => nomatch member), fun schedule => ?_⟩, fun schedule other => ?_⟩
  · unfold dispatch
    rw [Logged.entries_bind_of_error settled]
    exact .refl _
  · unfold dispatch
    rw [Logged.result_bind_of_error settled, Logged.result_bind_of_error settled]

variable {source}

/-- Whoever has the turns, a run leaves entries of its own and those of its dispatch behind. Those
of its own do not report a failed worker, and the readings of the clock are in none of them. -/
theorem tokenizeWith_leaves {profile : Profile} {config : RunConfig} {scan : Scan}
    {extra : List Entry} (scanned : (profile.scan config.scan source).result = .ok scan)
    (leaves : Logged.Leaves extra fun schedule => dispatch config.schedule config.host
      (config.label.getD profile.id) crew schedule source scan.lexemes)
    (agree : ∀ schedule other,
      (dispatch config.schedule config.host (config.label.getD profile.id) crew schedule source
        scan.lexemes).result =
      (dispatch config.schedule config.host (config.label.getD profile.id) crew other source
        scan.lexemes).result) :
    ∃ own : List Entry, (∀ entry ∈ own, entry.Ordinary) ∧ ∀ turns : Schedule × Readings,
      (tokenizeWith profile config crew turns.1 turns.2 source).entries.Perm
        ((own ++ extra).map (Entry.inside (.ofLabel (config.label.getD profile.id)))) := by
  unfold tokenizeWith
  dsimp only
  refine Logged.Leaves.inside ?_ _
  refine .after (Logged.ordinary_log (by decide) _) (Logged.result_log _) ?_
  refine .after ((profile.every_scan config.scan source).mapError _)
    (Logged.result_mapError_of_ok _ scanned) ?_
  refine ((leaves.comp Prod.fst).mapError _).bind ?_ ?_ ?_
  · intro turns others
    unfold Logged.mapError
    rw [agree turns.1 others.1]
  · intro turns run
    split
    · refine ((Logged.every_ofExcept _).mapError _).bind fun _ => ?_
      refine (Logged.ordinary_log (by decide) _).bind fun _ => ?_
      exact (Logged.ordinary_log (by decide) _).bind fun _ => Logged.every_pure _
    · refine (Logged.ordinary_log (by decide) _).bind fun _ => ?_
      exact (Logged.ordinary_log (by decide) _).bind fun _ => Logged.every_pure _
  · -- the completion of a run does not tell of the readings of the clock
    intro turns others run
    cases config.verify with
    | true =>
      simp only [if_true]
      exact Logged.entries_bind_congr _ fun _ => rfl
    | false => rfl

end

/-- The entries of a run, told apart by where they are logged. Nothing is said of the order in which
they are written. -/
structure RunLog where
  /-- The entries of the calling thread that do not report a failed worker. -/
  own : List Entry
  /-- The failed workers that the calling thread reports. -/
  faults : List WorkerFault
  /-- What workers log on their chunks. -/
  chunks : List ChunkLog

namespace RunLog

/-- All entries of a run with a name: those of the calling thread in the context of the run, and
those of the workers in the context of their chunks. -/
def entries (label : String) (log : RunLog) : List Entry :=
  (log.own ++ log.faults.flatMap fun fault => (ChunkReport.fault fault).entries).map
      (Entry.inside (.ofLabel label)) ++
    log.chunks.flatMap (·.attributed label)

/-- The events that a journal records of the failed workers of a run. What workers log on their
chunks is not among them, even if it has the code of a failure. -/
def failures (journal : Journal) (label : String) (log : RunLog) : List Event :=
  journal.events ((log.faults.flatMap fun fault => (ChunkReport.fault fault).entries).map
    (Entry.inside (.ofLabel label)))

/-- The log of a run in which workers fail on the chunks of `faulty`: there is one log of every
chunk, by the worker that has it, and one fault on every chunk of `faulty`. A chunk on which a
worker fails has a log as well, of what it has logged until then. The message of a fault is left
open. -/
structure Of (log : RunLog) (crew : Crew σ) (workers : Nat) (chunks : List Chunk) (faulty : Set Nat)
    [DecidablePred (· ∈ faulty)] : Prop where
  book : log.chunks = crew.logBook workers chunks
  once : (log.chunks.map (·.chunk)).Perm chunks
  owners : ∀ chunkLog ∈ log.chunks, chunkLog.worker = chunkLog.chunk.id % workers
  faults : (log.faults.map (·.chunk)).Perm ((chunks.map Chunk.id).filter (· ∈ faulty))
  culprits : ∀ fault ∈ log.faults, fault.worker = fault.chunk % workers

/-- Every event that a journal records of a log names what it is about: events on chunks the run,
the worker and the chunk, faults the run and the worker and chunk that failed, and all others the
run, with no other worker and chunk than the event tells of by itself. -/
structure Attributed (log : RunLog) (journal : Journal) (label : String) : Prop where
  chunks : ∀ chunkLog ∈ log.chunks, ∀ entry ∈ chunkLog.entries, ∀ event,
    journal.event? (entry.inside (chunkLog.context label)) = some event →
      event.details.lookup "run" = some label ∧
      event.details.lookup "worker" = some (toString chunkLog.worker) ∧
      event.details.lookup "chunk" = some (toString chunkLog.chunk.id)
  faults : ∀ fault ∈ log.faults, ∀ entry ∈ (ChunkReport.fault fault).entries, ∀ event,
    journal.event? (entry.inside (.ofLabel label)) = some event →
      event.code = .workerFailure ∧
      event.details.lookup "run" = some label ∧
      event.details.lookup "worker" = some (toString fault.worker) ∧
      event.details.lookup "chunk" = some (toString fault.chunk)
  own : ∀ entry ∈ log.own, ∀ event, journal.event? (entry.inside (.ofLabel label)) = some event →
    event.code ≠ .workerFailure ∧
    event.details.lookup "run" = some label ∧
    event.details.lookup "worker" = entry.event.details.lookup "worker" ∧
    event.details.lookup "chunk" = entry.event.details.lookup "chunk"

/-- The log of a run with entries of its own, by what its workers log and report on their chunks
when each worker goes through its chunks in their order. -/
def ofBook (crew : Crew σ) (label : String) (workers : Nat) (chunks : List Chunk)
    (own : List Entry) : RunLog :=
  ⟨own, (crew.reportBook label workers chunks).filterMap ChunkReport.fault?,
    crew.logBook workers chunks⟩

theorem of_ofBook {crew : Crew σ} {usual : σ → Prop} {faulty : Set Nat}
    [DecidablePred (· ∈ faulty)] (answers : crew.AnswersBut usual faulty) {workers : Nat}
    {chunks : List Chunk} (dealt : chunks ≠ [] → Chunk.Dealt workers chunks) (label : String)
    (own : List Entry) : (ofBook crew label workers chunks own).Of crew workers chunks faulty where
  book := rfl
  once := by
    unfold ofBook
    by_cases empty : chunks = []
    · rw [empty, Crew.logBook_nil]
      exact .nil
    · exact answers.perm_logBook (dealt empty)
  owners _ member := (answers.of_mem_logBook member).1
  faults := by
    unfold ofBook
    by_cases empty : chunks = []
    · rw [empty, Crew.reportBook_nil]
      exact .nil
    · exact answers.perm_faults (dealt empty)
  culprits _ member := Crew.worker_of_mem_faults member

/-- What a journal records of a failed worker tells of the run, the worker and the chunk. The
context of the run names no worker and no chunk, so those of the event stay. -/
theorem subject_of_fault {journal : Journal} (attaches : journal.preferences.runContext = true)
    {label : String} {fault : WorkerFault} {entry : Entry}
    (inFault : entry ∈ (ChunkReport.fault fault).entries) {event : Event}
    (recorded : journal.event? (entry.inside (.ofLabel label)) = some event) :
    event.code = .workerFailure ∧
      event.subject = (some label, some (toString fault.worker), some (toString fault.chunk)) := by
  obtain rfl := List.mem_singleton.mp inFault
  have names := Journal.names_of_event? attaches rfl recorded
  refine ⟨names.code, ?_⟩
  unfold Event.subject
  rw [names.run, names.worker, names.chunk]
  simp [RunContext.ofLabel, Entry.plain, Event.withDetails, Event.withDetail,
    Details.lookup_insert_of_ne]

theorem attributed_of_bare {log : RunLog} {journal : Journal}
    (attaches : journal.preferences.runContext = true)
    (ordinary : ∀ entry ∈ log.own, entry.Ordinary)
    (bare : ∀ chunkLog ∈ log.chunks, ∀ entry ∈ chunkLog.entries, entry.context = none)
    (label : String) : log.Attributed journal label where
  chunks := by
    intro chunkLog inLog entry inChunk event recorded
    have names := Journal.names_of_event? attaches (bare chunkLog inLog entry inChunk) recorded
    exact ⟨names.run, names.worker, names.chunk⟩
  faults := by
    intro fault _ entry inFault event recorded
    obtain ⟨code, subject⟩ := subject_of_fault attaches inFault recorded
    obtain ⟨run, worker, chunk⟩ := Prod.mk.inj subject |>.imp_right Prod.mk.inj
    exact ⟨code, run, worker, chunk⟩
  own := by
    intro entry inLog event recorded
    obtain ⟨free, faultless⟩ := ordinary entry inLog
    have names := Journal.names_of_event? attaches free recorded
    refine ⟨?_, names.run, names.worker, names.chunk⟩
    rw [names.code]
    exact faultless

/-- A journal records the entry of a failed worker, whatever its limit is: there is no level above
that of the entry. -/
theorem exists_event?_fault (journal : Journal) (label : String) {fault : WorkerFault}
    {entry : Entry} (inFault : entry ∈ (ChunkReport.fault fault).entries) :
    ∃ event, journal.event? (entry.inside (.ofLabel label)) = some event := by
  obtain rfl := List.mem_singleton.mp inFault
  exact journal.exists_event?_of_error _ rfl rfl

/-- There is one recorded event for each failed worker of a log, in their order, and it tells of the
run, the worker and the chunk. Two faults on one chunk would have two events. -/
theorem subject_failures {journal : Journal} (attaches : journal.preferences.runContext = true)
    (label : String) (log : RunLog) :
    (log.failures journal label).map Event.subject = log.faults.map fun fault =>
      (some label, some (toString fault.worker), some (toString fault.chunk)) := by
  unfold failures
  induction log.faults with
  | nil => rfl
  | cons fault faults ih =>
    obtain ⟨entry, only⟩ : ∃ entry, (ChunkReport.fault fault).entries = [entry] := ⟨_, rfl⟩
    have inFault : entry ∈ (ChunkReport.fault fault).entries := by
      rw [only]
      exact List.mem_singleton_self entry
    obtain ⟨event, recorded⟩ := exists_event?_fault journal label inFault
    have subject := (subject_of_fault attaches inFault recorded).2
    unfold Journal.events at ih ⊢
    rw [List.flatMap_cons, only, List.singleton_append, List.map_cons, List.filterMap_cons, recorded,
      List.map_cons, List.map_cons, subject, ih]

theorem code_of_mem_failures {journal : Journal} (attaches : journal.preferences.runContext = true)
    {label : String} (log : RunLog) {event : Event} (member : event ∈ log.failures journal label) :
    event.code = .workerFailure := by
  obtain ⟨entry, inside, recorded⟩ := List.mem_filterMap.mp member
  obtain ⟨bare, inFaults, rfl⟩ := List.mem_map.mp inside
  obtain ⟨fault, _, inFault⟩ := List.mem_flatMap.mp inFaults
  exact (subject_of_fault attaches inFault recorded).1

/-- Whatever else a journal records of a log, the failures are in it, in their order. -/
theorem failures_sublist (journal : Journal) (label : String) (log : RunLog) :
    (log.failures journal label).Sublist (journal.events (log.entries label)) := by
  unfold failures entries Journal.events
  rw [List.map_append, List.filterMap_append, List.filterMap_append]
  exact ((List.sublist_append_right _ _).trans (List.sublist_append_left _ _))

/-- The failures of a log tell of all chunks on which workers fail and of no others, each with the
worker that has it. -/
theorem Of.subject_failures {log : RunLog} {crew : Crew σ} {workers : Nat} {chunks : List Chunk}
    {faulty : Set Nat} [DecidablePred (· ∈ faulty)] (ofRun : log.Of crew workers chunks faulty)
    {journal : Journal} (attaches : journal.preferences.runContext = true) (label : String) :
    ((log.failures journal label).map Event.subject).Perm
      (((chunks.map Chunk.id).filter (· ∈ faulty)).map fun chunk =>
        (some label, some (toString (chunk % workers)), some (toString chunk))) := by
  have owned : (log.faults.map fun fault =>
      (some label, some (toString fault.worker), some (toString fault.chunk))) =
        (log.faults.map (·.chunk)).map fun chunk =>
          (some label, some (toString (chunk % workers)), some (toString chunk)) := by
    rw [List.map_map]
    refine List.map_congr_left fun fault member => ?_
    rw [ofRun.culprits fault member]
    rfl
  rw [RunLog.subject_failures attaches, owned]
  exact ofRun.faults.map _

/-- The contexts of chunks stand inside the one of the run, and adding the latter does not change
what they name. -/
theorem perm_entries_ofBook (crew : Crew σ) (label : String) (workers : Nat) (chunks : List Chunk)
    (own : List Entry) :
    ((own ++ ((crew.logBook workers chunks).flatMap (·.attributed label) ++
        (crew.reportBook label workers chunks).flatMap ChunkReport.entries)).map
      (Entry.inside (.ofLabel label))).Perm
        ((ofBook crew label workers chunks own).entries label) := by
  have inner : ((crew.logBook workers chunks).flatMap (·.attributed label)).map
      (Entry.inside (.ofLabel label)) = (crew.logBook workers chunks).flatMap
        (·.attributed label) := by
    rw [List.map_flatMap]
    refine List.flatMap_congr fun chunkLog _ => ?_
    unfold ChunkLog.attributed
    rw [List.map_map]
    exact List.map_congr_left fun entry _ => Entry.inside_inside _ _ entry
  unfold entries ofBook
  dsimp only
  rw [← Crew.flatMap_entries_eq, List.map_append, List.map_append, List.map_append, inner,
    List.append_assoc]
  exact List.perm_append_comm.append_left _

end RunLog

section

variable {crew : Crew σ} {usual : σ → Prop} {faulty : Set Nat} [DecidablePred (· ∈ faulty)]
variable {profile : Profile} {config : RunConfig} {journal : Journal} {source : String} {scan : Scan}

/-- Whoever has the turns, a run leaves one log behind, up to the order of its entries. The log is
there before a schedule and the readings of the clock are chosen, and the level of the journal does
not matter. Nothing is assumed of the workers but that they start, that they fail on the chunks of
`faulty` and on no others, and that they write outside any context of their own. -/
theorem exists_log_of_run (answers : crew.AnswersBut usual faulty)
    (spared : config.schedule.policy = .abortRun → faulty = ∅)
    (scanned : (profile.scan config.scan source).result = .ok scan)
    (attaches : journal.preferences.runContext = true) :
    ∃ log : RunLog, log.Attributed journal (config.label.getD profile.id) ∧
      (∀ plan, config.schedule.plan config.host scan.lexemes.length = .ok plan →
        log.Of crew plan.workers (plan.split scan.lexemes) faulty) ∧
      (∀ error, config.schedule.plan config.host scan.lexemes.length = .error error →
        log.faults = [] ∧ log.chunks = []) ∧
      ∀ schedule readings, (tokenizeWith profile config crew schedule readings source).entries.Perm
        (log.entries (config.label.getD profile.id)) := by
  cases planned : config.schedule.plan config.host scan.lexemes.length with
  | error error =>
    obtain ⟨leaves, agree⟩ := dispatch_of_no_plan _ source crew planned
    obtain ⟨own, ordinary, left⟩ := tokenizeWith_leaves scanned leaves agree
    refine ⟨⟨own, [], []⟩, RunLog.attributed_of_bare attaches ordinary (by simp) _, ?_, ?_, ?_⟩
    · intro plan impossible
      cases impossible
    · intro _ _
      exact ⟨rfl, rfl⟩
    · intro schedule readings
      have entries := left (schedule, readings)
      simpa [RunLog.entries] using entries
  | ok plan =>
    obtain ⟨leaves, agree⟩ :=
      dispatch_leaves (config.label.getD profile.id) source answers spared planned
    obtain ⟨own, ordinary, left⟩ := tokenizeWith_leaves scanned leaves agree
    refine ⟨.ofBook crew (config.label.getD profile.id) plan.workers (plan.split scan.lexemes) own,
      RunLog.attributed_of_bare attaches ordinary
        (fun _ member => (answers.of_mem_logBook member).2) _, ?_, ?_, ?_⟩
    · rintro _ ⟨⟩
      exact RunLog.of_ofBook answers (SchedulePreferences.dealt_of_plan planned) _ own
    · intro _ impossible
      cases impossible
    · intro schedule readings
      exact (left (schedule, readings)).trans (RunLog.perm_entries_ofBook crew _ _ _ own)

/-- Of a run whose workers all start, and fail on some chunks but not if that would abort the run, a
journal that is written to takes the same events in every order of turns, up to the order of the
events; with room for them its buffer ends up with the same events, too. Events on a chunk name the
run, the chunk and its worker; events of the calling thread name the run, and no other chunk and
worker than they tell of by themselves. For every chunk on which its worker fails, and for no other,
an event of the calling thread tells of the failure. Nothing is assumed of the limit of the journal,
nor of what workers log apart from the contexts that they leave to the pool. -/
theorem events_of_run (answers : crew.AnswersBut usual faulty)
    (spared : config.schedule.policy = .abortRun → faulty = ∅)
    (scanned : (profile.scan config.scan source).result = .ok scan)
    (attaches : journal.preferences.runContext = true) :
    let label := config.label.getD profile.id
    let planned := config.schedule.plan config.host scan.lexemes.length
    let entries := fun schedule readings =>
      (tokenizeWith profile config crew schedule readings source).entries
    let written := fun schedule readings => journal.writeAll (entries schedule readings)
    (∀ schedule readings,
      written schedule readings = journal.addAll (journal.events (entries schedule readings))) ∧
    (∀ schedule otherSchedule readings otherReadings,
      (journal.events (entries schedule readings)).Perm
        (journal.events (entries otherSchedule otherReadings)) ∧
      (journal.buffer.events.length + (journal.events (entries schedule readings)).length ≤
          journal.buffer.capacity →
        (written schedule readings).buffer.events.Perm
          (written otherSchedule otherReadings).buffer.events)) ∧
    ∃ log : RunLog, log.Attributed journal label ∧
      (∀ plan, planned = .ok plan → log.Of crew plan.workers (plan.split scan.lexemes) faulty ∧
        ((log.failures journal label).map Event.subject).Perm
          ((((plan.split scan.lexemes).map Chunk.id).filter (· ∈ faulty)).map fun chunk =>
            (some label, some (toString (chunk % plan.workers)), some (toString chunk)))) ∧
      (∀ error, planned = .error error → log.faults = [] ∧ log.chunks = []) ∧
      ∀ schedule readings, (entries schedule readings).Perm (log.entries label) ∧
        (log.failures journal label).Subperm (journal.events (entries schedule readings)) := by
  intro label planned entries written
  obtain ⟨log, attributed, ofPlan, ofNone, same⟩ :=
    exists_log_of_run answers spared scanned attaches
  have agree (schedule otherSchedule readings otherReadings) :
      (entries schedule readings).Perm (entries otherSchedule otherReadings) :=
    (same schedule readings).trans (same otherSchedule otherReadings).symm
  refine ⟨fun schedule readings => journal.writeAll_eq _, ?_, log, attributed, ?_, ofNone, ?_⟩
  · intro schedule otherSchedule readings otherReadings
    have perm := agree schedule otherSchedule readings otherReadings
    exact ⟨journal.events_perm perm, Journal.events_writeAll_perm perm⟩
  · intro plan made
    have ofRun := ofPlan plan made
    exact ⟨ofRun, ofRun.subject_failures attaches label⟩
  · intro schedule readings
    have events := journal.events_perm (same schedule readings)
    exact ⟨same schedule readings,
      (log.failures_sublist journal label).subperm.trans events.symm.subperm⟩

/-- The log of a run whose workers refuse the second of three chunks. Whoever has the turns, the
journal takes an event that tells of the second worker and the second chunk. Workers and chunks are
counted from zero. -/
theorem events_of_run_without_second_chunk :
    let profile := Profile.build (.ofId "plain")
    let settings := Settings.ofEnvironment [("TURING_SCHEDULER_MIN_CHUNK", "1")]
    let config := (((RunConfig.ofSettings settings ⟨4, 2⟩).withWorkers 4).withPolicy
      .degradeChunk).alwaysParallel
    let crew := (Crew.classifying profile config.classify).refusing {1} "refused"
    let journal := Journal.empty ⟨false, false, .debug, true, true⟩
    let scan := profile.scanned config.scan "x y"
    let plan : ChunkPlan := ⟨3, 1, 3, 3⟩
    let entries := fun schedule readings =>
      (tokenizeWith profile config crew schedule readings "x y").entries
    config.schedule.plan config.host scan.lexemes.length = .ok plan ∧
    ∃ log, RunLog.Of log crew plan.workers (plan.split scan.lexemes) {1} ∧
      log.Attributed journal "plain" ∧
      ∀ schedule readings, (entries schedule readings).Perm (log.entries "plain") ∧
        journal.writeAll (entries schedule readings) =
          journal.addAll (journal.events (entries schedule readings)) ∧
        ∃ event ∈ journal.events (entries schedule readings),
          event.code = .workerFailure ∧ event.subject = (some "plain", some "1", some "1") := by
  intro profile settings config crew journal scan plan entries
  have scannable : profile.Scannable "x y" :=
    ⟨by decide, Nat.le_trans (profile.length_pieces_le 0 _) (by decide)⟩
  have planned : config.schedule.plan config.host scan.lexemes.length = .ok plan := by
    decide +kernel
  have answers := (Crew.answersBut_classifying profile config.classify).refusing {1} "refused"
  have degrades : config.schedule.policy = .abortRun → ({1} : Set Nat) = ∅ :=
    fun impossible => nomatch impossible
  have attaches : journal.preferences.runContext = true := rfl
  obtain ⟨written, _, log, attributed, ofPlan, _, same⟩ := events_of_run answers degrades
    (profile.scan_of_scannable config.scan scannable) attaches
  obtain ⟨ofRun, subjects⟩ := ofPlan plan planned
  refine ⟨planned, log, ofRun, attributed, fun schedule readings => ?_⟩
  obtain ⟨perm, failures⟩ := same schedule readings
  refine ⟨perm, written schedule readings, ?_⟩
  have second : (some "plain", some "1", some "1") ∈
      (log.failures journal "plain").map Event.subject := by
    refine subjects.mem_iff.mpr (List.mem_map.mpr ⟨1, ?_, by decide⟩)
    rw [plan.map_id_split scan.lexemes]
    decide
  obtain ⟨event, member, subject⟩ := List.mem_map.mp second
  exact ⟨event, failures.subset member, log.code_of_mem_failures attaches member, subject⟩

end

end ProfileLexer
