import Mathlib.Data.List.Nodup
import Mathlib.Data.List.Perm.Basic
import Mathlib.Order.Bounds.Basic
import ProfileLexer.Proofs.Chunk.Finish

/-!
Reports of which no two are on the same chunk. A reassembler takes them all in every order, and the
order leaves no trace: its state, and what it puts together at the end, are those of the reports in
the order of their chunks.
-/

namespace ProfileLexer

namespace ChunkReport

def fault? : ChunkReport → Option WorkerFault
  | result _ => none
  | fault failed => some failed

/-- The slot of a chunk on which there has been one report. Whether the policy lets the report pass
is not looked at. -/
def slot (range : ChunkRange) : ChunkReport → Slot
  | result done => ⟨range, some done, none⟩
  | fault failed => ⟨range, none, some failed⟩

/-- The tokens that come to stand at the place of a chunk: those of a result, or one invalid token
over the place. Of a place that is not in the source the text is taken to be empty. -/
def tokensAt (source : String) (range : ChunkRange) : ChunkReport → List Token
  | result done => done.tokens
  | fault _ =>
    let text := (Text.slice? source.toList range.start range.stop).getD []
    [.invalid .unknown ⟨String.ofList text, range.start⟩ .degradedChunk]

/-- What is kept about the chunk at a place. After a fault it is made up of the place and the number
of the worker. -/
def recordAt (source : String) (range : ChunkRange) : ChunkReport → ChunkRecord
  | result done => done.record
  | fault failed =>
    { ChunkRecord.ofTokens range.id failed.worker range.lexemes
        ((fault failed).tokensAt source range) with degraded := true }

theorem isFault_eq_isSome (report : ChunkReport) : report.isFault = report.fault?.isSome := by
  cases report <;> rfl

theorem piece_slot {range : ChunkRange} {source : String} (within : range.Within source.toList)
    (report : ChunkReport) :
    ((report.slot range).piece source.toList).result =
      .ok ⟨report.tokensAt source range, report.recordAt source range, report.fault?⟩ := by
  cases report with
  | result done => exact Slot.piece_of_result source.toList rfl
  | fault failed =>
    obtain ⟨text, place⟩ := within.slice
    have piece : (((fault failed).slot range).piece source.toList).result = _ :=
      Slot.piece_of_fault rfl rfl place
    rw [piece]
    simp [Slot.degradedPiece, Slot.degradedToken, slot, tokensAt, recordAt, fault?, place]

end ChunkReport

/-- Reports in the order of their chunks put together, each at the place of its chunk. Degraded
chunks and faults come in that order, too. -/
def Reassembly.ofReports (source : String) (ranges : List ChunkRange)
    (reports : List ChunkReport) : Reassembly where
  tokens := (ranges.zip reports).flatMap fun (range, report) => report.tokensAt source range
  chunks := (ranges.zip reports).map fun (range, report) => report.recordAt source range
  degraded := (reports.filter (·.isFault)).map (·.chunk)
  faults := reports.filterMap (·.fault?)

namespace Reassembler

variable {policy : FailurePolicy} {ranges : List ChunkRange} {history : List ChunkReport}

/-- A slot holds the only report on its chunk, wherever in the history it is. -/
theorem slotAfter_of_only {report : ChunkReport} (member : report ∈ history)
    (only : ∀ other ∈ history, other.chunk = report.chunk → other = report)
    (calm : policy = .abortRun → report.isFault = false) (range : ChunkRange) :
    slotAfter policy history report.chunk range = report.slot range := by
  cases report with
  | result done =>
    have noFault : lastFault? policy history done.chunk = none := by
      rw [Option.eq_none_iff_forall_ne_some]
      intro failed found
      obtain ⟨inHistory, same, _⟩ := lastFault?_mem found
      cases only _ inHistory same
    obtain ⟨other, found⟩ := Option.isSome_iff_exists.mp (lastResult?_isSome member)
    obtain ⟨inHistory, same⟩ := lastResult?_mem found
    cases only _ inHistory same
    simp only [slotAfter, ChunkReport.chunk, ChunkReport.slot, found, noFault]
  | fault failed =>
    have degrades : policy = .degradeChunk := by
      cases policy with
      | abortRun => cases calm rfl
      | degradeChunk => rfl
    have noResult : lastResult? history failed.chunk = none := by
      rw [Option.eq_none_iff_forall_ne_some]
      intro done found
      obtain ⟨inHistory, same⟩ := lastResult?_mem found
      cases only _ inHistory same
    obtain ⟨other, found⟩ := Option.isSome_iff_exists.mp (lastFault?_isSome member)
    obtain ⟨inHistory, same, _⟩ := lastFault?_mem found
    cases only _ inHistory same
    simp only [slotAfter, ChunkReport.chunk, ChunkReport.slot, degrades, found, noResult]

theorem slotAfter_of_missing {chunk : Nat} (missing : ∀ report ∈ history, report.chunk ≠ chunk)
    (range : ChunkRange) : slotAfter policy history chunk range = ⟨range, none, none⟩ := by
  have noResult : lastResult? history chunk = none := by
    rw [Option.eq_none_iff_forall_ne_some]
    intro done found
    obtain ⟨inHistory, same⟩ := lastResult?_mem found
    exact missing _ inHistory same
  have noFault : lastFault? policy history chunk = none := by
    rw [Option.eq_none_iff_forall_ne_some]
    intro failed found
    obtain ⟨inHistory, same, _⟩ := lastFault?_mem found
    exact missing _ inHistory same
  rw [slotAfter, noResult, noFault]

/-- Reports on some chunks of `count`, no two on the same one, that a policy lets pass. There need
not be one on every chunk. -/
structure Arrivals (policy : FailurePolicy) (count : Nat) (reports : List ChunkReport) : Prop where
  distinct : (reports.map (·.chunk)).Nodup
  inRange : ∀ report ∈ reports, report.chunk < count
  calm : policy = .abortRun → ∀ report ∈ reports, report.isFault = false

namespace Arrivals

variable {count : Nat} {reports order : List ChunkReport} {report : ChunkReport}

theorem perm (arrivals : Arrivals policy count reports) (same : order.Perm reports) :
    Arrivals policy count order where
  distinct := (same.map _).nodup_iff.mpr arrivals.distinct
  inRange := fun report member => arrivals.inRange report (same.mem_iff.mp member)
  calm := fun aborts report member => arrivals.calm aborts report (same.mem_iff.mp member)

theorem only (arrivals : Arrivals policy count reports) (member : report ∈ reports) :
    ∀ other ∈ reports, other.chunk = report.chunk → other = report :=
  fun _ inReports same => List.inj_on_of_nodup_map arrivals.distinct inReports member same

theorem slotAfter_eq (arrivals : Arrivals policy count reports) (member : report ∈ reports)
    (range : ChunkRange) :
    slotAfter policy reports report.chunk range = report.slot range :=
  slotAfter_of_only member (arrivals.only member)
    (fun aborts => arrivals.calm aborts report member) range

/-- The slot of a chunk does not depend on the order of the reports. With two reports on one chunk
it would: the last of each sort is kept. -/
theorem slotAfter_perm (arrivals : Arrivals policy count reports) (same : order.Perm reports) :
    slotAfter policy order = slotAfter policy reports := by
  funext chunk range
  by_cases reported : ∃ report ∈ reports, report.chunk = chunk
  · obtain ⟨report, member, rfl⟩ := reported
    rw [arrivals.slotAfter_eq member,
      (arrivals.perm same).slotAfter_eq (same.mem_iff.mpr member)]
  · have missing : ∀ report ∈ reports, report.chunk ≠ chunk :=
      fun report member onChunk => reported ⟨report, member, onChunk⟩
    rw [slotAfter_of_missing missing,
      slotAfter_of_missing fun report member => missing report (same.mem_iff.mp member)]

/-- The last report is on a chunk whose slot was empty before, and the others are arrivals by
themselves. -/
theorem of_concat (arrivals : Arrivals policy count (reports ++ [report])) :
    Arrivals policy count reports ∧ (∀ other ∈ reports, other.chunk ≠ report.chunk) ∧
      report.chunk < count ∧ (policy = .abortRun → report.isFault = false) := by
  have atEnd : report ∈ reports ++ [report] := List.mem_append_right _ List.mem_cons_self
  have distinct := arrivals.distinct
  rw [List.map_append, List.nodup_append] at distinct
  refine ⟨⟨distinct.1, fun other member => arrivals.inRange other (List.mem_append_left _ member),
    fun aborts other member => arrivals.calm aborts other (List.mem_append_left _ member)⟩, ?_,
    arrivals.inRange report atEnd, fun aborts => arrivals.calm aborts report atEnd⟩
  intro other member
  exact distinct.2.2 _ (List.mem_map_of_mem member) _ (by simp)

/-- Taking a report on an empty slot counts one, and the report is not refused. -/
theorem accept_takeAll (arrivals : Arrivals policy ranges.length (reports ++ [report])) :
    ((ofRanges policy ranges).takeAll reports).accept report =
        .ok ((ofRanges policy ranges).takeAll (reports ++ [report])) ∧
      ((ofRanges policy ranges).takeAll (reports ++ [report])).received =
        ((ofRanges policy ranges).takeAll reports).received + 1 := by
  obtain ⟨_, fresh, within, calm⟩ := arrivals.of_concat
  have policyEq : ((ofRanges policy ranges).takeAll reports).policy = policy := by
    rw [takeAll_policy]; rfl
  have atSlot : ((ofRanges policy ranges).takeAll reports).slots[report.chunk]? =
      some ⟨ranges[report.chunk], none, none⟩ := by
    rw [slots_takeAll, List.getElem?_mapIdx, List.getElem?_eq_getElem within, Option.map_some,
      slotAfter_of_missing fresh]
  rw [takeAll_concat, accept]
  cases report with
  | result done =>
    rw [receive_result atSlot]
    exact ⟨rfl, rfl⟩
  | fault failed =>
    cases policy with
    | abortRun => cases calm rfl
    | degradeChunk =>
      rw [receive_fault policyEq atSlot]
      exact ⟨rfl, rfl⟩

/-- All reports are taken, and each of them counts one. In particular none of them is refused. -/
theorem foldlM_accept (arrivals : Arrivals policy ranges.length reports) :
    reports.foldlM accept (ofRanges policy ranges) =
        .ok ((ofRanges policy ranges).takeAll reports) ∧
      ((ofRanges policy ranges).takeAll reports).received = reports.length := by
  induction reports using List.reverseRecOn with
  | nil => exact ⟨rfl, rfl⟩
  | append_singleton reports report ih =>
    obtain ⟨taken, count⟩ := ih arrivals.of_concat.1
    obtain ⟨next, counted⟩ := arrivals.accept_takeAll
    refine ⟨?_, by rw [counted, count, List.length_append, List.length_singleton]⟩
    rw [List.foldlM_append, taken]
    show List.foldlM accept _ [report] = _
    rw [List.foldlM_cons, next]
    rfl

/-- The state that a reassembler comes to does not depend on the order of the reports. The state is
compared as a whole, the count included. -/
theorem takeAll_perm (arrivals : Arrivals policy ranges.length reports)
    (same : order.Perm reports) :
    (ofRanges policy ranges).takeAll order = (ofRanges policy ranges).takeAll reports := by
  have slots : ((ofRanges policy ranges).takeAll order).slots =
      ((ofRanges policy ranges).takeAll reports).slots := by
    rw [slots_takeAll, slots_takeAll, arrivals.slotAfter_perm same]
  have received : ((ofRanges policy ranges).takeAll order).received =
      ((ofRanges policy ranges).takeAll reports).received := by
    rw [(arrivals.perm same).foldlM_accept.2, arrivals.foldlM_accept.2, same.length_eq]
  have policies : ((ofRanges policy ranges).takeAll order).policy =
      ((ofRanges policy ranges).takeAll reports).policy := by
    rw [takeAll_policy, takeAll_policy]
  cases atOrder : (ofRanges policy ranges).takeAll order
  cases atReports : (ofRanges policy ranges).takeAll reports
  simp_all

/-- With a report on every chunk, the reports can be put into the order of the chunks, and none is
left over. -/
theorem exists_ordered (arrivals : Arrivals policy count reports)
    (all : ∀ chunk < count, ∃ report ∈ reports, report.chunk = chunk) :
    ∃ ordered : List ChunkReport, ordered.Perm reports ∧
      ordered.map (·.chunk) = List.range count := by
  have exists_report : ∀ chunk, ∃ report : ChunkReport,
      chunk < count → report ∈ reports ∧ report.chunk = chunk := by
    intro chunk
    by_cases within : chunk < count
    · obtain ⟨report, found⟩ := all chunk within
      exact ⟨report, fun _ => found⟩
    · exact ⟨default, fun inside => absurd inside within⟩
  choose reportOn found using exists_report
  have numbers : ((List.range count).map reportOn).map (·.chunk) = List.range count := by
    rw [List.map_map]
    conv_rhs => rw [← List.map_id (List.range count)]
    exact List.map_congr_left fun chunk member => (found chunk (List.mem_range.mp member)).2
  refine ⟨(List.range count).map reportOn, ?_, numbers⟩
  rw [List.perm_ext_iff_of_nodup (List.Nodup.of_map _ (numbers ▸ List.nodup_range))
    (List.Nodup.of_map _ arrivals.distinct)]
  intro report
  constructor
  · intro member
    obtain ⟨chunk, inRange, rfl⟩ := List.mem_map.mp member
    exact (found chunk (List.mem_range.mp inRange)).1
  · intro member
    have within := arrivals.inRange report member
    obtain ⟨other, onChunk⟩ := found report.chunk within
    rw [← arrivals.only member _ other onChunk]
    exact List.mem_map_of_mem (List.mem_range.mpr within)

end Arrivals

end Reassembler

/-- Where places are numbered like the reports on them, the pieces of the reports are put together
to what is made of the reports. The places need not lie end to end. -/
theorem Reassembly.ofPieces_zip {ranges : List ChunkRange} {reports : List ChunkReport}
    (source : String) (same : ranges.map (·.id) = reports.map (·.chunk)) :
    ofPieces ((ranges.zip reports).map fun (range, report) =>
        ⟨report.tokensAt source range, report.recordAt source range, report.fault?⟩) =
      ofReports source ranges reports := by
  have length : reports.length ≤ ranges.length := by
    simpa using (congrArg List.length same).ge
  have behind : (ranges.zip reports).map Prod.snd = reports := List.map_snd_zip length
  have number : ∀ pair ∈ ranges.zip reports, pair.2.isFault = true →
      (pair.2.recordAt source pair.1).chunk = pair.2.chunk := by
    rintro ⟨range, report⟩ member isFault
    cases report with
    | result done => cases isFault
    | fault failed =>
      obtain ⟨i, inZip, atIndex⟩ := List.getElem_of_mem member
      rw [List.getElem_zip, Prod.mk.injEq] at atIndex
      have ids := congrArg (·[i]?) same
      rw [List.length_zip, Nat.lt_min] at inZip
      simp only [List.getElem?_map, List.getElem?_eq_getElem inZip.1,
        List.getElem?_eq_getElem inZip.2, atIndex.1, atIndex.2] at ids
      exact Option.some.inj ids
  have faults : (ranges.zip reports).filterMap (fun pair => pair.2.fault?) =
      reports.filterMap (·.fault?) := by
    conv_rhs => rw [← behind, List.filterMap_map]
    rfl
  have degraded : ((ranges.zip reports).filter fun pair => pair.2.isFault).map
      (fun pair => (pair.2.recordAt source pair.1).chunk) =
        (reports.filter (·.isFault)).map (·.chunk) := by
    conv_rhs => rw [← behind, List.filter_map, List.map_map]
    refine List.map_congr_left fun pair member => ?_
    obtain ⟨inZip, isFault⟩ := List.mem_filter.mp member
    exact number pair inZip isFault
  simp only [ofPieces, ofReports, List.flatMap_map, List.map_map, List.filter_map,
    List.filterMap_map, Function.comp_def, ← ChunkReport.isFault_eq_isSome, faults, degraded]

namespace Reassembler

variable {policy : FailurePolicy} {ranges : List ChunkRange} {reports : List ChunkReport}
variable {source : String}

namespace Arrivals

/-- Reports in the order of the chunks are put together as they are, with invalid tokens in the
places of faults. -/
theorem finish_of_ordered (arrivals : Arrivals policy ranges.length reports)
    (numbered : ranges.map (·.id) = List.range ranges.length)
    (within : ∀ range ∈ ranges, range.Within source.toList)
    (inOrder : reports.map (·.chunk) = List.range ranges.length) :
    (((ofRanges policy ranges).takeAll reports).finish source).result =
      .ok (.ofReports source ranges reports) := by
  have length : reports.length = ranges.length := by
    simpa using congrArg List.length inOrder
  have slots : ((ofRanges policy ranges).takeAll reports).slots =
      (ranges.zip reports).map fun (range, report) => report.slot range := by
    rw [slots_takeAll]
    apply List.ext_getElem
    · simp [length]
    intro chunk inSlots _
    rw [List.length_mapIdx] at inSlots
    have inReports : chunk < reports.length := by omega
    have number : reports[chunk].chunk = chunk := by
      have atIndex := congrArg (·[chunk]?) inOrder
      simpa [inSlots, inReports] using atIndex
    have slot := arrivals.slotAfter_eq (List.getElem_mem inReports) ranges[chunk]
    rw [number] at slot
    simp [slot]
  rw [← Reassembly.ofPieces_zip source (numbered.trans inOrder.symm)]
  refine finish_of_pieces slots ?_
  rintro ⟨range, report⟩ member
  exact report.piece_slot (within _ (List.of_mem_zip member).1)

/-- What can not be put together lacks a report on a chunk, and the first such chunk is named. No
place is outside the source, so no fault is in the way. -/
theorem isLeast_of_finish_error (arrivals : Arrivals policy ranges.length reports)
    (numbered : ranges.map (·.id) = List.range ranges.length)
    (within : ∀ range ∈ ranges, range.Within source.toList) {error : SchedulerError}
    (failed : (((ofRanges policy ranges).takeAll reports).finish source).result = .error error) :
    ∃ missing, error = .chunkMissing missing ∧
      IsLeast {chunk | chunk < ranges.length ∧ ∀ report ∈ reports, report.chunk ≠ chunk}
        missing := by
  rw [finish, Logged.result_bind_eq_error] at failed
  rcases failed with atPieces | ⟨_, _, impossible⟩
  swap
  · cases impossible
  obtain ⟨before, slot, after, split, atSlot, earlier⟩ := Logged.result_mapM_eq_error atPieces
  rw [slots_takeAll] at split
  have atChunk : ∀ chunk (inside : chunk < ranges.length),
      (before ++ slot :: after)[chunk]? = some (slotAfter policy reports chunk ranges[chunk]) := by
    intro chunk inside
    rw [← split, List.getElem?_mapIdx, List.getElem?_eq_getElem inside, Option.map_some]
  have inside : before.length < ranges.length := by
    have length := congrArg List.length split
    simp only [List.length_mapIdx, List.length_append, List.length_cons] at length
    omega
  have own : slot = slotAfter policy reports before.length ranges[before.length] := by
    simpa using atChunk before.length inside
  have id : slot.range.id = before.length := by
    have atIndex := congrArg (·[before.length]?) numbered
    rw [own]
    simpa [slotAfter, inside] using atIndex
  obtain ⟨rfl, missing, faultless⟩ := Slot.piece_eq_error atSlot
  have noFault := faultless (by rw [own]; exact within _ (List.getElem_mem inside))
  rw [id]
  refine ⟨before.length, rfl, ⟨inside, ?_⟩, ?_⟩
  · rintro report member onChunk
    have filled := arrivals.slotAfter_eq member ranges[before.length]
    rw [onChunk, ← own] at filled
    rw [filled] at missing noFault
    cases report with
    | result done => cases missing
    | fault failed => cases noFault
  · rintro chunk ⟨_, unreported⟩
    by_contra less
    have early : chunk < before.length := by omega
    have empty := atChunk chunk (by omega)
    rw [slotAfter_of_missing unreported, List.getElem?_append_left early] at empty
    obtain ⟨piece, made⟩ := earlier _ (List.mem_of_getElem? empty)
    rw [Slot.piece_of_empty _ rfl rfl] at made
    cases made

/-- Only if there is a report on every chunk can something be put together. The count of reports
does not matter for this. -/
theorem reported_of_finish {reassembly : Reassembly}
    (ended : (((ofRanges policy ranges).takeAll reports).finish source).result = .ok reassembly) :
    ∀ chunk < ranges.length, ∃ report ∈ reports, report.chunk = chunk := by
  intro chunk inside
  by_contra unreported
  have member : slotAfter policy reports chunk ranges[chunk] ∈
      ((ofRanges policy ranges).takeAll reports).slots := by
    rw [slots_takeAll]
    exact List.mem_mapIdx.mpr ⟨chunk, inside, rfl⟩
  rw [slotAfter_of_missing fun report inReports onChunk =>
    unreported ⟨report, inReports, onChunk⟩] at member
  obtain ⟨error, failed⟩ := finish_of_empty source member rfl rfl
  rw [ended] at failed
  cases failed

/-- There are as many reports as chunks exactly when there is one on every chunk, as no two are on
the same one. -/
theorem isComplete_iff (arrivals : Arrivals policy ranges.length reports) :
    ((ofRanges policy ranges).takeAll reports).isComplete ↔
      ∀ chunk < ranges.length, ∃ report ∈ reports, report.chunk = chunk := by
  rw [isComplete, expected, beq_iff_eq, arrivals.foldlM_accept.2, length_slots_takeAll]
  constructor
  · intro length chunk inside
    have subset : reports.map (·.chunk) ⊆ List.range ranges.length := by
      intro number member
      obtain ⟨report, inReports, rfl⟩ := List.mem_map.mp member
      exact List.mem_range.mpr (arrivals.inRange report inReports)
    have all : (reports.map (·.chunk)).Perm (List.range ranges.length) :=
      (List.subperm_of_subset arrivals.distinct subset).perm_of_length_le (by simp [length])
    obtain ⟨report, member, onChunk⟩ :=
      List.mem_map.mp (all.mem_iff.mpr (List.mem_range.mpr inside))
    exact ⟨report, member, onChunk⟩
  · intro all
    obtain ⟨ordered, same, inOrder⟩ := arrivals.exists_ordered all
    rw [← same.length_eq]
    simpa using congrArg List.length inOrder

end Arrivals

/-- Reports on different chunks, all of them let through by the policy, are taken in every order,
and the order leaves no trace in the reassembler: each of them counts one, it is complete when there
is a report on every chunk, and then it puts the reports together in the order of their chunks.
Otherwise the first chunk without a report is named. Which workers the reports come from does not
matter. -/
theorem finish_of_arrivals (policy : FailurePolicy) (source : String) {ranges : List ChunkRange}
    {reports : List ChunkReport} (numbered : ranges.map (·.id) = List.range ranges.length)
    (within : ∀ range ∈ ranges, range.Within source.toList)
    (arrivals : Arrivals policy ranges.length reports) :
    ∃ reassembler : Reassembler,
      (∀ order : List ChunkReport, order.Perm reports →
        order.foldlM accept (ofRanges policy ranges) = .ok reassembler) ∧
      reassembler.received = reports.length ∧
      (reassembler.isComplete ↔ ∀ chunk < ranges.length, ∃ report ∈ reports, report.chunk = chunk) ∧
      (reassembler.isComplete ↔ ∃ reassembly, (reassembler.finish source).result = .ok reassembly) ∧
      (∀ reassembly, (reassembler.finish source).result = .ok reassembly ↔
        ∃ ordered : List ChunkReport, ordered.Perm reports ∧
          ordered.map (·.chunk) = List.range ranges.length ∧
          reassembly = .ofReports source ranges ordered) ∧
      ∀ error, (reassembler.finish source).result = .error error ↔
        ∃ missing, error = .chunkMissing missing ∧
          IsLeast {chunk | chunk < ranges.length ∧ ∀ report ∈ reports, report.chunk ≠ chunk}
            missing := by
  have puts : ∀ {ordered : List ChunkReport}, ordered.Perm reports →
      ordered.map (·.chunk) = List.range ranges.length →
      (((ofRanges policy ranges).takeAll reports).finish source).result =
        .ok (.ofReports source ranges ordered) := by
    intro ordered same inOrder
    rw [← arrivals.takeAll_perm same]
    exact (arrivals.perm same).finish_of_ordered numbered within inOrder
  refine ⟨(ofRanges policy ranges).takeAll reports, fun order same => ?_,
    arrivals.foldlM_accept.2, arrivals.isComplete_iff, ?_, fun reassembly => ⟨fun ended => ?_, ?_⟩,
    fun error => ⟨arrivals.isLeast_of_finish_error numbered within, ?_⟩⟩
  · rw [(arrivals.perm same).foldlM_accept.1, arrivals.takeAll_perm same]
  · rw [arrivals.isComplete_iff]
    constructor
    · intro all
      obtain ⟨ordered, same, inOrder⟩ := arrivals.exists_ordered all
      exact ⟨_, puts same inOrder⟩
    · rintro ⟨reassembly, ended⟩
      exact Arrivals.reported_of_finish ended
  · obtain ⟨ordered, same, inOrder⟩ := arrivals.exists_ordered (Arrivals.reported_of_finish ended)
    rw [puts same inOrder] at ended
    exact ⟨ordered, same, inOrder, (Except.ok.inj ended).symm⟩
  · rintro ⟨ordered, same, inOrder, rfl⟩
    exact puts same inOrder
  · rintro ⟨missing, rfl, least⟩
    cases ended : (((ofRanges policy ranges).takeAll reports).finish source).result with
    | ok reassembly =>
      obtain ⟨report, member, onChunk⟩ := Arrivals.reported_of_finish ended missing least.1.1
      exact absurd onChunk (least.1.2 report member)
    | error error =>
      obtain ⟨named, rfl, first⟩ := arrivals.isLeast_of_finish_error numbered within ended
      rw [first.unique least]

/-- A result for the second of three chunks and a fault for the first one, in either order, leave
the third chunk missing; with a result for it the three are put together. -/
theorem finish_of_arrivals_in_two_orders :
    let ranges : List ChunkRange := [⟨0, 0, 2, 1⟩, ⟨1, 2, 3, 1⟩, ⟨2, 3, 5, 1⟩]
    let failed : ChunkReport := .fault ⟨0, 7, "injected", false⟩
    let blank : ChunkReport :=
      .result (.ofOutput 1 1 1 ⟨[⟨.whitespace, " ", 2, true, none⟩], .zero, []⟩)
    let word : ChunkReport :=
      .result (.ofOutput 2 0 1 ⟨[⟨.identifier, "cd", 3, true, none⟩], .zero, []⟩)
    (∃ reassembler : Reassembler,
      [failed, blank].foldlM accept (ofRanges .degradeChunk ranges) = .ok reassembler ∧
      [blank, failed].foldlM accept (ofRanges .degradeChunk ranges) = .ok reassembler ∧
      (reassembler.finish "ab cd").result = .error (.chunkMissing 2)) ∧
    ∃ reassembler : Reassembler,
      [word, failed, blank].foldlM accept (ofRanges .degradeChunk ranges) = .ok reassembler ∧
      (reassembler.finish "ab cd").result =
        .ok (.ofReports "ab cd" ranges [failed, blank, word]) := by
  intro ranges failed blank word
  have within : ∀ range ∈ ranges, range.Within "ab cd".toList := by
    have boundary : ∀ offset, (Text.charsWithin? 0 offset "ab cd".toList).isSome = true →
        Text.IsBoundary "ab cd".toList offset := fun _ => Text.charsWithin?_isSome_iff.mp
    intro range member
    simp only [ranges, List.mem_cons, List.not_mem_nil, or_false] at member
    rcases member with rfl | rfl | rfl
    all_goals exact ⟨boundary _ (by decide), boundary _ (by decide), by decide⟩
  have two : Arrivals .degradeChunk 3 [failed, blank] :=
    ⟨by decide, by decide, fun aborts => nomatch aborts⟩
  have three : Arrivals .degradeChunk 3 [word, failed, blank] :=
    ⟨by decide, by decide, fun aborts => nomatch aborts⟩
  obtain ⟨partly, inOrder, _, _, _, _, errors⟩ :=
    finish_of_arrivals .degradeChunk "ab cd" rfl within two
  obtain ⟨whole, taken, _, _, _, puts, _⟩ :=
    finish_of_arrivals .degradeChunk "ab cd" rfl within three
  refine ⟨⟨partly, inOrder _ (List.Perm.refl _), inOrder _ (List.Perm.swap ..), ?_⟩,
    whole, taken _ (List.Perm.refl _), ?_⟩
  · refine (errors _).mpr ⟨2, rfl, ⟨by decide, by decide⟩, ?_⟩
    rintro chunk ⟨_, unreported⟩
    by_contra less
    have first := unreported failed (by simp)
    have second := unreported blank (by simp)
    simp only [failed, blank, ChunkReport.chunk, WorkerResult.ofOutput] at first second
    omega
  · refine (puts _).mpr ⟨_, ?_, rfl, rfl⟩
    exact ((List.Perm.swap word blank []).cons failed).trans (List.Perm.swap word failed [blank])

end Reassembler

end ProfileLexer
