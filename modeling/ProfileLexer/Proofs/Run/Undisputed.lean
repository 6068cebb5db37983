import ProfileLexer.Proofs.Classifier.Undisputed
import ProfileLexer.Proofs.Run.Classified

/-!
Runs over coherent profiles: the automaton finds nothing to correct and nothing to add.
-/

namespace ProfileLexer

/-- Metrics of a run in which the automaton has contradicted and accepted nothing. How many answers
have been compared is not told. -/
structure RunMetrics.Undisputed (metrics : RunMetrics) : Prop where
  disagreements : metrics.tally.disagreements = 0
  samples : metrics.disagreements = []
  replayed : metrics.tally.replayed = 0

namespace Crew

variable {profile : Profile} {chunk : Chunk}

theorem classified_undisputed (preferences : ClassifyPreferences)
    (agree : ∀ lexeme ∈ chunk.lexemes, profile.Agrees lexeme.text.toList) :
    (classified profile preferences chunk).tally.disagreements = 0 ∧
      (classified profile preferences chunk).disagreements = [] ∧
      (classified profile preferences chunk).tally.replayed = 0 := by
  have undisputed := Classifier.classifyAll_undisputed
    (Classifier.for_ofProfile profile preferences)
    (Classifier.undisputed_ofProfile profile preferences) agree
  refine ⟨undisputed.disagreements, ?_, undisputed.replayed⟩
  rw [classified]
  dsimp only
  rw [undisputed.samples]

end Crew

/-- Counts that are zero in all tallies are zero in their sum, if the sum starts from zero. -/
theorem Tally.foldl_add_undisputed {start : Tally} {tallies : List Tally}
    (first : start.disagreements = 0 ∧ start.replayed = 0)
    (zero : ∀ tally ∈ tallies, tally.disagreements = 0 ∧ tally.replayed = 0) :
    (tallies.foldl add start).disagreements = 0 ∧ (tallies.foldl add start).replayed = 0 := by
  induction tallies generalizing start with
  | nil => exact first
  | cons tally tallies ih =>
    obtain ⟨disagreements, replayed⟩ := zero tally List.mem_cons_self
    refine ih ⟨?_, ?_⟩ fun other member => zero other (List.mem_cons_of_mem _ member)
    · rw [add, first.1, disagreements]
    · rw [add, first.2, replayed]

theorem ScheduledRun.Classifies.undisputed {profile : Profile} {asked : ClassifyPreferences}
    {lexemes : List Lexeme} {run : ScheduledRun} (classifies : run.Classifies profile asked lexemes)
    (agree : ∀ lexeme ∈ lexemes, profile.Agrees lexeme.text.toList) (name : String) (scan : Scan)
    (stream : TokenStream) (readings : Readings) :
    (RunMetrics.collect name scan run stream readings).Undisputed := by
  obtain ⟨chunks, workers, rfl, reassembly⟩ := classifies
  have records : ∀ record ∈ run.reassembly.chunks, record.tally.disagreements = 0 ∧
      record.disagreements = [] ∧ record.tally.replayed = 0 := by
    intro record member
    rw [reassembly, Reassembly.ofPieces, List.map_map] at member
    obtain ⟨chunk, inChunks, rfl⟩ := List.mem_map.mp member
    exact Crew.classified_undisputed asked fun lexeme inChunk =>
      agree lexeme (List.mem_flatMap.mpr ⟨chunk, inChunks, inChunk⟩)
  have tallies : ∀ tally ∈ run.reassembly.chunks.map (·.tally),
      tally.disagreements = 0 ∧ tally.replayed = 0 := by
    intro tally member
    obtain ⟨record, inRecords, rfl⟩ := List.mem_map.mp member
    exact ⟨(records record inRecords).1, (records record inRecords).2.2⟩
  obtain ⟨disagreements, replayed⟩ := @Tally.foldl_add_undisputed .zero _ ⟨rfl, rfl⟩ tallies
  refine ⟨disagreements, ?_, replayed⟩
  have nothing : run.reassembly.chunks.flatMap (·.disagreements) = [] :=
    List.flatMap_eq_nil_iff.mpr fun record member => (records record member).2.1
  rw [RunMetrics.collect]
  dsimp only
  rw [nothing, List.take_nil]

namespace Profile

variable {profile : Profile}

theorem Coherent.agrees_of_scan (coherent : profile.Coherent) {preferences : ScanPreferences}
    {source : String} {scan : Scan} (scanned : (profile.scan preferences source).result = .ok scan)
    {lexeme : Lexeme} (member : lexeme ∈ scan.lexemes) : profile.Agrees lexeme.text.toList := by
  rw [profile.scan_of_scannable preferences (profile.scannable_of_scan scanned)] at scanned
  cases scanned
  obtain ⟨piece, inPieces, rfl⟩ := List.mem_map.mp member
  exact coherent.agrees_of_mem_pieces inPieces

theorem Coherent.undisputed_of_run (coherent : profile.Coherent) {config : RunConfig}
    {asked : ClassifyPreferences} {schedule : Schedule} {readings : Readings} {source : String}
    {result : RunResult} (ran : (tokenizeWith profile config (.classifying profile asked) schedule
      readings source).result = .ok result) : result.metrics.Undisputed := by
  have scannable := scannable_of_run ran
  obtain ⟨run, classifies, _, done⟩ :=
    tokenizeWith_classifying profile asked schedule readings (positive_of_run ran) scannable
  rw [done] at ran
  cases ran
  exact classifies.undisputed (fun lexeme member => coherent.agrees_of_scan
    (profile.scan_of_scannable config.scan scannable) member) _ _ _ _

end Profile

end ProfileLexer
