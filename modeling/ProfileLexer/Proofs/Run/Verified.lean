import ProfileLexer.Proofs.Run.Classified
import ProfileLexer.Proofs.Token.Verification

/-!
A run that checks its tokens returns the source in tokens or an error, whatever its workers do.
-/

namespace ProfileLexer

section

variable {σ : Type} {profile : Profile} {crew : Crew σ} {config : RunConfig} {schedule : Schedule}
  {readings : Readings} {source : String}

/-- The stream of a run that succeeds has passed the check, if the run checks it. -/
theorem verify_of_run {result : RunResult} (checks : config.verify = true)
    (ran : (tokenizeWith profile config crew schedule readings source).result = .ok result) :
    result.stream.verify source = .ok () := by
  rw [tokenizeWith, Logged.result_inside, Logged.result_bind_of_ok (Logged.result_log _)] at ran
  obtain ⟨scan, _, ran⟩ := Logged.result_bind_eq_ok.mp ran
  obtain ⟨run, _, ran⟩ := Logged.result_bind_eq_ok.mp ran
  simp only [checks, if_true] at ran
  obtain ⟨_, passed, ran⟩ := Logged.result_bind_eq_ok.mp ran
  rw [Logged.result_bind_of_ok (Logged.result_log _),
    Logged.result_bind_of_ok (Logged.result_log _)] at ran
  cases ran
  exact Logged.result_eq_ok_of_mapError passed

/-- A violation that a run ends with is one of the tokens that have been put together. That the run
checks its tokens follows from the violation. -/
theorem verify_of_run_error {violation : StreamViolation}
    (failed : (tokenizeWith profile config crew schedule readings source).result =
      .error (.stream violation)) :
    ∃ run, (dispatch config.schedule config.host (config.label.getD profile.id) crew schedule source
        (profile.scanned config.scan source).lexemes).result = .ok run ∧
      (TokenStream.ofTokens run.reassembly.tokens).verify source = .error violation := by
  rw [tokenizeWith, Logged.result_inside, Logged.result_bind_of_ok (Logged.result_log _)] at failed
  rcases Logged.result_bind_eq_error.mp failed with inScan | ⟨scan, scanned, failed⟩
  · obtain ⟨_, _, other⟩ := Logged.result_mapError_eq_error.mp inScan
    cases other
  have scanned := Logged.result_eq_ok_of_mapError scanned
  rw [profile.scan_of_scannable config.scan (profile.scannable_of_scan scanned),
    Except.ok.injEq] at scanned
  subst scanned
  rcases Logged.result_bind_eq_error.mp failed with inDispatch | ⟨run, dispatched, failed⟩
  · obtain ⟨_, _, other⟩ := Logged.result_mapError_eq_error.mp inDispatch
    cases other
  refine ⟨run, Logged.result_eq_ok_of_mapError dispatched, ?_⟩
  cases verify : config.verify with
  | false =>
    simp only [verify, Bool.false_eq_true, if_false] at failed
    rw [Logged.result_bind_of_ok (Logged.result_log _),
      Logged.result_bind_of_ok (Logged.result_log _)] at failed
    cases failed
  | true =>
    simp only [verify, if_true] at failed
    rcases Logged.result_bind_eq_error.mp failed with inCheck | ⟨_, _, failed⟩
    · obtain ⟨_, found, same⟩ := Logged.result_mapError_eq_error.mp inCheck
      cases same
      exact found
    · rw [Logged.result_bind_of_ok (Logged.result_log _),
        Logged.result_bind_of_ok (Logged.result_log _)] at failed
      cases failed

end

/-- Whatever workers make of their chunks, under every policy and every schedule, a run that checks
its tokens and succeeds returns its source in tokens, and the violation that it ends with otherwise
is the first thing that is wrong with the tokens it has put together. The check is exact on all
streams, and no sum in it leaves a word and no cut falls inside a character. The workers need not
classify: they may make any tokens of a chunk. -/
theorem stream_of_checked_run (profile : Profile) (source : String) :
    (∀ (σ : Type) (crew : Crew σ) (config : RunConfig), config.verify = true →
      ∀ (schedule : Schedule) (readings : Readings),
        let run := (tokenizeWith profile config crew schedule readings source).result
        (∀ result, run = .ok result → result.stream.Whole source) ∧
        ∀ violation, run = .error (.stream violation) →
          ∃ scheduled, (dispatch config.schedule config.host (config.label.getD profile.id) crew
              schedule source (profile.scanned config.scan source).lexemes).result =
              .ok scheduled ∧
            violation.Holds source.toList scheduled.reassembly.tokens) ∧
    ∀ stream : TokenStream,
      (stream.verify source = .ok () ↔ stream.Whole source) ∧
      (∀ violation, stream.verify source = .error violation ↔
        violation.Holds source.toList stream.tokens) ∧
      (source.utf8ByteSize < signedLimit →
        (∀ token ∈ stream.tokens, token.text.utf8ByteSize < signedLimit) →
        Guarded.verifyFrom source.toList 0 0 stream.tokens = some (stream.verify source)) := by
  refine ⟨fun σ crew config checks schedule readings => ⟨fun result ran => ?_, ?_⟩, ?_⟩
  · exact TokenStream.verify_eq_ok_iff.mp (verify_of_run checks ran)
  · intro violation failed
    obtain ⟨scheduled, dispatched, found⟩ := verify_of_run_error failed
    exact ⟨scheduled, dispatched, TokenStream.verify_eq_error_iff.mp found⟩
  · refine fun stream => ⟨TokenStream.verify_eq_ok_iff, fun _ => TokenStream.verify_eq_error_iff, ?_⟩
    intro size sizes
    rw [← Text.byteLength_toList] at size
    exact @Guarded.verifyFrom_eq [] _ _ 0 size sizes

/-- Workers that make one token of each chunk, and a stream with a gap. No lexeme has a token of its
own, and the check still passes. -/
theorem stream_of_checked_run_joining :
    let profile := Profile.build (.ofId "plain")
    let settings := Settings.ofEnvironment [("TURING_SCHEDULER_MIN_CHUNK", "2")]
    let config := ((RunConfig.ofSettings settings ⟨4, 2⟩).withWorkers 2).alwaysParallel
    let joined (chunk : Chunk) : Token :=
      ⟨.unknown, String.join (chunk.lexemes.map (·.text)), chunk.range.start, true, none⟩
    let crew : Crew Unit := ⟨fun _ => .ok (), fun _ chunk => (.done ⟨[joined chunk], .zero, []⟩, (), [])⟩
    let gappy := TokenStream.ofTokens [⟨.identifier, "a", 0, true, none⟩,
      ⟨.identifier, "b", 2, true, none⟩]
    (∃ result, (tokenizeWith profile config crew .inOrder default "a b\n").result = .ok result ∧
      result.stream.Whole "a b\n" ∧ result.stream.tokens.map (·.text) = ["a ", "b\n"]) ∧
    gappy.verify "a b\n" = .error (.gap 1 2 1) ∧
    (StreamViolation.gap 1 2 1).Holds "a b\n".toList gappy.tokens := by
  intro profile settings config joined crew gappy
  have scannable : profile.Scannable "a b\n" :=
    ⟨by decide, Nat.le_trans (profile.length_pieces_le 0 _) (by decide)⟩
  have delivers : crew.Delivers (fun _ => True) fun chunk => ⟨[joined chunk], .zero, []⟩ :=
    ⟨fun _ => ⟨(), rfl, trivial⟩, fun _ _ _ => rfl, fun _ _ _ => trivial⟩
  let lexemes : List Lexeme := [⟨"a", 0⟩, ⟨" ", 1⟩, ⟨"b", 2⟩, ⟨"\n", 3⟩]
  have scanned : (profile.scanned config.scan "a b\n").lexemes = lexemes := by decide +kernel
  have planned : config.schedule.plan config.host 4 = .ok ⟨4, 2, 2, 2⟩ := by decide +kernel
  obtain ⟨reassembly, pooled, tokens⟩ : ∃ reassembly,
      (Pool.run ⟨2, config.schedule.policy, config.label.getD profile.id⟩ crew .inOrder "a b\n"
        ((ChunkPlan.mk 4 2 2 2).split lexemes)).result = .ok reassembly ∧
      reassembly.tokens = [⟨.unknown, "a ", 0, true, none⟩, ⟨.unknown, "b\n", 2, true, none⟩] :=
    ⟨_, Pool.run_of_delivers _ _ _ delivers (ChunkPlan.map_id_split _ _), by decide +kernel⟩
  have dispatched := dispatch_of_run planned pooled
  rw [← scanned] at dispatched
  have cover : Token.Cover reassembly.tokens "a b\n" := by
    rw [tokens]
    exact ⟨⟨rfl, by decide, rfl, by decide, trivial⟩, by decide⟩
  have ran := tokenizeWith_of_dispatch default scannable dispatched cover
  obtain ⟨checked, exactness⟩ := stream_of_checked_run profile "a b\n"
  have found : gappy.verify "a b\n" = .error (.gap 1 2 1) := by decide
  refine ⟨⟨_, ran, (checked Unit crew config rfl .inOrder default).1 _ ran, ?_⟩, found,
    ((exactness gappy).2.1 _).mp found⟩
  simp only [TokenStream.ofTokens, tokens]
  rfl

end ProfileLexer
