import ProfileLexer.Profile.Builtin
import ProfileLexer.Proofs.Classifier.Tables
import ProfileLexer.Proofs.Run.Undisputed

/-!
The built-in profiles are accepted and coherent: on the lexemes of their languages, shapes and
automaton agree.
-/

namespace ProfileLexer.Builtin

theorem imperative_checked : (Profile.build imperative).Checked := by
  constructor <;> decide +kernel

theorem symbolic_checked : (Profile.build symbolic).Checked := by
  constructor <;> decide +kernel

theorem query_checked : (Profile.build query).Checked := by
  constructor <;> decide +kernel

theorem accepted {definition : Definition} (member : definition ∈ all) :
    Profile.ofDefinition definition = .ok (Profile.build definition) := by
  rw [all] at member
  simp only [List.mem_cons, List.not_mem_nil, or_false] at member
  rcases member with rfl | rfl | rfl <;> rfl

theorem coherent {definition : Definition} (member : definition ∈ all) :
    (Profile.build definition).Coherent := by
  refine Profile.Checked.coherent ?_ (accepted member)
  rw [all] at member
  simp only [List.mem_cons, List.not_mem_nil, or_false] at member
  rcases member with rfl | rfl | rfl
  · exact imperative_checked
  · exact symbolic_checked
  · exact query_checked

/-- On the built-in languages, however the automaton has been used, it accepts a lexeme exactly when
the lexeme has a shape that nothing is wrong with, and it finds the same kind. So no run has
disagreements, and no lexeme owes its kind to the automaton. The source may be any, rubbish
included, and the run need not check its answers. -/
theorem paths_agree {definition : Definition} (member : definition ∈ all) :
    ∃ profile, Profile.ofDefinition definition = .ok profile ∧
      (∀ preferences source scan, (profile.scan preferences source).result = .ok scan →
        ∀ lexeme ∈ scan.lexemes, ∀ machine : Machine, machine.profile = profile →
          (∀ kind, (machine.classify lexeme.text.toList).1 = some kind ↔
            profile.judge? lexeme.text.toList = some (.valid kind)) ∧
          ((∀ judgement, profile.judge? lexeme.text.toList = some judgement →
              judgement.issue ≠ none) →
            (machine.classify lexeme.text.toList).1 = none)) ∧
      ∀ config schedule readings source result,
        (tokenizeWith profile config (.classifying profile config.classify) schedule readings
          source).result = .ok result → result.metrics.Undisputed := by
  refine ⟨Profile.build definition, accepted member, ?_, ?_⟩
  · intro preferences source scan scanned lexeme inScan machine own
    have agrees := (coherent member).agrees_of_scan scanned inScan
    exact ⟨agrees.accepted own, agrees.rejected own⟩
  · intro config schedule readings source result ran
    exact (coherent member).undisputed_of_run ran

/-- A run that checks itself, over signed numbers, characters, nested comments and rubbish. -/
theorem paths_agree_symbolic :
    let profile := Profile.build symbolic
    let config := ((RunConfig.ofSettings (Settings.ofEnvironment []) ⟨4, 2⟩).withWorkers 3
      |>.withCrossCheck true).alwaysParallel
    let source := "(-1/2 #\\x '(->a) #| #| |# λ 1e #lang"
    ∃ result, (tokenizeWith profile config (.classifying profile config.classify) .inOrder default
      source).result = .ok result ∧ result.metrics.Undisputed := by
  intro profile config source
  have member : symbolic ∈ all := List.mem_cons_of_mem _ List.mem_cons_self
  obtain ⟨built, made, _, runs⟩ := paths_agree member
  rw [accepted member, Except.ok.injEq] at made
  rw [← made] at runs
  have scannable : profile.Scannable source :=
    ⟨by decide, Nat.le_trans (profile.length_pieces_le 0 _) (by decide)⟩
  have positive : config.schedule.workers ≠ some 0 := by decide
  obtain ⟨_, _, _, ran⟩ := tokenizeWith_classifying profile config.classify .inOrder default
    positive scannable
  exact ⟨_, ran, runs config .inOrder default source _ ran⟩

end ProfileLexer.Builtin
