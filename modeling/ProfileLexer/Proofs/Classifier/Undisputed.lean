import ProfileLexer.Proofs.Classifier.Agreement

/-!
Classifiers whose automaton has neither contradicted a direct answer nor accepted what had none. On
lexemes that shapes and automaton agree on they stay so.
-/

namespace ProfileLexer

namespace Profile

variable {profile : Profile} {text : List Char}

theorem Agrees.accepted (agrees : profile.Agrees text) {machine : Machine}
    (own : machine.profile = profile) (kind : TokenKind) :
    (machine.classify text).1 = some kind ↔ profile.judge? text = some (.valid kind) := by
  have same : machine.profile = (Machine.ofProfile profile).profile := own
  rw [Machine.classify_congr same]
  exact agrees kind

/-- Where shapes and automaton agree, the automaton rejects what has no shape and what has a shape
that is not complete. The automaton may have been used before. -/
theorem Agrees.rejected (agrees : profile.Agrees text) {machine : Machine}
    (own : machine.profile = profile)
    (faulty : ∀ judgement, profile.judge? text = some judgement → judgement.issue ≠ none) :
    (machine.classify text).1 = none := by
  rw [Option.eq_none_iff_forall_ne_some]
  intro kind accepted
  exact faulty _ ((agrees.accepted own kind).mp accepted) rfl

end Profile

namespace Classifier

/-- A classifier whose automaton has accepted and contradicted nothing so far. Answers may have been
checked, if they were confirmed. -/
structure Undisputed (classifier : Classifier) : Prop where
  replayed : classifier.tally.replayed = 0
  disagreements : classifier.tally.disagreements = 0
  samples : classifier.samples = #[]

theorem undisputed_ofProfile (profile : Profile) (preferences : ClassifyPreferences) :
    (ofProfile profile preferences).Undisputed :=
  ⟨rfl, rfl, rfl⟩

variable {classifier : Classifier} {profile : Profile} {preferences : ClassifyPreferences}
  {lexeme : Lexeme}

theorem crossCheck_undisputed (ready : classifier.For profile preferences)
    (undisputed : classifier.Undisputed) (agrees : profile.Agrees lexeme.text.toList)
    {direct : TokenKind} (judged : profile.judge? lexeme.text.toList = some (.valid direct)) :
    (classifier.crossCheck lexeme direct).1.Undisputed := by
  have automaton := (agrees.accepted ready.automaton direct).mpr judged
  rw [crossCheck]
  dsimp only
  rw [if_pos automaton]
  exact ⟨undisputed.replayed, undisputed.disagreements, undisputed.samples⟩

theorem replay_undisputed (ready : classifier.For profile preferences)
    (undisputed : classifier.Undisputed) (agrees : profile.Agrees lexeme.text.toList)
    (shapeless : profile.judge? lexeme.text.toList = none) :
    (classifier.replay lexeme).2.Undisputed := by
  have rejected : (classifier.machine.classify lexeme.text.toList).1 = none := by
    refine agrees.rejected ready.automaton fun judgement judged => ?_
    rw [shapeless] at judged
    cases judged
  rw [replay]
  dsimp only
  rw [rejected]
  exact ⟨undisputed.replayed, undisputed.disagreements, undisputed.samples⟩

theorem judge_undisputed (ready : classifier.For profile preferences)
    (undisputed : classifier.Undisputed) (agrees : profile.Agrees lexeme.text.toList) :
    (classifier.judge lexeme).2.1.Undisputed := by
  have counted : ({ classifier with
      tally := { classifier.tally with direct := classifier.tally.direct + 1 } } :
      Classifier).Undisputed :=
    ⟨undisputed.replayed, undisputed.disagreements, undisputed.samples⟩
  rw [judge]
  cases judged : classifier.profile.judge? lexeme.text.toList with
  | none =>
    rw [ready.own] at judged
    exact replay_undisputed ready undisputed agrees judged
  | some judgement =>
    rw [ready.own] at judged
    dsimp only
    split
    · rename_i checked
      obtain ⟨kind, issue⟩ := judgement
      cases issue with
      | none =>
        refine crossCheck_undisputed (?_ : For profile preferences _) counted agrees judged
        exact ⟨ready.own, ready.automaton, ready.asked⟩
      | some issue => cases checked
    · exact counted

theorem classify_undisputed (ready : classifier.For profile preferences)
    (undisputed : classifier.Undisputed) (agrees : profile.Agrees lexeme.text.toList) :
    (classifier.classify lexeme).2.1.Undisputed := by
  have judged := judge_undisputed ready undisputed agrees
  rw [classify]
  dsimp only
  split <;> exact judged

theorem classifyOnto_undisputed (ready : classifier.For profile preferences)
    (undisputed : classifier.Undisputed) (tokens : Array Token) (entries : Array Entry)
    {lexemes : List Lexeme} (agree : ∀ lexeme ∈ lexemes, profile.Agrees lexeme.text.toList) :
    (classifier.classifyOnto tokens entries lexemes).2.1.Undisputed := by
  induction lexemes generalizing classifier tokens entries with
  | nil => exact undisputed
  | cons lexeme lexemes ih =>
    have agrees := agree lexeme List.mem_cons_self
    exact ih (classify_for ready lexeme) (classify_undisputed ready undisputed agrees) _ _
      fun other member => agree other (List.mem_cons_of_mem _ member)

/-- What is classified by itself and by the automaton alike gives a classifier nothing to report,
whether or not it checks its answers. -/
theorem classifyAll_undisputed (ready : classifier.For profile preferences)
    (undisputed : classifier.Undisputed) {lexemes : List Lexeme}
    (agree : ∀ lexeme ∈ lexemes, profile.Agrees lexeme.text.toList) :
    (classifier.classifyAll lexemes).2.1.Undisputed :=
  classifyOnto_undisputed ready undisputed #[] #[] agree

end Classifier

end ProfileLexer
