import ProfileLexer.Classifier
import ProfileLexer.Proofs.Automaton.Reuse

/-!
A token depends on its lexeme and on the profile alone. What a classifier has classified before, its
counts, its samples and its preferences have no part in it.
-/

namespace ProfileLexer

namespace Profile

/-- The judgement on a lexeme with some text: by its shape, or else by the automaton. No classifier
occurs in it. -/
def judgement (profile : Profile) (text : List Char) : Judgement :=
  match profile.judge? text with
  | some judgement => judgement
  | none =>
    match ((Machine.ofProfile profile).classify text).1 with
    | some kind => .valid kind
    | none => ⟨.unknown, some (profile.rejection text)⟩

/-- The token that a profile makes of a lexeme. It keeps the text and the offset, so what is said of
lexemes holds of tokens. -/
def token (profile : Profile) (lexeme : Lexeme) : Token :=
  let judgement := profile.judgement lexeme.text.toList
  match judgement.issue with
  | none => .ofLexeme judgement.kind lexeme
  | some issue => .invalid judgement.kind lexeme issue

@[simp] theorem token_text (profile : Profile) (lexeme : Lexeme) :
    (profile.token lexeme).text = lexeme.text := by
  rw [token]
  cases (profile.judgement lexeme.text.toList).issue <;> rfl

@[simp] theorem token_offset (profile : Profile) (lexeme : Lexeme) :
    (profile.token lexeme).offset = lexeme.offset := by
  rw [token]
  cases (profile.judgement lexeme.text.toList).issue <;> rfl

end Profile

namespace Classifier

/-- A classifier for a profile with some preferences, however it has been used. Its automaton may
stand in any state, and its counts and samples may be any. -/
structure For (profile : Profile) (preferences : ClassifyPreferences) (classifier : Classifier) :
    Prop where
  own : classifier.profile = profile
  automaton : classifier.machine.profile = profile
  asked : classifier.preferences = preferences

/-- Classifiers that answer alike and count alike. Their automata are for one profile and may stand
in different states. -/
structure Alike (classifier other : Classifier) : Prop where
  profile : classifier.profile = other.profile
  machine : classifier.machine.profile = other.machine.profile
  preferences : classifier.preferences = other.preferences
  tally : classifier.tally = other.tally
  samples : classifier.samples = other.samples

theorem for_ofProfile (profile : Profile) (preferences : ClassifyPreferences) :
    (ofProfile profile preferences).For profile preferences :=
  ⟨rfl, rfl, rfl⟩

variable {classifier other : Classifier} {profile : Profile} {preferences : ClassifyPreferences}

theorem crossCheck_for (ready : classifier.For profile preferences) (lexeme : Lexeme) (direct : TokenKind) :
    (classifier.crossCheck lexeme direct).1.For profile preferences := by
  rw [crossCheck]
  split
  rename_i automaton machine classified
  have same : machine.profile = profile := by
    rw [← ready.automaton, ← Machine.classify_profile classifier.machine lexeme.text.toList,
      classified]
  dsimp only
  split <;> exact ⟨ready.own, same, ready.asked⟩

theorem replay_for (ready : classifier.For profile preferences) (lexeme : Lexeme) :
    (classifier.replay lexeme).2.For profile preferences := by
  have same : (classifier.machine.classify lexeme.text.toList).2.profile = profile := by
    rw [Machine.classify_profile, ready.automaton]
  rw [replay]
  dsimp only
  split <;> exact ⟨ready.own, same, ready.asked⟩

theorem judge_for (ready : classifier.For profile preferences) (lexeme : Lexeme) :
    (classifier.judge lexeme).2.1.For profile preferences := by
  rw [judge]
  split
  · dsimp only
    split
    · refine crossCheck_for ?_ lexeme _
      exact ⟨ready.own, ready.automaton, ready.asked⟩
    · exact ⟨ready.own, ready.automaton, ready.asked⟩
  · exact replay_for ready lexeme

theorem classify_for (ready : classifier.For profile preferences) (lexeme : Lexeme) :
    (classifier.classify lexeme).2.1.For profile preferences := by
  have judged := judge_for ready lexeme
  rw [classify]
  dsimp only
  split <;> exact judged

theorem judge_fst (ready : classifier.For profile preferences) (lexeme : Lexeme) :
    (classifier.judge lexeme).1 = profile.judgement lexeme.text.toList := by
  have automaton : (classifier.machine.classify lexeme.text.toList).1 =
      ((Machine.ofProfile profile).classify lexeme.text.toList).1 :=
    Machine.classify_congr ready.automaton _
  rw [judge, Profile.judgement, ready.own]
  cases profile.judge? lexeme.text.toList with
  | some judgement =>
    dsimp only
    split <;> rfl
  | none =>
    rw [← automaton]
    simp only [replay, ready.own]
    cases (classifier.machine.classify lexeme.text.toList).1 <;> rfl

/-- Every classifier for a profile makes the same token of a lexeme, since its automaton starts over
with each lexeme. -/
theorem classify_fst (ready : classifier.For profile preferences) (lexeme : Lexeme) :
    (classifier.classify lexeme).1 = profile.token lexeme := by
  rw [classify, Profile.token, ← judge_fst ready]
  dsimp only
  cases (classifier.judge lexeme).1.issue <;> rfl

/-- The tokens of lexemes, one after the other, are those of each lexeme for itself, behind the
tokens that have been there. -/
theorem classifyOnto_fst (ready : classifier.For profile preferences) (tokens : Array Token)
    (entries : Array Entry) (lexemes : List Lexeme) :
    (classifier.classifyOnto tokens entries lexemes).1.toList =
      tokens.toList ++ lexemes.map profile.token := by
  induction lexemes generalizing classifier tokens entries with
  | nil => simp [classifyOnto]
  | cons lexeme lexemes ih =>
    rw [classifyOnto]
    simp only
    rw [ih (classify_for ready lexeme), classify_fst ready]
    simp

theorem classifyOnto_for (ready : classifier.For profile preferences) (tokens : Array Token)
    (entries : Array Entry) (lexemes : List Lexeme) :
    (classifier.classifyOnto tokens entries lexemes).2.1.For profile preferences := by
  induction lexemes generalizing classifier tokens entries with
  | nil => exact ready
  | cons lexeme lexemes ih => exact ih (classify_for ready lexeme) _ _

theorem classifyAll_for (ready : classifier.For profile preferences) (lexemes : List Lexeme) :
    (classifier.classifyAll lexemes).2.1.For profile preferences :=
  classifyOnto_for ready #[] #[] lexemes

theorem classifyAll_fst (ready : classifier.For profile preferences) (lexemes : List Lexeme) :
    (classifier.classifyAll lexemes).1 = lexemes.map profile.token := by
  rw [classifyAll]
  simp only
  rw [classifyOnto_fst ready, Array.toList_empty, List.nil_append]

theorem Alike.crossCheck (alike : classifier.Alike other) (lexeme : Lexeme) (direct : TokenKind) :
    (classifier.crossCheck lexeme direct).1.Alike (other.crossCheck lexeme direct).1 ∧
      (classifier.crossCheck lexeme direct).2 = (other.crossCheck lexeme direct).2 := by
  have answer := Machine.classify_congr alike.machine lexeme.text.toList
  have machine : (classifier.machine.classify lexeme.text.toList).2.profile =
      (other.machine.classify lexeme.text.toList).2.profile := by
    rw [Machine.classify_profile, Machine.classify_profile, alike.machine]
  simp only [Classifier.crossCheck, answer, alike.tally, alike.samples]
  split
  · exact ⟨⟨alike.profile, machine, alike.preferences, rfl, rfl⟩, rfl⟩
  · exact ⟨⟨alike.profile, machine, alike.preferences, rfl, rfl⟩, rfl⟩

theorem Alike.replay (alike : classifier.Alike other) (lexeme : Lexeme) :
    (classifier.replay lexeme).1 = (other.replay lexeme).1 ∧
      (classifier.replay lexeme).2.Alike (other.replay lexeme).2 := by
  have answer := Machine.classify_congr alike.machine lexeme.text.toList
  have machine : (classifier.machine.classify lexeme.text.toList).2.profile =
      (other.machine.classify lexeme.text.toList).2.profile := by
    rw [Machine.classify_profile, Machine.classify_profile, alike.machine]
  simp only [Classifier.replay, answer, alike.tally, alike.profile]
  cases (other.machine.classify lexeme.text.toList).1 with
  | some kind => exact ⟨rfl, rfl, machine, alike.preferences, rfl, alike.samples⟩
  | none => exact ⟨rfl, rfl, machine, alike.preferences, rfl, alike.samples⟩

theorem Alike.judge (alike : classifier.Alike other) (lexeme : Lexeme) :
    (classifier.judge lexeme).1 = (other.judge lexeme).1 ∧
      (classifier.judge lexeme).2.1.Alike (other.judge lexeme).2.1 ∧
      (classifier.judge lexeme).2.2 = (other.judge lexeme).2.2 := by
  simp only [Classifier.judge, alike.profile, alike.preferences, alike.tally]
  cases other.profile.judge? lexeme.text.toList with
  | none =>
    obtain ⟨judgement, after⟩ := alike.replay lexeme
    exact ⟨judgement, after, rfl⟩
  | some judgement =>
    dsimp only
    split
    · refine ⟨rfl, Alike.crossCheck ?_ lexeme judgement.kind⟩
      exact ⟨rfl, alike.machine, rfl, rfl, alike.samples⟩
    · exact ⟨rfl, ⟨rfl, alike.machine, rfl, rfl, alike.samples⟩, rfl⟩

theorem Alike.classify (alike : classifier.Alike other) (lexeme : Lexeme) :
    (classifier.classify lexeme).1 = (other.classify lexeme).1 ∧
      (classifier.classify lexeme).2.1.Alike (other.classify lexeme).2.1 ∧
      (classifier.classify lexeme).2.2 = (other.classify lexeme).2.2 := by
  obtain ⟨judgement, after, entries⟩ := alike.judge lexeme
  simp only [Classifier.classify, judgement, entries, after.preferences]
  cases (other.judge lexeme).1.issue with
  | none => exact ⟨rfl, after, rfl⟩
  | some issue => exact ⟨rfl, after, rfl⟩

theorem Alike.classifyOnto (alike : classifier.Alike other) (tokens : Array Token)
    (entries : Array Entry) (lexemes : List Lexeme) :
    (classifier.classifyOnto tokens entries lexemes).1 =
        (other.classifyOnto tokens entries lexemes).1 ∧
      (classifier.classifyOnto tokens entries lexemes).2.1.Alike
        (other.classifyOnto tokens entries lexemes).2.1 := by
  induction lexemes generalizing classifier other tokens entries with
  | nil => exact ⟨rfl, alike⟩
  | cons lexeme lexemes ih =>
    obtain ⟨token, after, more⟩ := alike.classify lexeme
    simp only [Classifier.classifyOnto, token, more]
    exact ih after _ _

theorem Alike.classifyAll (alike : classifier.Alike other) (lexemes : List Lexeme) :
    (classifier.classifyAll lexemes).1 = (other.classifyAll lexemes).1 ∧
      (classifier.classifyAll lexemes).2.1.Alike (other.classifyAll lexemes).2.1 := by
  obtain ⟨tokens, after⟩ := alike.classifyOnto #[] #[] lexemes
  exact ⟨congrArg Array.toList tokens, after⟩

/-- Once its counts and samples are taken away, a classifier is like a fresh one. It is not a fresh
one: the automaton keeps its state. -/
theorem drain_alike (ready : classifier.For profile preferences) :
    classifier.drain.Alike (ofProfile profile preferences) :=
  ⟨ready.own, ready.automaton, ready.asked, rfl, rfl⟩

theorem Alike.for_ofProfile (alike : classifier.Alike (ofProfile profile preferences)) :
    classifier.For profile preferences :=
  ⟨alike.profile, alike.machine, alike.preferences⟩

end Classifier

end ProfileLexer
