import ProfileLexer.Proofs.Classifier.Independence

/-!
What a classifier counts. Its counts and its samples are those of the lexemes that it has
classified, each by itself, on top of those that it has started from.
-/

namespace ProfileLexer

namespace Profile

variable (profile : Profile) (crossCheck : Bool)

/-- What the automaton makes of a lexeme, when it starts from the beginning. -/
def replayed? (lexeme : Lexeme) : Option TokenKind :=
  ((Machine.ofProfile profile).classify lexeme.text.toList).1

/-- The kind of a lexeme that the direct way finds valid. A lexeme with an issue has none, though it
has a judgement. -/
def direct? (lexeme : Lexeme) : Option TokenKind :=
  match profile.judge? lexeme.text.toList with
  | some ⟨kind, none⟩ => some kind
  | _ => none

def checked? (lexeme : Lexeme) : Option TokenKind :=
  if crossCheck then profile.direct? lexeme else none

/-- The disagreement on a lexeme whose checked answer is not that of the automaton. Where answers
are not checked there is none. -/
def disagreement? (lexeme : Lexeme) : Option Disagreement :=
  match profile.checked? crossCheck lexeme with
  | some direct =>
    if profile.replayed? lexeme = some direct then none
    else some ⟨lexeme.offset, lexeme.text, direct, profile.replayed? lexeme⟩
  | none => none

/-- How many of some lexemes go which way, each counted by itself: the order of the lexemes does not
matter, and neither does a limit on samples. -/
def counts (lexemes : List Lexeme) : Tally where
  direct := lexemes.countP fun lexeme => (profile.judge? lexeme.text.toList).isSome
  replayed := lexemes.countP fun lexeme =>
    (profile.judge? lexeme.text.toList).isNone && (profile.replayed? lexeme).isSome
  rejected := lexemes.countP fun lexeme =>
    (profile.judge? lexeme.text.toList).isNone && (profile.replayed? lexeme).isNone
  crossChecked := lexemes.countP fun lexeme => (profile.checked? crossCheck lexeme).isSome
  disagreements := lexemes.countP fun lexeme => (profile.disagreement? crossCheck lexeme).isSome

theorem counts_append (first second : List Lexeme) :
    profile.counts crossCheck (first ++ second) =
      (profile.counts crossCheck first).add (profile.counts crossCheck second) := by
  simp only [counts, Tally.add, List.countP_append]

/-- Every lexeme goes one of three ways. Checks and disagreements are counted on top and not part of
the total. -/
theorem total_counts (lexemes : List Lexeme) :
    (profile.counts crossCheck lexemes).total = lexemes.length := by
  induction lexemes with
  | nil => rfl
  | cons lexeme lexemes ih =>
    simp only [counts, Tally.total, List.countP_cons, List.length_cons] at ih ⊢
    cases profile.judge? lexeme.text.toList with
    | some judgement => simp; omega
    | none => cases profile.replayed? lexeme <;> simp <;> omega

theorem crossChecked_counts (lexemes : List Lexeme) :
    (profile.counts crossCheck lexemes).crossChecked =
      if crossCheck then lexemes.countP fun lexeme => (profile.direct? lexeme).isSome else 0 := by
  cases crossCheck <;> simp [counts, checked?]

theorem disagreements_counts (lexemes : List Lexeme) :
    (profile.counts crossCheck lexemes).disagreements =
      (lexemes.filterMap (profile.disagreement? crossCheck)).length :=
  List.length_filterMap_eq_countP.symm

end Profile

theorem Tally.add_assoc (first second third : Tally) :
    (first.add second).add third = first.add (second.add third) := by
  simp only [add, Nat.add_assoc]

theorem Tally.add_zero (tally : Tally) : tally.add .zero = tally := rfl

theorem Tally.zero_add (tally : Tally) : zero.add tally = tally := by
  simp only [add, zero, Nat.zero_add]

theorem take_take_append {α : Type} (limit : Nat) (first second : List α) :
    (first.take limit ++ second).take limit = (first ++ second).take limit := by
  rw [List.take_append, List.take_append, List.take_take, Nat.min_self, List.length_take]
  congr 2
  omega

namespace Classifier

/-- A classifier after some lexemes: it has added what they count, and has kept the first of all
disagreements up to the limit. It may have started with counts and samples of its own. -/
structure Counts (profile : Profile) (crossCheck : Bool) (classifier : Classifier)
    (lexemes : List Lexeme) (after : Classifier) : Prop where
  tally : after.tally = classifier.tally.add (profile.counts crossCheck lexemes)
  samples : after.samples.toList = (classifier.samples.toList ++
    lexemes.filterMap (profile.disagreement? crossCheck)).take Limits.maxDisagreementSamples

variable {profile : Profile} {preferences : ClassifyPreferences} {classifier middle after : Classifier}

theorem Counts.trans {crossCheck : Bool} {first second : List Lexeme}
    (counts : classifier.Counts profile crossCheck first middle)
    (more : middle.Counts profile crossCheck second after) :
    classifier.Counts profile crossCheck (first ++ second) after where
  tally := by rw [more.tally, counts.tally, profile.counts_append, Tally.add_assoc]
  samples := by
    rw [more.samples, counts.samples, take_take_append, List.filterMap_append, List.append_assoc]

theorem classify_snd (classifier : Classifier) (lexeme : Lexeme) :
    (classifier.classify lexeme).2.1 = (classifier.judge lexeme).2.1 := by
  rw [classify]
  dsimp only
  split <;> rfl

/-- Where there is no disagreement, the samples stay, and all of them are within the limit. -/
theorem Counts.of_agreed {crossCheck : Bool} {lexeme : Lexeme}
    (room : classifier.samples.size ≤ Limits.maxDisagreementSamples)
    (agreed : profile.disagreement? crossCheck lexeme = none)
    (tally : after.tally = classifier.tally.add (profile.counts crossCheck [lexeme]))
    (samples : after.samples = classifier.samples) :
    classifier.Counts profile crossCheck [lexeme] after where
  tally := tally
  samples := by
    rw [samples, List.filterMap_cons_none agreed, List.filterMap_nil, List.append_nil]
    exact (List.take_of_length_le room).symm

/-- A disagreement is kept as long as there is room. Behind the limit it is counted and not kept. -/
theorem Counts.of_disagreement {crossCheck : Bool} {lexeme : Lexeme} {found : Disagreement}
    (room : classifier.samples.size ≤ Limits.maxDisagreementSamples)
    (disagreed : profile.disagreement? crossCheck lexeme = some found)
    (tally : after.tally = classifier.tally.add (profile.counts crossCheck [lexeme]))
    (samples : after.samples = if classifier.samples.size < Limits.maxDisagreementSamples then
      classifier.samples.push found else classifier.samples) :
    classifier.Counts profile crossCheck [lexeme] after where
  tally := tally
  samples := by
    rw [samples, List.filterMap_cons_some disagreed, List.filterMap_nil]
    by_cases more : classifier.samples.size < Limits.maxDisagreementSamples
    · rw [if_pos more, Array.toList_push, List.take_of_length_le]
      rw [List.length_append, Array.length_toList]
      exact more
    · rw [if_neg more, List.take_append_of_le_length (by simpa using more)]
      exact (List.take_of_length_le room).symm

/-- A lexeme that is classified is counted. The classifier may have classified anything before, if
it has no more samples than it may keep. -/
theorem counts_classify (ready : classifier.For profile preferences)
    (room : classifier.samples.size ≤ Limits.maxDisagreementSamples) (lexeme : Lexeme) :
    classifier.Counts profile preferences.crossCheck [lexeme] (classifier.classify lexeme).2.1 := by
  have automaton : (classifier.machine.classify lexeme.text.toList).1 = profile.replayed? lexeme :=
    Machine.classify_congr ready.automaton _
  rw [classify_snd, judge, ready.own, ready.asked]
  cases judged : profile.judge? lexeme.text.toList with
  | none =>
    have unchecked : profile.checked? preferences.crossCheck lexeme = none := by
      simp [Profile.checked?, Profile.direct?, judged]
    have agreed : profile.disagreement? preferences.crossCheck lexeme = none := by
      rw [Profile.disagreement?, unchecked]
    cases replayed : profile.replayed? lexeme with
    | none =>
      refine .of_agreed room agreed ?_ ?_ <;>
        simp [replay, automaton, replayed, Profile.counts, judged, unchecked, agreed, Tally.add]
    | some kind =>
      refine .of_agreed room agreed ?_ ?_ <;>
        simp [replay, automaton, replayed, Profile.counts, judged, unchecked, agreed, Tally.add]
  | some judgement =>
    obtain ⟨kind, issue⟩ := judgement
    by_cases checks : issue.isNone && preferences.crossCheck
    · obtain ⟨valid, flag⟩ := Bool.and_eq_true_iff.mp checks
      obtain rfl := Option.isNone_iff_eq_none.mp valid
      have checked : profile.checked? true lexeme = some kind := by
        simp [Profile.checked?, Profile.direct?, judged]
      dsimp only
      rw [flag]
      by_cases agree : profile.replayed? lexeme = some kind
      · have agreed : profile.disagreement? true lexeme = none := by
          simp [Profile.disagreement?, checked, agree]
        refine .of_agreed room agreed ?_ ?_ <;>
          simp [crossCheck, automaton, agree, Profile.counts, judged, checked, agreed, Tally.add]
      · have disagreed : profile.disagreement? true lexeme =
            some ⟨lexeme.offset, lexeme.text, kind, profile.replayed? lexeme⟩ := by
          simp [Profile.disagreement?, checked, agree]
        refine .of_disagreement room disagreed ?_ ?_ <;>
          simp [crossCheck, automaton, agree, Profile.counts, judged, checked, disagreed, Tally.add]
    · have unchecked : profile.checked? preferences.crossCheck lexeme = none := by
        cases issue <;> simp_all [Profile.checked?, Profile.direct?]
      have agreed : profile.disagreement? preferences.crossCheck lexeme = none := by
        rw [Profile.disagreement?, unchecked]
      refine .of_agreed room agreed ?_ ?_ <;>
        simp [checks, Profile.counts, judged, unchecked, agreed, Tally.add]

theorem Counts.room {crossCheck : Bool} {lexemes : List Lexeme}
    (counts : classifier.Counts profile crossCheck lexemes after) :
    after.samples.size ≤ Limits.maxDisagreementSamples := by
  rw [← Array.length_toList, counts.samples]
  exact List.length_take_le _ _

/-- All lexemes that are classified are counted, whatever tokens and entries are put in front. -/
theorem counts_classifyOnto (ready : classifier.For profile preferences)
    (room : classifier.samples.size ≤ Limits.maxDisagreementSamples) (tokens : Array Token)
    (entries : Array Entry) (lexemes : List Lexeme) :
    classifier.Counts profile preferences.crossCheck lexemes
      (classifier.classifyOnto tokens entries lexemes).2.1 := by
  induction lexemes generalizing classifier tokens entries with
  | nil => exact ⟨rfl, by simpa [classifyOnto] using (List.take_of_length_le room).symm⟩
  | cons lexeme lexemes ih =>
    have first := counts_classify ready room lexeme
    exact first.trans (ih (classify_for ready lexeme) first.room _ _)

/-- What a fresh classifier has counted and kept after some lexemes. Nothing is assumed of the
lexemes, which need not come from one source. -/
theorem counts_classifyAll (profile : Profile) (preferences : ClassifyPreferences)
    (lexemes : List Lexeme) :
    let after := ((ofProfile profile preferences).classifyAll lexemes).2.1
    after.tally = profile.counts preferences.crossCheck lexemes ∧
      after.samples.toList = (lexemes.filterMap
        (profile.disagreement? preferences.crossCheck)).take Limits.maxDisagreementSamples := by
  have counts := counts_classifyOnto (for_ofProfile profile preferences) (Nat.zero_le _) #[] #[]
    lexemes
  exact ⟨counts.tally.trans (Tally.zero_add _), counts.samples⟩

end Classifier

end ProfileLexer
