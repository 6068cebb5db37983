import ProfileLexer.Proofs.Classifier.Independence
import ProfileLexer.Proofs.Guarded.Automaton
import ProfileLexer.Proofs.Guarded.Number

/-!
Classification in bytes. Every shape of a lexeme is looked for, the automaton replays what it is
given, and every lexeme becomes its token.
-/

namespace ProfileLexer

def Classifier.inBytes (classifier : Classifier) : Classifier :=
  { classifier with machine := classifier.machine.inBytes }

namespace Guarded

/-- The judgement on a text that a form covers from its first byte to its last. -/
def whole (text : List Char) (kind : TokenKind) (extent : Option Extent) : Option Judgement :=
  match extent with
  | some extent =>
    if extent.length = Text.byteLength text then some (.ofClosed kind extent.closed) else none
  | none => none

noncomputable section

/-- The judgement on a text that has a shape from end to end. A shape that covers less of the text
is passed over. -/
def judgeAs (profile : Profile) (text : List Char) : Profile.Shape → Guarded (Option Judgement)
  | .string => do return whole text .string (← stringExtent profile text)
  | .blockComment => do return whole text .comment (← commentExtent profile text)
  | .literal =>
    if (text.head?.map profile.isLiteralLead).getD false then
      profile.literals.findSomeM? fun form => do
        return whole text form.kind (← literalExtent profile text form)
    else return none
  | .number => do
    return Profile.kindIf (← numberForm profile.numbers text).isSome .number
  | .delimiter =>
    match text.head? with
    | some c =>
      return Profile.kindIf (c.utf8Size == Text.byteLength text && profile.isDelimiter c) .delimiter
    | none => return none
  | shape => return profile.judgeAs? text shape

/-- The judgement on a text by the first shape that it has. An empty text has none. -/
def direct (profile : Profile) (text : List Char) : Guarded (Option Judgement) :=
  if text.isEmpty then return none else Profile.Shape.all.findSomeM? (judgeAs profile text)

/-- The judgement on a lexeme, and the automaton behind it. What the automaton says of a judgement
that is checked does not change it. -/
def judge (classifier : Classifier) (lexeme : Lexeme) : Guarded (Judgement × Machine) := do
  let text := lexeme.text.toList
  match ← direct classifier.profile text with
  | some judgement =>
    if judgement.issue.isNone && classifier.preferences.crossCheck then
      let (_, machine) ← replay classifier.machine text
      return (judgement, machine)
    else return (judgement, classifier.machine)
  | none =>
    let (kind?, machine) ← replay classifier.machine text
    match kind? with
    | some kind => return (.valid kind, machine)
    | none => return (⟨.unknown, some (classifier.profile.rejection text)⟩, machine)

/-- The token of a lexeme, and the automaton behind it. Counts, samples and events are left out, as
nothing in them can break off. -/
def classify (classifier : Classifier) (lexeme : Lexeme) : Guarded (Token × Machine) := do
  let (judgement, machine) ← judge classifier lexeme
  match judgement.issue with
  | none => return (.ofLexeme judgement.kind lexeme, machine)
  | some issue => return (.invalid judgement.kind lexeme issue, machine)

end

variable {profile : Profile}

theorem whole_eq {text : List Char} {extent? : Option Extent}
    (within : ∀ extent, extent? = some extent → extent.length ≤ text.length) (kind : TokenKind) :
    whole text kind (extent?.map (·.inBytes text)) = Profile.whole? text kind extent? := by
  cases extent? with
  | none => rfl
  | some extent =>
    simp only [Option.map_some, whole, Profile.whole?, Extent.inBytes,
      byteLength_take_eq_iff (within extent rfl)]

theorem byteLength_eq_utf8Size (c : Char) (rest : List Char) :
    (c.utf8Size == Text.byteLength (c :: rest)) = rest.isEmpty := by
  rw [Bool.eq_iff_iff, beq_iff_eq, List.isEmpty_iff, Text.byteLength_cons,
    ← Text.byteLength_eq_zero_iff]
  omega

theorem judgeAs_eq (wellFormed : profile.WellFormed) (text : List Char) (shape : Profile.Shape) :
    judgeAs profile text shape = some (profile.judgeAs? text shape) := by
  cases shape with
  | string =>
    rw [judgeAs, stringExtent_eq, Profile.judgeAs?,
      ← whole_eq fun extent found => (Profile.fits_stringExtent? found).le]
    rfl
  | blockComment =>
    rw [judgeAs, commentExtent_eq wellFormed, Profile.judgeAs?,
      ← whole_eq fun extent found => (Profile.fits_commentExtent? wellFormed found).le]
    rfl
  | literal =>
    rw [judgeAs, Profile.judgeAs?]
    have forms : ∀ form ∈ profile.literals, (do
        return whole text form.kind (← literalExtent profile text form) : Guarded _) =
        some (Profile.whole? text form.kind (profile.literalExtent? form text)) := by
      intro form member
      rw [literalExtent_eq, ← whole_eq fun extent found =>
        (Profile.fits_literalExtent? wellFormed member found).le]
      rfl
    rw [findSomeM?_eq forms]
    split <;> rfl
  | number =>
    rw [judgeAs, numberForm_eq, Profile.judgeAs?]
    rfl
  | delimiter =>
    rw [judgeAs]
    match text with
    | [] => rfl
    | c :: rest =>
      rw [List.head?_cons]
      dsimp only
      rw [byteLength_eq_utf8Size]
      cases rest with
      | nil => rfl
      | cons next rest => rfl
  | _ => rfl

theorem direct_eq (wellFormed : profile.WellFormed) (text : List Char) :
    direct profile text = some (profile.judge? text) := by
  rw [direct, Profile.judge?, findSomeM?_eq fun shape _ => judgeAs_eq wellFormed text shape]
  split <;> rfl

theorem machine_crossCheck (classifier : Classifier) (lexeme : Lexeme) (kind : TokenKind) :
    (classifier.crossCheck lexeme kind).1.machine =
      (classifier.machine.classify lexeme.text.toList).2 := by
  rw [Classifier.crossCheck]
  dsimp only
  split <;> rfl

theorem judge_inBytes (wellFormed : profile.WellFormed) {classifier : Classifier}
    {preferences : ClassifyPreferences} (ready : classifier.For profile preferences)
    (lexeme : Lexeme) : judge classifier.inBytes lexeme =
      some ((classifier.judge lexeme).1, (classifier.judge lexeme).2.1.machine.inBytes) := by
  have replayed : replay classifier.inBytes.machine lexeme.text.toList = _ :=
    replay_inBytes (ready.automaton.symm ▸ wellFormed) lexeme.text.toList
  have looked : direct classifier.inBytes.profile lexeme.text.toList = _ :=
    direct_eq (ready.own.symm ▸ wellFormed) lexeme.text.toList
  rw [judge, looked, Classifier.judge]
  simp only [Option.bind_eq_bind, Option.bind_some]
  have own : classifier.inBytes.profile = classifier.profile := rfl
  have asked : classifier.inBytes.preferences = classifier.preferences := rfl
  rw [own, asked]
  cases classifier.profile.judge? lexeme.text.toList with
  | some judgement =>
    dsimp only
    split
    · rw [replayed]
      simp only [Option.bind_some, machine_crossCheck]
      rfl
    · rfl
  | none =>
    dsimp only
    rw [replayed, Classifier.replay]
    simp only [Option.bind_some]
    cases (classifier.machine.classify lexeme.text.toList).1 <;> rfl

theorem classify_inBytes (wellFormed : profile.WellFormed) {classifier : Classifier}
    {preferences : ClassifyPreferences} (ready : classifier.For profile preferences)
    (lexeme : Lexeme) : classify classifier.inBytes lexeme =
      some (profile.token lexeme, (classifier.classify lexeme).2.1.machine.inBytes) := by
  rw [classify, judge_inBytes wellFormed ready, ← Classifier.classify_fst ready, Classifier.classify]
  dsimp only [Option.bind_eq_bind, Option.bind_some]
  cases (classifier.judge lexeme).1.issue <;> rfl

end Guarded

end ProfileLexer
