import ProfileLexer.Proofs.Position.Lines
import ProfileLexer.Proofs.Run.Degraded
import ProfileLexer.Rendering

/-!
Messages about the invalid tokens of a run. They can be shown unless an invalid token starts inside
a line break, behind one of its carriage returns, and goes on behind it.
-/

namespace ProfileLexer

/-- A token that starts behind a carriage return of a line break and takes the line feed. It may
begin with further carriage returns, and may go on behind the break. -/
def Token.SplitsBreak (token : Token) (source : List Char) : Prop :=
  ∃ before returns rest after,
    source = before ++ ['\r'] ++ (token.text.toList ++ after) ∧
      token.offset = Text.byteLength (before ++ ['\r']) ∧
      token.text.toList = List.replicate returns '\r' ++ '\n' :: rest

namespace Rendering

variable {tokens : List Token} {source : String}

/-- A token of a source can be shown unless it splits a line break. Whether it is valid does not
matter. -/
theorem diagnostic?_eq_none (cover : Token.Cover tokens source) {token : Token}
    (member : token ∈ tokens) :
    diagnostic? (.ofSource source) token = none ↔ token.SplitsBreak source.toList := by
  obtain ⟨before, after, split, offset⟩ := cover.exists_around member
  rw [diagnostic?, ← Text.byteLength_toList]
  constructor
  · intro unshown
    rw [offset, LineIndex.snippet?_eq_none split] at unshown
    obtain ⟨behind, returns, rest, text⟩ := unshown
    obtain ⟨front, rfl⟩ := List.getLast?_eq_some_iff.mp behind
    exact ⟨front, returns, rest, after, split, offset, text⟩
  · rintro ⟨front, returns, rest, later, place, start, text⟩
    rw [start, LineIndex.snippet?_eq_none place]
    exact ⟨List.getLast?_concat, returns, rest, text⟩

theorem forall₂_of_mapM {α β : Type} {make : α → Option β} {items : List α} {made : List β}
    (found : items.mapM make = some made) :
    List.Forall₂ (fun item result => make item = some result) items made := by
  induction items generalizing made with
  | nil =>
    cases found
    exact .nil
  | cons item items ih =>
    rw [List.mapM_cons, Option.bind_eq_bind, Option.bind_eq_some_iff] at found
    obtain ⟨first, ofItem, found⟩ := found
    obtain ⟨rest, ofItems, found⟩ := Option.bind_eq_some_iff.mp found
    cases found
    exact .cons ofItem (ih ofItems)

theorem mapM_eq_none {α β : Type} {make : α → Option β} {items : List α} :
    items.mapM make = none ↔ ∃ item ∈ items, make item = none := by
  induction items with
  | nil => simp
  | cons item items ih =>
    rw [List.mapM_cons, List.exists_mem_cons_iff, ← ih]
    cases make item with
    | none => simp
    | some first => cases items.mapM make <;> simp

/-- With an invalid token that splits a line break there are no messages; otherwise there is one for
each invalid token, in their order. The tokens need not come from a run, as long as they lie end to
end over the source. -/
theorem diagnostics?_of_cover {stream : TokenStream} (cover : Token.Cover stream.tokens source) :
    (diagnostics? source stream = none ↔
      ∃ token ∈ stream.invalid, token.SplitsBreak source.toList) ∧
    ∀ messages, diagnostics? source stream = some messages → List.Forall₂
      (fun token message => diagnostic? (.ofSource source) token = some message) stream.invalid
      messages := by
  refine ⟨?_, fun messages found => forall₂_of_mapM found⟩
  rw [diagnostics?, mapM_eq_none]
  refine exists_congr fun token => and_congr_right fun member => ?_
  exact diagnostic?_eq_none cover (List.mem_of_mem_filter member)

/-- The ends of a token are in order, so that there is a span between them even where the token
cannot be shown. -/
theorem between?_spanOf (cover : Token.Cover tokens source) {token : Token}
    (member : token ∈ tokens) :
    let span := (LineIndex.ofSource source).spanOf token.offset token.text.utf8ByteSize
    Span.between? span.start span.stop = some span := by
  obtain ⟨before, after, split, offset⟩ := cover.exists_around member
  obtain ⟨lines, part, upTo⟩ := LineIndex.exists_upTo before
  obtain ⟨further, rest, beyond⟩ := LineIndex.exists_upTo (before ++ token.text.toList)
  have start := LineIndex.positionAt_of_upTo upTo split
  rw [← List.append_assoc] at split
  have stop := LineIndex.positionAt_of_upTo beyond split
  rw [Text.byteLength_append, Text.byteLength_toList] at stop
  simp only [LineIndex.spanOf, offset, start, stop, Span.between?]
  rw [if_pos (by omega)]

end Rendering

/-- After a run that succeeds, under either policy and whichever chunks have been given up, all
messages about its invalid tokens can be shown, one for each, unless an invalid token splits a line
break. The exception is exact, and one such token is enough for there to be no messages at all. -/
theorem diagnostics_of_run {σ : Type} {crew : Crew σ} {profile : Profile} {config : RunConfig}
    {faulty : Set Nat} {classifier : σ → Classifier} {schedule : Schedule} {readings : Readings}
    {source : String} {result : RunResult}
    (classifies : crew.ClassifiesBut profile config.classify faulty classifier)
    (ran : (tokenizeWith profile config crew schedule readings source).result = .ok result) :
    (∀ token ∈ result.stream.invalid,
      let span := (LineIndex.ofSource source).spanOf token.offset token.text.utf8ByteSize
      Span.between? span.start span.stop = some span) ∧
    (Rendering.diagnostics? source result.stream = none ↔
      ∃ token ∈ result.stream.invalid, token.SplitsBreak source.toList) ∧
    ∀ messages, Rendering.diagnostics? source result.stream = some messages →
      List.Forall₂ (fun token message =>
        Rendering.diagnostic? (.ofSource source) token = some message)
        result.stream.invalid messages := by
  have cover := cover_of_run classifies ran
  obtain ⟨shown, messages⟩ := Rendering.diagnostics?_of_cover cover
  exact ⟨fun token member => Rendering.between?_spanOf cover (List.mem_of_mem_filter member), shown,
    messages⟩

/-- A source without carriage returns, with one character outside the alphabet and a literal that is
left open. -/
theorem diagnostics_of_unbroken_source :
    let profile := Profile.build Builtin.imperative
    let config := (RunConfig.ofSettings (Settings.ofEnvironment []) ⟨4, 2⟩).withWorkers 2
    ∃ result messages,
      (tokenizeWith profile config (.classifying profile config.classify) .inOrder default
        "a $ 'b\n").result = .ok result ∧
      Rendering.diagnostics? "a $ 'b\n" result.stream = some messages ∧
      messages.length = result.stream.invalidCount := by
  intro profile config
  have positive : config.schedule.workers ≠ some 0 := by decide
  have scannable : profile.Scannable "a $ 'b\n" :=
    ⟨by decide, Nat.le_trans (profile.length_pieces_le 0 _) (by decide)⟩
  obtain ⟨_, _, _, ran⟩ := tokenizeWith_classifying profile config.classify .inOrder default
    positive scannable
  obtain ⟨_, shown, each⟩ :=
    diagnostics_of_run (Crew.classifiesBut_classifying profile config.classify) ran
  obtain ⟨messages, found⟩ := Option.ne_none_iff_exists'.mp fun unshown => by
    obtain ⟨_, _, before, _, _, after, split, _⟩ := shown.mp unshown
    have inside : '\r' ∈ "a $ 'b\n".toList := by rw [split]; simp
    exact absurd inside (by decide)
  exact ⟨_, messages, ran, found, (each messages found).length_eq.symm⟩

/-- Where line feeds are quotes, a line feed is a string that is not closed, and behind a carriage
return it can not be shown. -/
theorem diagnostics_of_split_break :
    let definition := { Definition.ofId "feeds" with quotes := "\n" }
    let config := (RunConfig.ofSettings (Settings.ofEnvironment []) ⟨4, 2⟩).withWorkers 1
    ∃ profile result, Profile.ofDefinition definition = .ok profile ∧
      (tokenizeWith profile config (.classifying profile config.classify) .inOrder default
        "a\r\nb").result = .ok result ∧
      result.stream.invalidCount = 1 ∧ Rendering.diagnostics? "a\r\nb" result.stream = none := by
  intro definition config
  let profile := Profile.build definition
  have accepted : Profile.ofDefinition definition = .ok profile := by
    have sound : definition.problem? = none := by decide
    rw [Profile.ofDefinition, sound]
  have positive : config.schedule.workers ≠ some 0 := by decide
  have scannable : profile.Scannable "a\r\nb" :=
    ⟨by decide, Nat.le_trans (profile.length_pieces_le 0 _) (by decide)⟩
  have tokens : profile.tokens "a\r\nb" = [.ofLexeme .identifier ⟨"a", 0⟩,
      .ofLexeme .whitespace ⟨"\r", 1⟩, .invalid .string ⟨"\n", 2⟩ .unterminatedLiteral,
      .ofLexeme .identifier ⟨"b", 3⟩] := by decide +kernel
  obtain ⟨_, _, _, ran⟩ := tokenizeWith_classifying profile config.classify .inOrder default
    positive scannable
  refine ⟨profile, _, accepted, ran, ?_, ?_⟩
  · simp only [tokens]
    rfl
  · refine (Rendering.diagnostics?_of_cover (profile.cover_tokens _)).1.mpr
      ⟨.invalid .string ⟨"\n", 2⟩ .unterminatedLiteral, ?_, ['a'], 0, [], ['b'], rfl, rfl, rfl⟩
    simp only [tokens]
    decide

end ProfileLexer
