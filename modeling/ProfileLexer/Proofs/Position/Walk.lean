import ProfileLexer.Proofs.Position.Lines

/-!
Walking through a text. The position that is looked up for a byte offset is the one that is reached
character by character, at the last character boundary that is not behind the offset.
-/

namespace ProfileLexer

namespace Text

/-- The first part of a text up to the last character boundary that is not behind an offset. The
offset may be behind the text. -/
structure Reaches (text before : List Char) (offset : Nat) : Prop where
  front : before <+: text
  atMost : byteLength before ≤ offset
  last : ∀ place, IsBoundary text place → place ≤ offset → place ≤ byteLength before

variable {text before : List Char} {offset place : Nat}

theorem Reaches.isBoundary (reaches : Reaches text before offset) :
    IsBoundary text (byteLength before) := by
  obtain ⟨after, split⟩ := reaches.front
  exact ⟨before, after, split.symm, rfl⟩

/-- No boundary is between the one that is reached and the offset, so the two can stand for each
other in comparisons with boundaries. -/
theorem Reaches.le_iff (reaches : Reaches text before offset) (boundary : IsBoundary text place) :
    place ≤ offset ↔ place ≤ byteLength before :=
  ⟨reaches.last place boundary, fun within => Nat.le_trans within reaches.atMost⟩

theorem exists_reaches (text : List Char) (offset : Nat) :
    ∃ before, Reaches text before offset := by
  induction text using List.reverseRecOn with
  | nil =>
    refine ⟨[], List.prefix_refl _, Nat.zero_le _, fun place boundary _ => ?_⟩
    exact boundary.le_byteLength
  | append_singleton text c ih =>
    by_cases whole : byteLength (text ++ [c]) ≤ offset
    · exact ⟨text ++ [c], List.prefix_refl _, whole, fun place boundary _ => boundary.le_byteLength⟩
    · obtain ⟨before, front, atMost, last⟩ := ih
      refine ⟨before, front.trans (List.prefix_append _ _), atMost, fun place boundary within => ?_⟩
      refine last place ?_ within
      obtain ⟨upTo, after, split, rfl⟩ := boundary
      rcases List.eq_nil_or_concat after with rfl | ⟨after, d, rfl⟩
      · rw [List.append_nil] at split
        exact absurd (split ▸ within) whole
      · rw [List.concat_eq_append, ← List.append_assoc] at split
        exact ⟨upTo, after, (List.append_inj' split rfl).1, rfl⟩

theorem Reaches.length_lt {source : String} {limit : Nat}
    (reaches : Reaches source.toList before offset) (size : source.utf8ByteSize < limit) :
    before.length < limit := by
  have within := reaches.isBoundary.le_byteLength
  rw [byteLength_toList] at within
  have := length_le_byteLength before
  omega

/-- A later offset reaches further, or as far. -/
theorem Reaches.mono {further : List Char} {later : Nat} (first : Reaches text before offset)
    (second : Reaches text further later) (ordered : offset ≤ later) : before <+: further := by
  have size := second.last _ first.isBoundary (Nat.le_trans first.atMost ordered)
  rcases List.prefix_or_prefix_of_prefix first.front second.front with within | ⟨beyond, rfl⟩
  · exact within
  · rw [byteLength_append] at size
    obtain rfl : beyond = [] := byteLength_eq_zero_iff.mp (by omega)
    simp

end Text

namespace Position

/-- A position that is reached before another, or is the same: the other is neither on an earlier
line nor further to the left on the same one. -/
structure Precedes (first second : Position) : Prop where
  offset : first.offset ≤ second.offset
  line : first.line ≤ second.line
  column : first.line = second.line → first.column ≤ second.column

variable {first second third position next : Position} {c : Char} {text : List Char}

theorem Precedes.refl (position : Position) : position.Precedes position :=
  ⟨Nat.le_refl _, Nat.le_refl _, fun _ => Nat.le_refl _⟩

theorem Precedes.trans (before : first.Precedes second) (behind : second.Precedes third) :
    first.Precedes third := by
  refine ⟨Nat.le_trans before.offset behind.offset, Nat.le_trans before.line behind.line, ?_⟩
  intro same
  have line := before.line
  have line' := behind.line
  exact Nat.le_trans (before.column (by omega)) (behind.column (by omega))

/-- What precedes a position does not come behind it in the order of positions, which goes by the
offset, then by the line and then by the column. -/
theorem Precedes.isLE_compare (precedes : first.Precedes second) :
    (first.compare second).isLE = true := by
  obtain ⟨offset, line, column⟩ := precedes
  rw [compare, Ordering.isLE_then_iff_and, Ordering.isLE_then_iff_and, Nat.isLE_compare,
    Nat.isLE_compare, Nat.isLE_compare, Ordering.then_eq_lt, Nat.compare_eq_lt, Nat.compare_eq_eq,
    Nat.compare_eq_lt]
  omega

/-- A character is counted wherever another line and another column can be counted. -/
theorem advance?_of_lt (line : position.line < maxCount) (column : position.column < maxCount) :
    position.advance? c = some ⟨position.offset + c.utf8Size,
      if c == '\n' then position.line + 1 else position.line,
      if c == '\n' then 1 else position.column + 1⟩ := by
  rw [advance?, if_pos line, if_pos column]
  split
  · rename_i feed
    rw [beq_iff_eq.mp feed]
    rfl
  · rfl

/-- A character leads to a position behind, on the same line or at the start of the next. -/
theorem precedes_of_advance? (step : position.advance? c = some next) : position.Precedes next := by
  rw [advance?] at step
  split at step
  · split at step
    · cases step
      exact ⟨Nat.le_succ _, Nat.le_succ _, fun same => absurd same.symm (Nat.succ_ne_self _)⟩
    · cases step
  · split at step
    · cases step
      exact ⟨Nat.le_add_right _ _, Nat.le_refl _, fun _ => Nat.le_succ _⟩
    · cases step

theorem precedes_of_advanceText? (walk : position.advanceText? text = some next) :
    position.Precedes next := by
  induction text generalizing position with
  | nil =>
    cases walk
    exact Precedes.refl _
  | cons c text ih =>
    obtain ⟨between, step, rest⟩ := Option.bind_eq_some_iff.mp walk
    exact (precedes_of_advance? step).trans (ih rest)

theorem advanceText?_append (position : Position) (text more : List Char) :
    position.advanceText? (text ++ more) =
      (position.advanceText? text).bind (advanceText? · more) := by
  induction text generalizing position with
  | nil => rfl
  | cons c text ih =>
    rw [List.cons_append, advanceText?, advanceText?, Option.bind_assoc]
    exact congrArg _ (funext fun between => ih between)

end Position

namespace LineIndex

variable {source : String} {before after part : List Char} {lines : List (List Char)} {c : Char}

/-- One more character ends the line or makes its part longer. This is the step of the walk, told of
the text instead of the position. -/
theorem UpTo.concat (upTo : UpTo before lines part) (c : Char) :
    UpTo (before ++ [c]) (if c == '\n' then lines ++ [part] else lines)
      (if c == '\n' then [] else part ++ [c]) := by
  obtain ⟨rfl, whole, unbroken⟩ := upTo
  by_cases feed : c = '\n'
  · subst feed
    refine ⟨by simp, fun line member => ?_, by simp⟩
    rcases List.mem_append.mp member with earlier | own
    · exact whole line earlier
    · rw [List.mem_singleton.mp own]
      exact unbroken
  · have plain : (c == '\n') = false := beq_false_of_ne feed
    simp only [plain, Bool.false_eq_true, if_false]
    exact ⟨by simp, whole, by simp [unbroken, Ne.symm feed]⟩

theorem UpTo.length_le (upTo : UpTo before lines part) :
    lines.length + part.length ≤ before.length := by
  have feeds := List.count_le_length (a := '\n') (l := lines.flatMap (· ++ ['\n']))
  rw [← upTo.count, upTo.text, List.count_append, List.count_eq_zero_of_not_mem upTo.unbroken,
    List.length_append]
  omega

/-- Walking through the text in front of a place counts its lines and the part of the last one. The
text has to be short enough to be counted. -/
theorem advanceText?_of_short (short : before.length < Position.maxCount) :
    ∃ lines part, UpTo before lines part ∧ Position.start.advanceText? before =
      some ⟨Text.byteLength before, lines.length + 1, part.length + 1⟩ := by
  induction before using List.reverseRecOn with
  | nil => exact ⟨[], [], ⟨rfl, by simp, by simp⟩, rfl⟩
  | append_singleton before c ih =>
    rw [List.length_append, List.length_singleton] at short
    obtain ⟨lines, part, upTo, walk⟩ := ih (by omega)
    have length := upTo.length_le
    refine ⟨_, _, upTo.concat c, ?_⟩
    rw [Position.advanceText?_append, walk, Option.bind_some, Position.advanceText?,
      Position.advance?_of_lt (by dsimp only; omega) (by dsimp only; omega), Option.bind_some,
      Position.advanceText?, Text.byteLength_append, Text.byteLength_cons, Text.byteLength_nil]
    split
    · simp
    · simp

theorem putChar_flatten (c : Char) (lines : List (List Char)) :
    (putChar c lines).flatten = c :: lines.flatten := by
  cases lines with
  | nil => rfl
  | cons line lines =>
    rw [putChar]
    split
    · rename_i feed
      rw [beq_iff_eq.mp feed]
      rfl
    · rfl

theorem splitLines_flatten (text : List Char) : (splitLines text).flatten = text := by
  induction text with
  | nil => rfl
  | cons c text ih => rw [splitLines_cons, putChar_flatten, ih]

theorem isBoundary_of_starts {i start : Nat}
    (found : (ofSource source).starts[i]? = some start) :
    Text.IsBoundary source.toList start := by
  obtain ⟨_, rfl⟩ := starts_ofSource found
  refine ⟨_, ((splitLines source.toList).drop i).flatten, ?_, rfl⟩
  rw [← List.flatten_append, List.take_append_drop, splitLines_flatten]

theorem size_starts (source : String) :
    (ofSource source).starts.size = (ofSource source).lines.size := by
  simp [ofSource, startsFrom_eq]

/-- Every place on a line where its text can be cut is a character boundary. Behind the last line
the text is empty. -/
theorem isBoundary_on_line {line : Nat} {front back : List Char}
    (split : (ofSource source).lines.getD line [] = front ++ back) :
    Text.IsBoundary source.toList
      ((ofSource source).starts.getD line 0 + Text.byteLength front) := by
  rw [Array.getD_eq_getD_getElem?] at split ⊢
  cases found : (ofSource source).starts[line]? with
  | none =>
    rw [Array.getElem?_eq_none_iff, size_starts, ← Array.getElem?_eq_none_iff] at found
    rw [found] at split
    obtain ⟨rfl, rfl⟩ := List.nil_eq_append_iff.mp split
    exact Text.IsBoundary.zero _
  | some start =>
    obtain ⟨within, rfl⟩ := starts_ofSource found
    have own : (splitLines source.toList)[line] = front ++ back := by
      simpa [ofSource, within] using split
    refine ⟨((splitLines source.toList).take line).flatten ++ front,
      back ++ ((splitLines source.toList).drop (line + 1)).flatten, ?_, ?_⟩
    · have whole := congrArg List.flatten (List.take_append_drop line (splitLines source.toList))
      rw [List.drop_eq_getElem_cons within, own, splitLines_flatten] at whole
      simpa using whole.symm
    · rw [Text.byteLength_append]
      rfl

/-- The position on a line depends only on which places on it are at most the offset. The offset
itself is not part of it. -/
theorem positionOn_congr {line offset other start counted : Nat} {text : List Char}
    (same : ∀ front back, text = front ++ back →
      (start + Text.byteLength front ≤ offset ↔ start + Text.byteLength front ≤ other)) :
    positionOn line offset start counted text = positionOn line other start counted text := by
  induction text generalizing start counted with
  | nil => rfl
  | cons c text ih =>
    have step := same [c] text rfl
    rw [Text.byteLength_cons, Text.byteLength_nil, Nat.add_zero] at step
    rw [positionOn, positionOn]
    simp only [step]
    split
    · refine ih fun front back split => ?_
      have further := same (c :: front) back (by rw [split, List.cons_append])
      rwa [Text.byteLength_cons, ← Nat.add_assoc] at further
    · rfl

/-- Looking up an offset is looking up the last character boundary that is not behind it. Offsets
behind the end of the source stand for the end. -/
theorem positionAt_of_reaches {offset : Nat}
    (reaches : Text.Reaches source.toList before (min offset source.utf8ByteSize)) :
    (ofSource source).positionAt offset =
      (ofSource source).positionAt (Text.byteLength before) := by
  have atMost := reaches.atMost
  have inside : min (Text.byteLength before) source.utf8ByteSize = Text.byteLength before := by
    omega
  have line : Sorted.lastAtMost (ofSource source).starts (min offset source.utf8ByteSize) =
      Sorted.lastAtMost (ofSource source).starts (Text.byteLength before) :=
    Sorted.lastAtMost_congr fun i key found => reaches.le_iff (isBoundary_of_starts found)
  have size : (ofSource source).size = source.utf8ByteSize := rfl
  rw [positionAt, positionAt, size, inside, line]
  exact positionOn_congr fun front back split => reaches.le_iff (isBoundary_on_line split)

/-- Walking up to a character boundary reaches the position of every offset that goes back to it.
The walk does not fail, as the source is small enough for its counts. -/
theorem advanceText?_of_reaches (size : source.utf8ByteSize < Position.maxCount) {offset : Nat}
    (reaches : Text.Reaches source.toList before (min offset source.utf8ByteSize)) :
    Position.start.advanceText? before = some ((ofSource source).positionAt offset) := by
  obtain ⟨after, split⟩ := reaches.front
  obtain ⟨lines, part, upTo, walk⟩ := advanceText?_of_short (reaches.length_lt size)
  rw [positionAt_of_reaches reaches, positionAt_of_upTo upTo split.symm, walk]

/-- A later offset has a later position, or the same one. Offsets inside one character cannot be
told apart. -/
theorem precedes_positionAt (size : source.utf8ByteSize < Position.maxCount) {offset later : Nat}
    (ordered : offset ≤ later) :
    ((ofSource source).positionAt offset).Precedes ((ofSource source).positionAt later) := by
  obtain ⟨before, first⟩ := Text.exists_reaches source.toList (min offset source.utf8ByteSize)
  obtain ⟨further, second⟩ := Text.exists_reaches source.toList (min later source.utf8ByteSize)
  obtain ⟨between, rfl⟩ := first.mono second (by omega)
  have walk := advanceText?_of_reaches size second
  rw [Position.advanceText?_append, advanceText?_of_reaches size first, Option.bind_some] at walk
  exact Position.precedes_of_advanceText? walk

end LineIndex

end ProfileLexer
