import Mathlib.Order.Bounds.Basic
import ProfileLexer.Proofs.Guarded.Basic
import ProfileLexer.Proofs.Position.Walk

/-!
Positions looked up in a table of line starts. The table is made of the bytes of line feeds, the
offset goes back to a character boundary, and the line is searched for among the starts.
-/

namespace ProfileLexer

namespace Text

def bytes (text : List Char) : List UInt8 :=
  text.flatMap String.utf8EncodeChar

/-- A line feed is the only character with the byte of one, so bytes may be searched for it. -/
theorem feed_mem_utf8EncodeChar {c : Char} :
    (10 : UInt8) ∈ String.utf8EncodeChar c ↔ c = '\n' := by
  have feed : c = '\n' ↔ c.val.toNat = 10 := by
    rw [Char.ext_iff, ← UInt32.toNat_inj]
    rfl
  have byte (n : Nat) : (10 : UInt8) = UInt8.ofNat n ↔ n % 256 = 10 := by
    rw [← UInt8.toNat_inj, UInt8.toNat_ofNat', eq_comm]
    rfl
  rw [String.utf8EncodeChar, feed]
  split
  · simp only [List.mem_singleton, byte]
    omega
  · split
    · simp only [List.mem_cons, List.not_mem_nil, or_false, byte]
      omega
    · split
      · simp only [List.mem_cons, List.not_mem_nil, or_false, byte]
        omega
      · simp only [List.mem_cons, List.not_mem_nil, or_false, byte]
        omega

def feedStops (start : Nat) (text : List Char) : List Nat :=
  (((bytes text).zipIdx start).filter (·.1 == 10)).map (·.2 + 1)

theorem feedStops_cons (start : Nat) (c : Char) (text : List Char) :
    feedStops start (c :: text) =
      if c = '\n' then (start + 1) :: feedStops (start + 1) text
      else feedStops (start + c.utf8Size) text := by
  rw [feedStops, bytes, List.flatMap_cons, ← bytes, List.zipIdx_append, List.filter_append,
    List.map_append, String.length_utf8EncodeChar, ← feedStops]
  split
  · rename_i feed
    subst feed
    rfl
  · rename_i other
    have none_fed : ((String.utf8EncodeChar c).zipIdx start).filter (·.1 == 10) = [] := by
      rw [List.filter_eq_nil_iff]
      rintro ⟨byte, place⟩ member fed
      have same : byte = 10 := beq_iff_eq.mp fed
      have inside := List.fst_mem_of_mem_zipIdx member
      exact other (feed_mem_utf8EncodeChar.mp (same ▸ inside))
    rw [none_fed]
    rfl

theorem lt_of_mem_feedStops {start place : Nat} {text : List Char}
    (member : place ∈ feedStops start text) : start < place := by
  induction text generalizing start with
  | nil => cases member
  | cons c text ih =>
    have positive := c.utf8Size_pos
    rw [feedStops_cons] at member
    split at member
    · rcases List.mem_cons.mp member with rfl | behind
      · omega
      · have := ih behind
        omega
    · have := ih member
      omega

theorem feedStops_ascending (start : Nat) (text : List Char) :
    (feedStops start text).Pairwise (· < ·) := by
  induction text generalizing start with
  | nil => exact List.Pairwise.nil
  | cons c text ih =>
    rw [feedStops_cons]
    split
    · exact List.pairwise_cons.mpr ⟨fun place => lt_of_mem_feedStops, ih (start + 1)⟩
    · exact ih (start + c.utf8Size)

end Text

namespace LineIndex

theorem startsFrom_cons (offset : Nat) (line : List Char) (lines : List (List Char)) :
    (startsFrom #[] offset (line :: lines)).toList =
      offset :: (startsFrom #[] (offset + Text.byteLength line) lines).toList := by
  rw [startsFrom, startsFrom_eq, startsFrom_eq #[]]
  simp

/-- Lines start at the start of a text and behind its line feeds, whether characters or bytes are
counted. -/
theorem startsFrom_splitLines (offset : Nat) (text : List Char) :
    (startsFrom #[] offset (splitLines text)).toList = offset :: Text.feedStops offset text := by
  induction text generalizing offset with
  | nil => rfl
  | cons c text ih =>
    obtain ⟨first, more, split, _⟩ := splitLines_eq_cons text
    rw [split] at ih
    rw [splitLines_cons, split, putChar, Text.feedStops_cons]
    by_cases feed : c = '\n'
    · subst feed
      rw [if_pos (beq_self_eq_true _), if_pos rfl, startsFrom_cons, ih]
      rfl
    · have rest := ih (offset + c.utf8Size)
      rw [startsFrom_cons] at rest
      rw [if_neg (by simpa using feed), if_neg feed, startsFrom_cons, Text.byteLength_cons,
        ← Nat.add_assoc, List.tail_eq_of_cons_eq rest]

end LineIndex

namespace Guarded

/-- Where the lines of a text start: at its start and behind the bytes of line feeds. -/
def lineStarts (text : List Char) : List Nat :=
  0 :: Text.feedStops 0 text

/-- The offset, or the first one in front of it that is a character boundary. The loop goes back
byte by byte, and would break off below zero. -/
noncomputable def toBoundary (text : List Char) (offset : Nat) : Guarded Nat :=
  loop (fun place =>
    if (Text.charsWithin? 0 place text).isSome then some (.inr place)
    else (sub place 1).map .inl) offset

/-- The index at which the line of an offset is, which has been searched for among the starts. It
would break off if the offset were in front of the first. -/
def lineOf : Except Nat Nat → Guarded Nat
  | .ok index => some index
  | .error place => sub place 1

/-- The position at a byte offset. The counts are cut to 32 bits, and the table of starts may be
searched in any way. -/
noncomputable def positionAt (search : Array Nat → Nat → Except Nat Nat) (text : List Char)
    (offset : Nat) : Guarded Position := do
  let place ← toBoundary text (min offset (Text.byteLength text))
  let line ← lineOf (search (lineStarts text).toArray place)
  let start ← (lineStarts text)[line]?
  let part ← Text.slice? text start place
  return ⟨place, (line + 1) % (Position.maxCount + 1), (part.length + 1) % (Position.maxCount + 1)⟩

variable {text before : List Char} {offset : Nat}

theorem toBoundary_of_isBoundary (boundary : Text.IsBoundary text offset) :
    toBoundary text offset = some offset := by
  rw [toBoundary, loop_eq, if_pos (Text.charsWithin?_isSome_iff.mpr boundary)]
  rfl

/-- Going back from an offset ends at the last character boundary that is not behind it, at the
latest at the start of the text. -/
theorem toBoundary_eq (reaches : Text.Reaches text before offset) :
    toBoundary text offset = some (Text.byteLength before) := by
  have atMost := reaches.atMost
  induction offset with
  | zero => rw [toBoundary_of_isBoundary (.zero text), Nat.le_zero.mp atMost]
  | succ offset ih =>
    by_cases boundary : Text.IsBoundary text (offset + 1)
    · rw [toBoundary_of_isBoundary boundary,
        Nat.le_antisymm atMost (reaches.last _ boundary (Nat.le_refl _))]
    · have apart : Text.byteLength before ≠ offset + 1 :=
        fun same => boundary (same ▸ reaches.isBoundary)
      have further : Text.Reaches text before offset :=
        ⟨reaches.front, by omega, fun place isPlace within => reaches.last place isPlace (by omega)⟩
      rw [toBoundary, loop_eq, if_neg (mt Text.charsWithin?_isSome_iff.mp boundary),
        sub_of_le (by omega)]
      exact ih further further.atMost

variable {source : String} {search : Array Nat → Nat → Except Nat Nat}

theorem toArray_lineStarts (source : String) :
    (lineStarts source.toList).toArray = (LineIndex.ofSource source).starts :=
  Array.toList_inj.mp (LineIndex.startsFrom_splitLines 0 source.toList).symm

theorem ascending_starts (source : String) :
    (LineIndex.ofSource source).starts.toList.Pairwise (· < ·) := by
  rw [← toArray_lineStarts]
  exact List.pairwise_cons.mpr
    ⟨fun place => Text.lt_of_mem_feedStops, Text.feedStops_ascending 0 source.toList⟩

/-- The lookup of a line rests at the one that a place is on, whichever way of searching is used. -/
theorem lineOf_of_upTo {after part : List Char} {lines : List (List Char)}
    (searches : Sorted.Searches search) (upTo : LineIndex.UpTo before lines part)
    (split : source.toList = before ++ after) :
    lineOf (search (LineIndex.ofSource source).starts (Text.byteLength before)) =
      some lines.length := by
  obtain ⟨start, first, atLine, _, place, line⟩ := LineIndex.line_of_upTo upTo split
  have ascending := ascending_starts source
  obtain ⟨_, _, above⟩ := Sorted.lastAtMost_spec ascending (Text.byteLength before)
  have next : ∀ other, (LineIndex.ofSource source).starts[lines.length + 1]? = some other →
      Text.byteLength before < other := fun other => above _ other (by omega)
  rw [(searches _ ascending).eq_of_between ascending atLine (by omega) next]
  split
  · rfl
  · rfl

/-- No index falls below zero, none is out of range and no cut falls inside a character. The source
has to be small enough for its lines and columns to be counted. -/
theorem positionAt_eq (size : source.utf8ByteSize < Position.maxCount)
    (searches : Sorted.Searches search) (offset : Nat) :
    positionAt search source.toList offset =
      some ((LineIndex.ofSource source).positionAt offset) := by
  obtain ⟨before, reaches⟩ := Text.exists_reaches source.toList (min offset source.utf8ByteSize)
  obtain ⟨after, split⟩ := reaches.front
  obtain ⟨lines, part, upTo⟩ := LineIndex.exists_upTo before
  obtain ⟨start, first, atLine, _, place, _⟩ := LineIndex.line_of_upTo upTo split.symm
  have starts := toArray_lineStarts source
  have line := lineOf_of_upTo searches upTo split.symm
  have atLine : (lineStarts source.toList)[lines.length]? = some start := by
    rw [← starts, List.getElem?_toArray] at atLine
    exact atLine
  have cut : Text.slice? source.toList start (Text.byteLength before) = some part := by
    have atStart : start = Text.byteLength (lines.flatMap (· ++ ['\n'])) := by
      rw [upTo.text, Text.byteLength_append] at place
      omega
    rw [← split, atStart, upTo.text]
    exact Text.slice?_append _ _ _
  have length := upTo.length_le
  rw [LineIndex.positionAt_of_reaches reaches, LineIndex.positionAt_of_upTo upTo split.symm,
    positionAt, Text.byteLength_toList, toBoundary_eq reaches]
  simp only [Option.bind_eq_bind, Option.bind_some, starts, line, atLine, cut]
  have short := reaches.length_lt size
  rw [Nat.mod_eq_of_lt (by omega), Nat.mod_eq_of_lt (by omega)]
  rfl

end Guarded

namespace LineIndex

/-- The position looked up for a byte offset is the one that a walk through the text reaches at the
last character boundary that is not behind the offset, and a later offset has a later position. The
offset may be inside a character or behind the end of the text, and nothing is assumed of the search
but that it answers rightly. -/
theorem advanceText?_eq_positionAt {source : String}
    (size : source.utf8ByteSize < Position.maxCount) (offset : Nat) :
    (∃ before after, source.toList = before ++ after ∧
      IsGreatest {place | Text.IsBoundary source.toList place ∧
        place ≤ min offset source.utf8ByteSize} (Text.byteLength before) ∧
      Position.start.advanceText? before = some ((ofSource source).positionAt offset)) ∧
    (∀ search, Sorted.Searches search →
      Guarded.positionAt search source.toList offset = some ((ofSource source).positionAt offset)) ∧
    ∀ later, offset ≤ later →
      ((ofSource source).positionAt offset).Precedes ((ofSource source).positionAt later) ∧
        (((ofSource source).positionAt offset).compare
          ((ofSource source).positionAt later)).isLE = true := by
  refine ⟨?_, fun search searches => Guarded.positionAt_eq size searches offset, ?_⟩
  · obtain ⟨before, reaches⟩ := Text.exists_reaches source.toList (min offset source.utf8ByteSize)
    obtain ⟨after, split⟩ := reaches.front
    refine ⟨before, after, split.symm, ⟨⟨reaches.isBoundary, reaches.atMost⟩, ?_⟩,
      advanceText?_of_reaches size reaches⟩
    rintro place ⟨boundary, within⟩
    exact reaches.last place boundary within
  · intro later ordered
    have precedes := precedes_positionAt size ordered
    exact ⟨precedes, precedes.isLE_compare⟩

/-- An offset inside a character behind a line break stands for the start of its line. -/
theorem advanceText?_eq_positionAt_inside_character :
    let source := "a\r\né\nx"
    source.utf8ByteSize < Position.maxCount ∧ (ofSource source).positionAt 4 = ⟨3, 2, 1⟩ ∧
      (∃ before after, source.toList = before ++ after ∧ Text.byteLength before ≤ 4 ∧
        Position.start.advanceText? before = some ⟨3, 2, 1⟩) ∧
      Guarded.positionAt Sorted.search source.toList 4 = some ⟨3, 2, 1⟩ ∧
      ((ofSource source).positionAt 4).Precedes ((ofSource source).positionAt 99) := by
  intro source
  have size : source.utf8ByteSize < Position.maxCount := by decide
  have position : (ofSource source).positionAt 4 = ⟨3, 2, 1⟩ := by decide +kernel
  obtain ⟨⟨before, after, split, greatest, walk⟩, guarded, later⟩ :=
    advanceText?_eq_positionAt size 4
  have reached : Text.byteLength before ≤ 4 := Nat.le_trans greatest.1.2 (Nat.min_le_left _ _)
  have table := guarded _ Sorted.searches_search
  rw [position] at walk table
  exact ⟨size, position, ⟨before, after, split, reached, walk⟩, table, (later 99 (by decide)).1⟩

end LineIndex

end ProfileLexer
