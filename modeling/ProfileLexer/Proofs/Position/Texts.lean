import ProfileLexer.Proofs.Position.Lookup

/-!
The texts of lines. A line loses its line feed and all carriage returns at its end, so a source is
put together again from the texts of its lines and from breaks with just as many carriage returns.
-/

namespace ProfileLexer

namespace LineIndex

def returnCount (line : List Char) : Nat :=
  (line.rtakeWhile (· == '\r')).length

/-- A line with another number of carriage returns at its end. -/
def withReturns (line : List Char) (count : Nat) : List Char :=
  line.rdropWhile (· == '\r') ++ List.replicate count '\r'

/-- The breaks behind lines, each of so many carriage returns and a line feed, and the carriage
returns behind the last line. There may be none of them. -/
def breaksOf (counts : List Nat) (last : Nat) : List (List Char) :=
  counts.map (fun count => List.replicate count '\r' ++ ['\n']) ++ [List.replicate last '\r']

/-- Breaks of a line feed, with or without one carriage return, and nothing behind the last line.
Both sorts may occur in one source. -/
structure PlainBreaks (breaks : List (List Char)) : Prop where
  between : ∀ lineBreak ∈ breaks.dropLast, lineBreak = ['\n'] ∨ lineBreak = ['\r', '\n']
  behind : breaks.getLast? = some []

/-- The texts of the lines of a source, with one break behind each, are the source. The breaks are
arbitrary texts as far as this goes. -/
def Restores (source : String) (breaks : List (List Char)) : Prop :=
  ∃ texts, texts.map some =
      (List.range' 1 (ofSource source).lineCount).map (ofSource source).lineText? ∧
    texts.length = breaks.length ∧ (List.zipWith (· ++ ·) texts breaks).flatten = source.toList

variable {source : String} {before after part line text other : List Char}
variable {lines others : List (List Char)} {counts : List Nat} {count last : Nat}

theorem replicate_suffix_iff :
    List.replicate count '\r' <:+ line ↔ count ≤ returnCount line := by
  induction line using List.reverseRecOn generalizing count with
  | nil => simp [returnCount]
  | append_singleton line c ih =>
    cases count with
    | zero => simp
    | succ count =>
      rw [List.replicate_succ', List.suffix_concat_iff]
      by_cases back : c = '\r'
      · subst back
        simp [returnCount, ih]
      · simp [returnCount, back, Ne.symm back]

theorem returnCount_eq_zero_iff : returnCount line = 0 ↔ line.getLast? ≠ some '\r' := by
  have one : ['\r'] <:+ line ↔ 1 ≤ returnCount line := @replicate_suffix_iff line 1
  have back : line.getLast? = some '\r' ↔ ['\r'] <:+ line := by
    rw [List.getLast?_eq_some_iff]
    exact exists_congr fun front => eq_comm
  rw [ne_eq, back, one]
  omega

theorem withReturns_eq_self_iff : withReturns line count = line ↔ count = returnCount line := by
  have whole := List.rdropWhile_append_rtakeWhile (p := (· == '\r')) (l := line)
  have same : List.replicate (returnCount line) '\r' = line.rtakeWhile (· == '\r') := by
    refine (List.eq_replicate_iff.mpr ⟨rfl, fun c member => ?_⟩).symm
    exact beq_iff_eq.mp (List.mem_rtakeWhile_imp (p := (· == '\r')) member)
  constructor
  · intro given
    have back := List.append_cancel_left (given.trans whole.symm)
    rw [returnCount, ← back, List.length_replicate]
  · rintro rfl
    rw [withReturns, same, whole]

theorem withReturns_unbroken (unbroken : '\n' ∉ line) : '\n' ∉ withReturns line count := by
  have front := (List.rdropWhile_prefix (· == '\r') line).subset
  simp only [withReturns, List.mem_append, List.mem_replicate, not_or]
  exact ⟨fun member => unbroken (front member), by simp⟩

theorem zipWith_withReturns_eq_self_iff (length : lines.length = counts.length) :
    List.zipWith withReturns lines counts = lines ↔ counts = lines.map returnCount := by
  induction lines generalizing counts with
  | nil => simp [List.length_eq_zero_iff.mp length.symm]
  | cons line lines ih =>
    obtain ⟨count, rest, rfl⟩ := List.exists_cons_of_length_eq_add_one length.symm
    rw [List.zipWith_cons_cons, List.cons.injEq, withReturns_eq_self_iff,
      ih (Nat.succ.inj length), List.map_cons, List.cons.injEq]

theorem plainBreaks_iff {breaks : List (List Char)} :
    PlainBreaks breaks ↔ ∃ counts, (∀ count ∈ counts, count ≤ 1) ∧ breaks = breaksOf counts 0 := by
  constructor
  · rintro ⟨between, behind⟩
    obtain ⟨inner, rfl⟩ := List.getLast?_eq_some_iff.mp behind
    rw [List.dropLast_concat] at between
    refine ⟨inner.map (·.count '\r'), ?_, ?_⟩
    · intro count member
      obtain ⟨lineBreak, inside, rfl⟩ := List.mem_map.mp member
      rcases between lineBreak inside with rfl | rfl
      · decide
      · decide
    · rw [breaksOf, List.map_map, List.map_congr_left (g := id), List.map_id, List.replicate_zero]
      intro lineBreak inside
      rcases between lineBreak inside with rfl | rfl
      · rfl
      · rfl
  · rintro ⟨counts, small, rfl⟩
    refine ⟨?_, by simp [breaksOf]⟩
    rw [breaksOf, List.dropLast_concat]
    intro lineBreak member
    obtain ⟨count, inside, rfl⟩ := List.mem_map.mp member
    match count, small count inside with
    | 0, _ => exact .inl rfl
    | 1, _ => exact .inr rfl

theorem UpTo.splitLines_eq (upTo : UpTo before lines part) :
    splitLines before = lines.map (· ++ ['\n']) ++ [part] := by
  have nothing : splitLines [] = [[]] := rfl
  have whole := upTo.splitLines_append nothing
  rwa [List.append_nil, List.append_nil] at whole

/-- A text has its lines and its last part in one way only. -/
theorem UpTo.unique (first : UpTo before lines part) (second : UpTo before others other) :
    lines = others ∧ part = other := by
  have same := first.splitLines_eq.symm.trans second.splitLines_eq
  obtain ⟨front, back⟩ := List.append_inj' same rfl
  exact ⟨List.map_injective_iff.mpr (List.append_left_injective ['\n']) front,
    List.head_eq_of_cons_eq back⟩

/-- Lines behind a line feed are lines of the whole text. In the middle of a line they would not
be. -/
theorem UpTo.append (first : UpTo before lines []) (second : UpTo after others part) :
    UpTo (before ++ after) (lines ++ others) part := by
  obtain ⟨rfl, whole, _⟩ := first
  obtain ⟨rfl, whole', unbroken⟩ := second
  exact ⟨by simp, List.forall_mem_append.mpr ⟨whole, whole'⟩, unbroken⟩

/-- A line that ends with two carriage returns shows as those and a line feed. The last part has no
line feed and does not count. -/
theorem UpTo.infix_iff (upTo : UpTo text lines part) :
    ['\r', '\r', '\n'] <:+: text ↔ ∃ line ∈ lines, 1 < returnCount line := by
  have two (line : List Char) : ['\r', '\r'] <:+ line ↔ 1 < returnCount line :=
    @replicate_suffix_iff line 2
  simp only [← two]
  constructor
  · rintro ⟨before, after, rfl⟩
    obtain ⟨front, start, first⟩ := exists_upTo before
    obtain ⟨back, stop, second⟩ := exists_upTo after
    -- The two carriage returns are on one line, and the line feed behind them ends it.
    have through := (((first.concat '\r').concat '\r').concat '\n').append second
    simp only [List.append_assoc, List.cons_append, List.nil_append] at through upTo
    rw [(upTo.unique through).1]
    exact ⟨start ++ ['\r', '\r'], by simp, List.suffix_append _ _⟩
  · rintro ⟨line, member, front, rfl⟩
    obtain ⟨earlier, later, rfl⟩ := List.append_of_mem member
    rw [upTo.text]
    exact ⟨earlier.flatMap (· ++ ['\n']) ++ front, later.flatMap (· ++ ['\n']) ++ part, by simp⟩

theorem stripBreak_of_unbroken (unbroken : '\n' ∉ line) :
    stripBreak line = line.rdropWhile (· == '\r') := by
  have back : line.reverse.head? ≠ some '\n' := by
    rw [List.head?_reverse]
    exact fun feed => unbroken (List.mem_of_getLast? feed)
  rw [stripBreak, if_neg back, List.rdropWhile]

theorem lineCount_of_upTo (upTo : UpTo source.toList lines part) :
    (ofSource source).lineCount = lines.length + 1 := by
  rw [lineCount, size_starts]
  simp [ofSource, upTo.splitLines_eq]

/-- The text of a line is all of it but the carriage returns at its end. The last line is no
exception, though no break follows it. -/
theorem lineText?_succ (upTo : UpTo source.toList lines part) (i : Nat) :
    (ofSource source).lineText? (i + 1) =
      (lines ++ [part])[i]?.map (List.rdropWhile (· == '\r')) := by
  have stripped : stripBreak ∘ (· ++ ['\n']) = List.rdropWhile (· == '\r') :=
    funext stripBreak_of_break
  have row : (ofSource source).lineText? (i + 1) =
      ((lines.map (· ++ ['\n']) ++ [part]).map stripBreak)[i]? := by
    rw [List.getElem?_map, ← upTo.splitLines_eq]
    simp [lineText?, ofSource]
  rw [row, List.map_append, List.map_map, stripped, List.map_singleton,
    stripBreak_of_unbroken upTo.unbroken, ← List.map_singleton, ← List.map_append,
    List.getElem?_map]

theorem lineText?_eq_none_iff (number : Nat) :
    (ofSource source).lineText? number = none ↔
      number = 0 ∨ (ofSource source).lineCount < number := by
  obtain ⟨lines, part, upTo⟩ := exists_upTo source.toList
  rw [lineCount_of_upTo upTo]
  cases number with
  | zero => simp [lineText?]
  | succ i =>
    rw [lineText?_succ upTo, Option.map_eq_none_iff, List.getElem?_eq_none_iff,
      List.length_append, List.length_singleton]
    omega

/-- No text of a line holds a line feed or ends with a carriage return. It may hold others further
in front. -/
theorem unbroken_of_lineText? {number : Nat}
    (found : (ofSource source).lineText? number = some text) :
    '\n' ∉ text ∧ text.getLast? ≠ some '\r' := by
  obtain ⟨lines, part, upTo⟩ := exists_upTo source.toList
  cases number with
  | zero => cases found
  | succ i =>
    rw [lineText?_succ upTo] at found
    obtain ⟨line, atIndex, rfl⟩ := Option.map_eq_some_iff.mp found
    have member := List.mem_of_getElem? atIndex
    have unbroken : ∀ line ∈ lines ++ [part], '\n' ∉ line :=
      List.forall_mem_append.mpr ⟨upTo.whole, by simpa using upTo.unbroken⟩
    have front := (List.rdropWhile_prefix (· == '\r') line).subset
    refine ⟨fun feed => unbroken line member (front feed), fun back => ?_⟩
    have nonempty : line.rdropWhile (· == '\r') ≠ [] := by
      rintro empty
      rw [empty] at back
      cases back
    have kept := List.rdropWhile_last_not (· == '\r') line nonempty
    rw [List.getLast?_eq_some_getLast nonempty] at back
    exact kept (beq_iff_eq.mpr (Option.some.inj back))

theorem map_lineText? (upTo : UpTo source.toList lines part) :
    (List.range' 1 (ofSource source).lineCount).map (ofSource source).lineText? =
      ((lines ++ [part]).map (List.rdropWhile (· == '\r'))).map some := by
  refine List.ext_getElem (by simp [lineCount_of_upTo upTo]) fun i _ within => ?_
  rw [List.getElem_map, List.getElem_range', Nat.one_mul, Nat.add_comm, lineText?_succ upTo,
    List.getElem_map, List.getElem_map, List.getElem?_eq_getElem (by simpa using within),
    Option.map_some]

/-- Texts and breaks give lines with other numbers of carriage returns at their ends, and all else
as it was. -/
theorem flatten_zipWith_breaksOf (length : lines.length = counts.length) :
    (List.zipWith (· ++ ·) ((lines ++ [part]).map (List.rdropWhile (· == '\r')))
        (breaksOf counts last)).flatten =
      (List.zipWith withReturns lines counts).flatMap (· ++ ['\n']) ++ withReturns part last := by
  rw [breaksOf, List.map_append, List.zipWith_append (by simpa using length), List.flatten_append]
  congr 1
  · rw [List.zipWith_map, List.flatMap_def, List.map_zipWith]
    simp [withReturns]
  · simp [withReturns]

/-- A source is put together again by the breaks that hold the carriage returns at the ends of its
lines, and by no other numbers of them. This is what uniqueness rests on. -/
theorem restores_breaksOf_iff (upTo : UpTo source.toList lines part) :
    Restores source (breaksOf counts last) ↔
      counts = lines.map returnCount ∧ last = returnCount part := by
  have texts (given : List (List Char)) : given.map some =
      (List.range' 1 (ofSource source).lineCount).map (ofSource source).lineText? ↔
        given = (lines ++ [part]).map (List.rdropWhile (· == '\r')) := by
    rw [map_lineText? upTo, (List.map_injective_iff.mpr (Option.some_injective _)).eq_iff]
  have size : (breaksOf counts last).length = counts.length + 1 := by simp [breaksOf]
  simp only [Restores, texts, exists_eq_left, size, List.length_map, List.length_append,
    List.length_singleton, Nat.add_right_cancel_iff]
  constructor
  · rintro ⟨length, joined⟩
    rw [flatten_zipWith_breaksOf length] at joined
    -- What the texts give with the breaks are lines again, and a source has its lines in one way.
    have rows : UpTo source.toList (List.zipWith withReturns lines counts)
        (withReturns part last) := by
      refine ⟨joined.symm, fun row member => ?_, withReturns_unbroken upTo.unbroken⟩
      obtain ⟨i, within, rfl⟩ := List.getElem_of_mem member
      rw [List.getElem_zipWith]
      exact withReturns_unbroken (upTo.whole _ (List.getElem_mem _))
    obtain ⟨same, same'⟩ := rows.unique upTo
    exact ⟨(zipWith_withReturns_eq_self_iff length).mp same, withReturns_eq_self_iff.mp same'⟩
  · rintro ⟨rfl, rfl⟩
    have length : lines.length = (lines.map returnCount).length := by simp
    refine ⟨length, ?_⟩
    rw [flatten_zipWith_breaksOf length, (zipWith_withReturns_eq_self_iff length).mpr rfl,
      withReturns_eq_self_iff.mpr rfl, upTo.text]

/-- Plain breaks are enough for lines that end with one carriage return at most, if the last part
ends with none. -/
theorem exists_plainBreaks_of_upTo (upTo : UpTo source.toList lines part) :
    (∃ breaks, PlainBreaks breaks ∧ Restores source breaks) ↔
      (∀ line ∈ lines, returnCount line ≤ 1) ∧ returnCount part = 0 := by
  constructor
  · rintro ⟨breaks, isPlain, restores⟩
    obtain ⟨counts, small, rfl⟩ := plainBreaks_iff.mp isPlain
    obtain ⟨rfl, nothing⟩ := (restores_breaksOf_iff upTo).mp restores
    exact ⟨List.forall_mem_map.mp small, nothing.symm⟩
  · rintro ⟨small, nothing⟩
    refine ⟨breaksOf (lines.map returnCount) 0, plainBreaks_iff.mpr ⟨_, ?_, rfl⟩, ?_⟩
    · exact List.forall_mem_map.mpr small
    · exact (restores_breaksOf_iff upTo).mpr ⟨rfl, nothing.symm⟩

/-- Plain breaks are enough just where no break has a second carriage return and the source does not
end with one. The condition is on the source alone. -/
theorem exists_plainBreaks_iff :
    (∃ breaks, PlainBreaks breaks ∧ Restores source breaks) ↔
      ¬ ['\r', '\r', '\n'] <:+: source.toList ∧ source.toList.getLast? ≠ some '\r' := by
  obtain ⟨lines, part, upTo⟩ := exists_upTo source.toList
  rw [exists_plainBreaks_of_upTo upTo, returnCount_eq_zero_iff, ne_eq, upTo.getLast?_eq_return,
    upTo.infix_iff]
  simp only [not_exists, not_and, Nat.not_lt, ne_eq]

end LineIndex

namespace Guarded

/-- Where the line in front of the one at an index ends: in front of the line feed between them, or
at the end of the text. The carriage returns in front of the line feed are still part of it. -/
def lineStop (text : List Char) (index : Nat) : Guarded Nat :=
  match (lineStarts text)[index]? with
  | some next => sub next 1
  | none => some (Text.byteLength text)

/-- The text of a line, counted from one, cut out between its start and the next one. The carriage
returns at its end are dropped from it. -/
def lineText (text : List Char) : Nat → Guarded (Option (List Char))
  | 0 => some none
  | index + 1 =>
    match (lineStarts text)[index]? with
    | none => some none
    | some start => do
      let stop ← lineStop text (index + 1)
      let line ← Text.slice? text start stop
      return some (line.rdropWhile (· == '\r'))

variable {source : String} {before after part line : List Char} {lines : List (List Char)}

theorem lineStarts_of_upTo (upTo : LineIndex.UpTo before lines [])
    (split : source.toList = before ++ after) :
    (lineStarts source.toList)[lines.length]? = some (Text.byteLength before) := by
  obtain ⟨start, _, atLine, _, place, _⟩ := LineIndex.line_of_upTo upTo split
  rw [← toArray_lineStarts, List.getElem?_toArray] at atLine
  rw [atLine, place]
  rfl

theorem lineStarts_eq_none_iff (upTo : LineIndex.UpTo source.toList lines part) {index : Nat} :
    (lineStarts source.toList)[index]? = none ↔ lines.length < index := by
  have count := LineIndex.lineCount_of_upTo upTo
  rw [LineIndex.lineCount, ← toArray_lineStarts, List.size_toArray] at count
  rw [List.getElem?_eq_none_iff, count]
  exact Nat.lt_iff_add_one_le.symm

/-- A line ends in front of its line feed, or at the end of the text, and never in front of its
start. -/
theorem lineStop_of_upTo (upTo : LineIndex.UpTo before lines [])
    (split : source.toList = before ++ line ++ after) (unbroken : '\n' ∉ line)
    (ends : after = [] ∨ after.head? = some '\n') :
    lineStop source.toList (lines.length + 1) = some (Text.byteLength (before ++ line)) := by
  have own : LineIndex.UpTo (before ++ line) lines line :=
    ⟨by rw [upTo.text, List.append_nil], upTo.whole, unbroken⟩
  rcases ends with rfl | feed
  · rw [List.append_nil] at split
    have nothing := (lineStarts_eq_none_iff (split ▸ own)).mpr (Nat.lt_succ_self _)
    rw [lineStop, nothing, split]
  · obtain ⟨rest, rfl⟩ := List.head?_eq_some_iff.mp feed
    have further : source.toList = before ++ line ++ ['\n'] ++ rest := by simpa using split
    have next := lineStarts_of_upTo (own.concat '\n') further
    rw [beq_self_eq_true, if_pos rfl, List.length_append, List.length_singleton,
      Text.byteLength_append, Text.byteLength_cons, Text.byteLength_nil] at next
    rw [lineStop, next]
    exact sub_of_le (Nat.le_add_left _ _)

theorem lineText_of_upTo (upTo : LineIndex.UpTo before lines [])
    (split : source.toList = before ++ line ++ after) (unbroken : '\n' ∉ line)
    (ends : after = [] ∨ after.head? = some '\n') :
    lineText source.toList (lines.length + 1) = some (some (line.rdropWhile (· == '\r'))) := by
  have start := lineStarts_of_upTo upTo (by rw [split, List.append_assoc])
  have cut : Text.slice? source.toList (Text.byteLength before) (Text.byteLength (before ++ line)) =
      some line := by
    rw [split]
    exact Text.slice?_append before line after
  rw [lineText, start]
  simp only [lineStop_of_upTo upTo split unbroken ends, cut, Option.bind_eq_bind, Option.bind_some]
  rfl

/-- Every line is cut out at character boundaries, and no line ends in front of its start. The
number of the line may be any. -/
theorem lineText_eq (source : String) (number : Nat) :
    lineText source.toList number = some ((LineIndex.ofSource source).lineText? number) := by
  obtain ⟨lines, part, upTo⟩ := LineIndex.exists_upTo source.toList
  cases number with
  | zero => rfl
  | succ i =>
    rw [LineIndex.lineText?_succ upTo]
    rcases Nat.lt_trichotomy i lines.length with within | rfl | behind
    · obtain ⟨front, line, back, rfl, rfl⟩ :
          ∃ front line back, lines = front ++ line :: back ∧ front.length = i :=
        ⟨lines.take i, lines[i], lines.drop (i + 1), by simp, by simp; omega⟩
      have earlier : LineIndex.UpTo (front.flatMap (· ++ ['\n'])) front [] :=
        ⟨by simp, fun other member => upTo.whole other (by simp [member]), by simp⟩
      have split : source.toList = front.flatMap (· ++ ['\n']) ++ line ++
          '\n' :: (back.flatMap (· ++ ['\n']) ++ part) := by simp [upTo.text]
      rw [lineText_of_upTo earlier split (upTo.whole line (by simp)) (.inr rfl)]
      simp
    · have earlier : LineIndex.UpTo (lines.flatMap (· ++ ['\n'])) lines [] :=
        ⟨by simp, upTo.whole, by simp⟩
      have split : source.toList = lines.flatMap (· ++ ['\n']) ++ part ++ [] := by
        rw [List.append_nil, upTo.text]
      rw [lineText_of_upTo earlier split upTo.unbroken (.inl rfl)]
      simp
    · rw [lineText, (lineStarts_eq_none_iff upTo).mpr behind,
        List.getElem?_eq_none (by simpa using Nat.succ_le_of_lt behind)]
      rfl

end Guarded

namespace LineIndex

/-- A source is put together again from the texts of its lines and, in one way only, from breaks of
carriage returns and line feeds. Plain breaks are enough just where there is no second carriage
return in front of a line feed and none at the end. There is a text for each line and no other.
Nothing is assumed of the source. -/
theorem texts_of_source (source : String) :
    (∃! breaks : List Nat × Nat, Restores source (breaksOf breaks.1 breaks.2)) ∧
    ((∃ breaks, PlainBreaks breaks ∧ Restores source breaks) ↔
      ¬ ['\r', '\r', '\n'] <:+: source.toList ∧ source.toList.getLast? ≠ some '\r') ∧
    (∀ number, (ofSource source).lineText? number = none ↔
      number = 0 ∨ (ofSource source).lineCount < number) ∧
    (∀ number text, (ofSource source).lineText? number = some text →
      '\n' ∉ text ∧ text.getLast? ≠ some '\r') ∧
    ∀ number,
      Guarded.lineText source.toList number = some ((ofSource source).lineText? number) := by
  refine ⟨?_, exists_plainBreaks_iff, lineText?_eq_none_iff,
    fun _ _ found => unbroken_of_lineText? found, Guarded.lineText_eq source⟩
  obtain ⟨lines, part, upTo⟩ := exists_upTo source.toList
  refine ⟨(lines.map returnCount, returnCount part), ?_, ?_⟩
  · exact (restores_breaksOf_iff upTo).mpr ⟨rfl, rfl⟩
  · rintro ⟨counts, last⟩ restores
    obtain ⟨rfl, rfl⟩ := (restores_breaksOf_iff upTo).mp restores
    rfl

/-- A carriage return at the end of a source is lost although no line break is there. -/
theorem return_lost_at_end :
    (ofSource "a\r").lineCount = 1 ∧ (ofSource "a\r").lineText? 1 = some ['a'] ∧
      ¬ ∃ breaks, PlainBreaks breaks ∧ Restores "a\r" breaks := by
  refine ⟨by decide +kernel, by decide +kernel, ?_⟩
  rw [exists_plainBreaks_iff]
  exact fun plain => plain.2 (by decide +kernel)

end LineIndex

end ProfileLexer
