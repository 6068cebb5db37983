import Mathlib.Data.List.DropRight
import ProfileLexer.Position.Lines
import ProfileLexer.Proofs.Sorted
import ProfileLexer.Proofs.Text.Boundary

/-!
Lines and columns. The position behind a first part of a source is found by its line breaks alone:
its line is one more than the line feeds in that part, and its column is counted from the last one.
-/

namespace ProfileLexer

namespace LineIndex

theorem splitLines_cons (c : Char) (text : List Char) :
    splitLines (c :: text) = putChar c (splitLines text) := rfl

/-- The first line of a text, which is empty only if the text is. Its line feed belongs to it. -/
theorem splitLines_eq_cons (text : List Char) :
    ∃ first more, splitLines text = first :: more ∧ (text ≠ [] → first ≠ []) ∧
      (first = [] → more = []) := by
  induction text with
  | nil => exact ⟨[], [], rfl, fun nonempty => absurd rfl nonempty, fun _ => rfl⟩
  | cons c text ih =>
    obtain ⟨first, more, split, _⟩ := ih
    rw [splitLines_cons, split, putChar]
    split
    · exact ⟨[c], first :: more, rfl, fun _ => by simp, fun empty => by simp at empty⟩
    · exact ⟨c :: first, more, rfl, fun _ => by simp, fun empty => by simp at empty⟩

/-- What holds no line feed stands in front of the first line. -/
theorem splitLines_append {part : List Char} (unbroken : '\n' ∉ part) {text first : List Char}
    {more : List (List Char)} (split : splitLines text = first :: more) :
    splitLines (part ++ text) = (part ++ first) :: more := by
  induction part with
  | nil => exact split
  | cons c part ih =>
    obtain ⟨other, rest⟩ := List.ne_and_not_mem_of_not_mem_cons unbroken
    have plain : (c == '\n') = false := beq_false_of_ne (Ne.symm other)
    rw [List.cons_append, splitLines_cons, ih rest, putChar, plain]
    rfl

theorem splitLines_of_break {line : List Char} (unbroken : '\n' ∉ line) (text : List Char) :
    splitLines (line ++ '\n' :: text) = (line ++ ['\n']) :: splitLines text := by
  refine splitLines_append unbroken ?_
  obtain ⟨first, more, split, _⟩ := splitLines_eq_cons text
  rw [splitLines_cons, split]
  rfl

/-- The lines in front of a place, and the part of its own line that is in front of it. The lines
are without their line feeds, and carriage returns are characters like others. -/
structure UpTo (before : List Char) (lines : List (List Char)) (part : List Char) : Prop where
  text : before = lines.flatMap (· ++ ['\n']) ++ part
  whole : ∀ line ∈ lines, '\n' ∉ line
  unbroken : '\n' ∉ part

theorem exists_upTo (before : List Char) : ∃ lines part, UpTo before lines part := by
  induction before with
  | nil => exact ⟨[], [], rfl, by simp, by simp⟩
  | cons c before ih =>
    obtain ⟨lines, part, text, whole, unbroken⟩ := ih
    by_cases feed : c = '\n'
    · exact ⟨[] :: lines, part, by simp [feed, text], by simpa using whole, unbroken⟩
    · cases lines with
      | nil =>
        exact ⟨[], c :: part, by simpa using text, by simp, by simp [Ne.symm feed, unbroken]⟩
      | cons line lines =>
        refine ⟨(c :: line) :: lines, part, by simp [text], ?_, unbroken⟩
        simpa [Ne.symm feed] using whole

namespace UpTo

variable {before part : List Char} {lines : List (List Char)}

theorem count (upTo : UpTo before lines part) : before.count '\n' = lines.length := by
  obtain ⟨rfl, whole, unbroken⟩ := upTo
  rw [List.count_append, List.count_eq_zero_of_not_mem unbroken, Nat.add_zero]
  induction lines with
  | nil => rfl
  | cons line lines ih =>
    have first := List.count_eq_zero_of_not_mem (whole line List.mem_cons_self)
    rw [List.flatMap_cons, List.count_append, List.count_append, first,
      ih fun other member => whole other (List.mem_cons_of_mem _ member), List.length_cons]
    simp [Nat.add_comm]

theorem splitLines_append (upTo : UpTo before lines part) {after first : List Char}
    {more : List (List Char)} (split : splitLines after = first :: more) :
    splitLines (before ++ after) = lines.map (· ++ ['\n']) ++ (part ++ first) :: more := by
  obtain ⟨rfl, whole, unbroken⟩ := upTo
  induction lines with
  | nil => exact LineIndex.splitLines_append unbroken split
  | cons line lines ih =>
    have rest := ih fun other member => whole other (List.mem_cons_of_mem _ member)
    rw [List.append_assoc] at rest ⊢
    rw [List.flatMap_cons, List.append_assoc, List.append_assoc, List.singleton_append,
      splitLines_of_break (whole line List.mem_cons_self), rest]
    rfl

end UpTo

/-- Every line starts behind the lines before it, by the count of bytes. -/
theorem startsFrom_eq (starts : Array Nat) (offset : Nat) (lines : List (List Char)) :
    startsFrom starts offset lines = starts ++ ((List.range lines.length).map fun i =>
      offset + Text.byteLength (lines.take i).flatten).toArray := by
  induction lines generalizing starts offset with
  | nil => simp [startsFrom]
  | cons line lines ih =>
    rw [startsFrom, ih, List.length_cons, List.range_succ_eq_map]
    simp [Function.comp_def, Nat.add_assoc]

theorem positionOn_append (line start counted : Nat) (part rest : List Char) :
    positionOn line (start + Text.byteLength part) start counted (part ++ rest) =
      ⟨start + Text.byteLength part, line, counted + part.length + 1⟩ := by
  induction part generalizing start counted with
  | nil =>
    cases rest with
    | nil => rfl
    | cons c rest =>
      have positive := c.utf8Size_pos
      have past : ¬ start + c.utf8Size ≤ start := by omega
      simp [positionOn, past]
  | cons c part ih =>
    have fits : start + c.utf8Size ≤ start + Text.byteLength (c :: part) := by
      rw [Text.byteLength_cons]
      omega
    have offset : start + Text.byteLength (c :: part) =
        start + c.utf8Size + Text.byteLength part := by
      rw [Text.byteLength_cons, Nat.add_assoc]
    rw [List.cons_append, positionOn, if_pos fits, offset, ih, List.length_cons]
    congr 1
    omega

theorem byteLength_flatten_take_mono (lines : List (List Char)) {i j : Nat} (ordered : i ≤ j) :
    Text.byteLength (lines.take i).flatten ≤ Text.byteLength (lines.take j).flatten := by
  have front : lines.take i = (lines.take j).take i := by
    rw [List.take_take, Nat.min_eq_left ordered]
  have rest := congrArg List.flatten (List.take_append_drop i (lines.take j))
  rw [List.flatten_append] at rest
  rw [front, ← rest, Text.byteLength_append]
  omega

variable {source : String} {before after part : List Char} {lines : List (List Char)}

theorem starts_ofSource {i start : Nat} (found : (ofSource source).starts[i]? = some start) :
    i < (splitLines source.toList).length ∧
      start = Text.byteLength ((splitLines source.toList).take i).flatten := by
  have starts : (ofSource source).starts = _ := startsFrom_eq #[] 0 (splitLines source.toList)
  rw [starts] at found
  simp only [Array.empty_append, List.getElem?_toArray, List.getElem?_map, Nat.zero_add] at found
  obtain ⟨index, atIndex, rfl⟩ := Option.map_eq_some_iff.mp found
  obtain ⟨within, same⟩ := List.getElem?_eq_some_iff.mp atIndex
  rw [List.getElem_range] at same
  subst same
  exact ⟨by simpa using within, rfl⟩

/-- The line of a place starts behind the lines in front of it, and it is the one that the search
among the starts comes to. -/
theorem line_of_upTo (upTo : UpTo before lines part) (split : source.toList = before ++ after) :
    ∃ start first, (ofSource source).starts[lines.length]? = some start ∧
      (ofSource source).lines[lines.length]? = some (part ++ first) ∧
      Text.byteLength before = start + Text.byteLength part ∧
      Sorted.lastAtMost (ofSource source).starts (Text.byteLength before) = lines.length := by
  obtain ⟨first, more, next, _, last⟩ := splitLines_eq_cons after
  have all : splitLines source.toList = lines.map (· ++ ['\n']) ++ (part ++ first) :: more := by
    rw [split]
    exact upTo.splitLines_append next
  have within : lines.length < (splitLines source.toList).length := by simp [all]
  have front : (splitLines source.toList).take lines.length = lines.map (· ++ ['\n']) := by
    rw [all, List.take_left' (List.length_map ..)]
  have withOwn : (splitLines source.toList).take (lines.length + 1) =
      lines.map (· ++ ['\n']) ++ [part ++ first] := by
    rw [all, List.take_append, List.length_map, List.take_of_length_le (by simp)]
    simp
  have size : Text.byteLength before =
      Text.byteLength ((splitLines source.toList).take lines.length).flatten +
        Text.byteLength part := by
    rw [front, upTo.text, Text.byteLength_append, List.flatMap_def]
  have keys : (ofSource source).starts.size = (splitLines source.toList).length := by
    have starts : (ofSource source).starts = _ := startsFrom_eq #[] 0 (splitLines source.toList)
    simp [starts]
  obtain ⟨start, atLine⟩ : ∃ start, (ofSource source).starts[lines.length]? = some start :=
    ⟨_, Array.getElem?_eq_getElem (by omega)⟩
  refine ⟨start, first, atLine, ?_, ?_, Sorted.lastAtMost_eq (by omega) ?_ ?_⟩
  · simp [ofSource, all]
  · rw [(starts_ofSource atLine).2, size]
  · intro i key ordered found
    have below := byteLength_flatten_take_mono (splitLines source.toList) ordered
    rw [(starts_ofSource found).2, size]
    omega
  · intro i key behind found
    obtain ⟨inside, same⟩ := starts_ofSource found
    have above := byteLength_flatten_take_mono (splitLines source.toList) behind
    rw [withOwn, List.flatten_append, List.flatten_singleton, Text.byteLength_append,
      Text.byteLength_append, ← front] at above
    -- There is a line behind the own one, so that one is not at its end yet.
    have some_left : first ≠ [] := by
      intro empty
      rw [all, last empty] at inside
      simp at inside
      omega
    have positive := Text.byteLength_pos some_left
    omega

/-- The position behind a first part of a source. Columns count characters, offsets count bytes. -/
theorem positionAt_of_upTo (upTo : UpTo before lines part) (split : source.toList = before ++ after) :
    (ofSource source).positionAt (Text.byteLength before) =
      ⟨Text.byteLength before, lines.length + 1, part.length + 1⟩ := by
  obtain ⟨start, first, atLine, own, size, line⟩ := line_of_upTo upTo split
  have inside : min (Text.byteLength before) (ofSource source).size = Text.byteLength before := by
    have whole : (ofSource source).size = Text.byteLength (before ++ after) := by
      rw [← split, Text.byteLength_toList]
      rfl
    rw [whole, Text.byteLength_append]
    omega
  have position := positionOn_append (lines.length + 1) start 0 part first
  simp only [positionAt, inside, line, Array.getD_eq_getD_getElem?, atLine, own, Option.getD_some]
  rw [size, position, Nat.zero_add]

/-- The text of the line that a place is on, the part behind the place included. -/
theorem lineText?_of_upTo (upTo : UpTo before lines part) (split : source.toList = before ++ after)
    {first : List Char} {more : List (List Char)} (next : splitLines after = first :: more) :
    (ofSource source).lineText? (lines.length + 1) = some (stripBreak (part ++ first)) := by
  have all : splitLines source.toList = lines.map (· ++ ['\n']) ++ (part ++ first) :: more := by
    rw [split]
    exact upTo.splitLines_append next
  simp [lineText?, ofSource, all]

/-- A line loses the carriage returns at its end along with its line feed, however many there
are. -/
theorem stripBreak_of_break (line : List Char) :
    stripBreak (line ++ ['\n']) = line.rdropWhile (· == '\r') := by
  simp [stripBreak, List.rdropWhile]

/-- What is left of a line ends in front of a place exactly when only carriage returns follow there
and one is in front. The place may be the end of the line. -/
theorem length_rdropWhile_lt {part body : List Char} :
    ((part ++ body).rdropWhile (· == '\r')).length < part.length ↔
      (∀ c ∈ body, c = '\r') ∧ part.getLast? = some '\r' := by
  have returns : body.reverse.dropWhile (· == '\r') = [] ↔ ∀ c ∈ body, c = '\r' := by
    simp [List.dropWhile_eq_nil_iff]
  rw [List.rdropWhile, List.length_reverse, List.reverse_append, List.dropWhile_append]
  by_cases all : ∀ c ∈ body, c = '\r'
  · rw [returns.mpr all, List.isEmpty_nil, if_pos rfl]
    rcases List.eq_nil_or_concat part with rfl | ⟨front, last, rfl⟩
    · simp
    · rw [List.concat_eq_append, List.reverse_append, List.reverse_singleton, List.singleton_append,
        List.dropWhile_cons, List.getLast?_concat, List.length_append, List.length_singleton]
      have shorter := (List.dropWhile_sublist (· == '\r') (l := front.reverse)).length_le
      rw [List.length_reverse] at shorter
      by_cases back : last = '\r'
      · simp only [back, beq_self_eq_true, if_true]
        exact ⟨fun _ => ⟨all, trivial⟩, fun _ => by omega⟩
      · simp [back]
  · have kept : body.reverse.dropWhile (· == '\r') ≠ [] := fun empty => all (returns.mp empty)
    rw [List.isEmpty_eq_false_iff.mpr kept, if_neg Bool.false_ne_true, List.length_append,
      List.length_reverse]
    exact ⟨fun shorter => by omega, fun both => absurd both.1 all⟩

theorem caretCount?_eq_none {span : Span} {line : List Char} :
    caretCount? span line = none ↔
      span.start.line ≠ span.stop.line ∧ line.length + 1 < span.start.column := by
  rw [caretCount?]
  split
  · simp [*]
  · split
    · simp only [reduceCtorEq, false_iff]
      omega
    · simp only [true_iff]
      omega

theorem UpTo.getLast?_eq_return (upTo : UpTo before lines part) :
    part.getLast? = some '\r' ↔ before.getLast? = some '\r' := by
  rw [upTo.text, List.getLast?_append]
  cases part.getLast? with
  | some c => rfl
  | none =>
    rcases List.eq_nil_or_concat lines with rfl | ⟨front, last, rfl⟩
    · rfl
    · simp

theorem forall_eq_return_iff {body rest : List Char} (unbroken : '\n' ∉ body) :
    (∀ c ∈ body, c = '\r') ↔ ∃ returns more,
      body ++ '\n' :: rest = List.replicate returns '\r' ++ '\n' :: more := by
  constructor
  · intro all
    exact ⟨body.length, rest, by rw [← List.eq_replicate_iff.mpr ⟨rfl, all⟩]⟩
  · rintro ⟨returns, more, same⟩
    have plain : ∀ c ∈ body, (c != '\n') = true := by
      intro c member
      simpa using ne_of_mem_of_not_mem member unbroken
    have returned : ∀ c ∈ List.replicate returns '\r', (c != '\n') = true := by
      intro c member
      rw [List.eq_of_mem_replicate member]
      rfl
    have front := congrArg (List.takeWhile (· != '\n')) same
    rw [List.takeWhile_append_of_pos plain, List.takeWhile_append_of_pos returned,
      List.takeWhile_cons_of_neg (by simp), List.takeWhile_cons_of_neg (by simp), List.append_nil,
      List.append_nil] at front
    rw [front]
    exact fun c member => List.eq_of_mem_replicate member

/-- A snippet can not be made of just those texts that start behind a carriage return, with a line
feed or with other carriage returns before one. Everything else can be shown, also a text over
several lines. -/
theorem snippet?_eq_none {text : List Char} (split : source.toList = before ++ (text ++ after))
    (message : String) :
    (ofSource source).snippet? ((ofSource source).spanOf (Text.byteLength before)
        (Text.byteLength text)) message = none ↔
      before.getLast? = some '\r' ∧ ∃ returns more,
        text = List.replicate returns '\r' ++ '\n' :: more := by
  obtain ⟨lines, part, upTo⟩ := exists_upTo before
  obtain ⟨further, rest, beyond⟩ := exists_upTo (before ++ text)
  have start := positionAt_of_upTo upTo split
  have through : source.toList = before ++ text ++ after := by rw [split, List.append_assoc]
  have stop := positionAt_of_upTo beyond through
  rw [Text.byteLength_append] at stop
  have count : further.length = lines.length + text.count '\n' := by
    rw [← beyond.count, List.count_append, upTo.count]
  obtain ⟨first, more, next, _⟩ := splitLines_eq_cons (text ++ after)
  have line := lineText?_of_upTo upTo split next
  simp only [snippet?, spanOf, start, stop, line, Option.map_eq_none_iff, caretCount?_eq_none]
  by_cases broken : '\n' ∈ text
  · obtain ⟨body, tail, rfl, unbroken⟩ := List.eq_append_cons_of_mem broken
    rw [List.append_assoc, List.cons_append, splitLines_of_break unbroken] at next
    obtain ⟨rfl, rfl⟩ := List.cons.inj next
    have apart : lines.length + 1 ≠ further.length + 1 := by
      have positive := List.count_pos_iff.mpr broken
      omega
    rw [← List.append_assoc, stripBreak_of_break, ← forall_eq_return_iff unbroken,
      ← upTo.getLast?_eq_return, and_comm (b := ∀ c ∈ body, c = '\r'), ← length_rdropWhile_lt]
    simp only [ne_eq, apart, not_false_eq_true, true_and]
    omega
  · have same : further.length = lines.length := by
      rw [count, List.count_eq_zero_of_not_mem broken, Nat.add_zero]
    refine ⟨fun ⟨apart, _⟩ => absurd (congrArg (· + 1) same.symm) apart, ?_⟩
    rintro ⟨_, returns, more, rfl⟩
    exact absurd (by simp) broken

end LineIndex

end ProfileLexer
