import ProfileLexer.Proofs.Guarded.Basic
import ProfileLexer.Proofs.Text.Boundary

/-!
Cursors that walk over the bytes of a text. A cursor that stands between two characters never fails.
-/

namespace ProfileLexer

namespace Text

/-- The text in front of a byte offset. There is none where the offset is inside a character or
behind the end. -/
def before? (text : List Char) (offset : Nat) : Guarded (List Char) :=
  slice? text 0 offset

/-- The text behind a byte offset, under the same conditions. -/
def behind? (text : List Char) (offset : Nat) : Guarded (List Char) :=
  slice? text offset (byteLength text)

@[simp] theorem before?_append (before after : List Char) :
    before? (before ++ after) (byteLength before) = some before := by
  have slice := slice?_append [] before after
  rwa [List.nil_append] at slice

@[simp] theorem behind?_append (before after : List Char) :
    behind? (before ++ after) (byteLength before) = some after := by
  have slice := slice?_append before after []
  rwa [List.append_nil] at slice

theorem before?_take (text : List Char) (n : Nat) :
    before? text (byteLength (text.take n)) = some (text.take n) := by
  have front := before?_append (text.take n) (text.drop n)
  rwa [List.take_append_drop] at front

theorem behind?_take (text : List Char) (n : Nat) :
    behind? text (byteLength (text.take n)) = some (text.drop n) := by
  have back := behind?_append (text.take n) (text.drop n)
  rwa [List.take_append_drop] at back

end Text

/-- A place in a text, in bytes. It need not be between two characters. -/
structure Cursor where
  text : List Char
  /-- The number of bytes passed. -/
  passed : Nat
  deriving DecidableEq, Repr, Inhabited

namespace Cursor

def ofText (text : List Char) : Cursor :=
  ⟨text, 0⟩

def remaining (cursor : Cursor) : Guarded (List Char) :=
  Text.behind? cursor.text cursor.passed

def atEnd (cursor : Cursor) : Bool :=
  Text.byteLength cursor.text ≤ cursor.passed

def peek (cursor : Cursor) : Guarded (Option Char) :=
  cursor.remaining.map List.head?

def peekNth (cursor : Cursor) (n : Nat) : Guarded (Option Char) :=
  cursor.remaining.map (·[n]?)

/-- A cursor that has passed some more bytes. Where they end is not looked at. -/
def advance (cursor : Cursor) (bytes : Nat) : Cursor :=
  { cursor with passed := cursor.passed + bytes }

def bump (cursor : Cursor) : Guarded (Option Char × Cursor) := do
  match ← cursor.peek with
  | some c => return (some c, cursor.advance c.utf8Size)
  | none => return (none, cursor)

/-- Passes some characters if they come next, and says whether they do. -/
def eat (cursor : Cursor) (pattern : List Char) : Guarded (Bool × Cursor) := do
  if pattern.isPrefixOf (← cursor.remaining) then
    return (true, cursor.advance (Text.byteLength pattern))
  else return (false, cursor)

/-- Passes some characters if they come next and are asked for. -/
def eatIf (cursor : Cursor) (asked : Bool) (pattern : List Char) : Guarded (Bool × Cursor) :=
  if asked then cursor.eat pattern else some (false, cursor)

def bumps (cursor : Cursor) : Nat → Guarded Cursor
  | 0 => return cursor
  | n + 1 => do
    let (_, cursor) ← cursor.bump
    cursor.bumps n

def skipRound (test : Char → Bool) (cursor : Cursor) : Guarded (Cursor ⊕ Cursor) := do
  match ← cursor.peek with
  | some c => return if test c then .inl (cursor.advance c.utf8Size) else .inr cursor
  | none => return .inr cursor

/-- Passes characters as long as they pass a test. That this comes to an end is not part of the
definition. -/
noncomputable def skipWhile (cursor : Cursor) (test : Char → Bool) : Guarded Cursor :=
  Guarded.loop (skipRound test) cursor

/-- Passes characters as long as they pass a test, and counts their bytes. -/
noncomputable def eatWhile (cursor : Cursor) (test : Char → Bool) : Guarded (Nat × Cursor) := do
  let stopped ← cursor.skipWhile test
  return (← Guarded.sub stopped.passed cursor.passed, stopped)

/-- The number of bytes passed, if there are any. -/
def finish (cursor : Cursor) : Option Nat :=
  if 0 < cursor.passed then some cursor.passed else none

/-- Whether the character behind the next `n` ones is a digit. -/
def digitAt (cursor : Cursor) (n : Nat) : Guarded Bool := do
  return ((← cursor.peekNth n).map Char.isDigit).getD false

/-- A cursor between two parts of a text, where none of its operations breaks off. -/
def between (before after : List Char) : Cursor :=
  ⟨before ++ after, Text.byteLength before⟩

variable (before after : List Char)

theorem ofText_eq (text : List Char) : ofText text = between [] text := rfl

@[simp] theorem passed_between : (between before after).passed = Text.byteLength before := rfl

@[simp] theorem remaining_between : (between before after).remaining = some after :=
  Text.behind?_append before after

@[simp] theorem atEnd_between : (between before after).atEnd = after.isEmpty := by
  rw [atEnd, between, Text.byteLength_append]
  cases after with
  | nil => simp
  | cons c after =>
    have positive := c.utf8Size_pos
    simp only [Text.byteLength_cons, List.isEmpty_cons, decide_eq_false_iff_not]
    omega

@[simp] theorem peek_between : (between before after).peek = some after.head? := by
  rw [peek, remaining_between, Option.map_some]

@[simp] theorem peekNth_between (n : Nat) : (between before after).peekNth n = some after[n]? := by
  rw [peekNth, remaining_between, Option.map_some]

/-- A cursor that passes some characters stands behind them, and again between two parts of the
text. -/
@[simp] theorem advance_append (pattern rest : List Char) :
    (between before (pattern ++ rest)).advance (Text.byteLength pattern) =
      between (before ++ pattern) rest := by
  simp [advance, between]

@[simp] theorem advance_cons (c : Char) (rest : List Char) :
    (between before (c :: rest)).advance c.utf8Size = between (before ++ [c]) rest := by
  simp [advance, between]

@[simp] theorem bump_nil : (between before []).bump = some (none, between before []) := by
  simp [bump]

@[simp] theorem bump_cons (c : Char) (rest : List Char) :
    (between before (c :: rest)).bump = some (some c, between (before ++ [c]) rest) := by
  simp [bump]

theorem eat_between (pattern : List Char) :
    (between before after).eat pattern =
      if pattern.isPrefixOf after then
        some (true, between (before ++ pattern) (after.drop pattern.length))
      else some (false, between before after) := by
  rw [eat, remaining_between]
  dsimp only [Option.bind_eq_bind, Option.bind_some]
  split
  · rename_i front
    obtain ⟨rest, rfl⟩ := List.isPrefixOf_iff_prefix.mp front
    rw [advance_append, List.drop_left]
    rfl
  · rfl

theorem eatIf_between (asked : Bool) (pattern : List Char) :
    (between before after).eatIf asked pattern =
      if asked && pattern.isPrefixOf after then
        some (true, between (before ++ pattern) (after.drop pattern.length))
      else some (false, between before after) := by
  rw [eatIf, eat_between]
  cases asked <;> rfl

/-- A cursor that passes as many characters as there are at most. At the end of the text it stays
there. -/
@[simp] theorem bumps_between (n : Nat) :
    (between before after).bumps n = some (between (before ++ after.take n) (after.drop n)) := by
  induction n generalizing before after with
  | zero => simp [bumps]
  | succ n ih =>
    cases after with
    | nil => simp [bumps, ih]
    | cons c rest => simp [bumps, ih]

/-- Passing characters comes to an end, at the latest with the text. The cursor stops in front of
the first character that does not pass. -/
@[simp] theorem skipWhile_between (test : Char → Bool) :
    (between before after).skipWhile test =
      some (between (before ++ after.takeWhile test) (after.dropWhile test)) := by
  induction after generalizing before with
  | nil =>
    rw [skipWhile, Guarded.loop_eq, skipRound, peek_between]
    simp
  | cons c rest ih =>
    rw [skipWhile, Guarded.loop_eq, skipRound, peek_between]
    cases passes : test c with
    | true =>
      have next := ih (before ++ [c])
      rw [skipWhile] at next
      simp [passes, next]
    | false => simp [passes]

@[simp] theorem eatWhile_between (test : Char → Bool) :
    (between before after).eatWhile test =
      some (Text.byteLength (after.takeWhile test),
        between (before ++ after.takeWhile test) (after.dropWhile test)) := by
  simp [eatWhile, Guarded.sub_of_le]

@[simp] theorem digitAt_between (n : Nat) :
    (between before after).digitAt n = some ((after[n]?.map Char.isDigit).getD false) := by
  rw [digitAt, peekNth_between]
  rfl

/-- The cursor that has passed the first `n` characters of the text behind it. -/
def past (n : Nat) : Cursor :=
  between (before ++ after.take n) (after.drop n)

theorem finish_between {before : List Char} (nonempty : before ≠ []) :
    (between before after).finish = some (Text.byteLength before) := by
  rw [finish, passed_between, if_pos (Text.byteLength_pos nonempty)]

end Cursor

end ProfileLexer
