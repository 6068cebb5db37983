import ProfileLexer.Proofs.Log.Computation
import ProfileLexer.Proofs.Text.Boundary
import ProfileLexer.Scan.Scanner

/-!
The lexemes of a source lie end to end over it, whatever rules bound them.
-/

namespace ProfileLexer

/-- Lexemes that are not empty and lie end to end from a byte offset on. Where they end is left
open. -/
def Lexeme.Tiled (start : Nat) : List Lexeme → Prop
  | [] => True
  | lexeme :: lexemes =>
    lexeme.offset = start ∧ lexeme.text.toList ≠ [] ∧ Tiled lexeme.stop lexemes

namespace Profile

/-- All lexemes of a text that starts at a byte offset, with the rules that bound them. No limit is
put on their number. -/
def pieces (profile : Profile) (offset : Nat) (text : List Char) : List Bounded :=
  if text.isEmpty then []
  else
    let boundary := profile.boundary text
    let lexeme : Lexeme := ⟨String.ofList (text.take boundary.2), offset⟩
    ⟨boundary.1, lexeme⟩ :: pieces profile lexeme.stop (text.drop boundary.2)
termination_by text.length
decreasing_by
  have := profile.boundary_pos text
  have : text ≠ [] := by simp_all
  have : 0 < text.length := List.length_pos_iff.2 this
  simp only [List.length_drop]
  omega

def firstPiece (profile : Profile) (offset : Nat) (text : List Char) : Bounded where
  rule := (profile.boundary text).1
  lexeme := ⟨String.ofList (text.take (profile.boundary text).2), offset⟩

variable (profile : Profile)

@[simp] theorem pieces_nil (offset : Nat) : profile.pieces offset [] = [] := by
  rw [pieces]
  rfl

theorem pieces_of_ne_nil (offset : Nat) {text : List Char} (nonempty : text ≠ []) :
    profile.pieces offset text =
      profile.firstPiece offset text ::
        profile.pieces (profile.firstPiece offset text).lexeme.stop
          (text.drop (profile.boundary text).2) := by
  rw [pieces, List.isEmpty_eq_false_iff.mpr nonempty]
  rfl

/-- Induction on a text, one lexeme after the other. What is shown of a text may use it of all that
is behind its first lexeme. -/
theorem pieces_induction {holds : Nat → List Char → Prop} (nil : ∀ offset, holds offset [])
    (piece : ∀ offset text, text ≠ [] →
      holds (profile.firstPiece offset text).lexeme.stop (text.drop (profile.boundary text).2) →
      holds offset text) (offset : Nat) (text : List Char) : holds offset text := by
  induction length : text.length using Nat.strongRecOn generalizing offset text with
  | ind length ih =>
    by_cases empty : text = []
    · rw [empty]
      exact nil offset
    · refine piece offset text empty (ih _ ?_ _ _ rfl)
      have positive := profile.boundary_pos text
      have some_left := List.length_pos_iff.mpr empty
      rw [List.length_drop]
      omega

/-- End to end, the lexemes of a text are the text. No property of the rules is needed but that each
takes at least one character. -/
theorem flatMap_pieces (offset : Nat) (text : List Char) :
    (profile.pieces offset text).flatMap (·.lexeme.text.toList) = text := by
  induction offset, text using profile.pieces_induction with
  | nil offset => rw [pieces_nil, List.flatMap_nil]
  | piece offset text nonempty ih =>
    rw [profile.pieces_of_ne_nil offset nonempty, List.flatMap_cons, ih, firstPiece,
      String.toList_ofList, List.take_append_drop]

theorem tiled_pieces (offset : Nat) (text : List Char) :
    Lexeme.Tiled offset ((profile.pieces offset text).map (·.lexeme)) := by
  induction offset, text using profile.pieces_induction with
  | nil offset => simp [Lexeme.Tiled]
  | piece offset text nonempty ih =>
    rw [profile.pieces_of_ne_nil offset nonempty, List.map_cons]
    refine ⟨rfl, ?_, ih⟩
    have positive := profile.boundary_pos text
    rw [firstPiece, String.toList_ofList]
    intro nothing
    rcases List.take_eq_nil_iff.mp nothing with zero | empty
    · omega
    · exact nonempty empty

/-- There is a character to every lexeme, so a bound on the characters of a text bounds its
lexemes. -/
theorem length_pieces_le (offset : Nat) (text : List Char) :
    (profile.pieces offset text).length ≤ text.length := by
  induction offset, text using profile.pieces_induction with
  | nil offset => simp
  | piece offset text nonempty ih =>
    have positive := profile.boundary_pos text
    have some_left := List.length_pos_iff.mpr nonempty
    rw [List.length_drop] at ih
    rw [profile.pieces_of_ne_nil offset nonempty, List.length_cons]
    omega

/-- A text that has no more lexemes than allowed is cut into all of them, behind those that have
been cut before. -/
theorem cut_of_length_le {allowed : Nat} {bounded : Array Bounded} {offset : Nat} {text : List Char}
    (few : bounded.size + (profile.pieces offset text).length ≤ allowed) :
    profile.cut allowed bounded offset text =
      .ok (bounded ++ (profile.pieces offset text).toArray) := by
  induction offset, text using profile.pieces_induction generalizing bounded with
  | nil offset => simp [cut]
  | piece offset text nonempty ih =>
    rw [profile.pieces_of_ne_nil offset nonempty, List.length_cons] at few
    have room : ¬ bounded.size ≥ allowed := by omega
    rw [cut, List.isEmpty_eq_false_iff.mpr nonempty, if_neg Bool.false_ne_true, if_neg room]
    have rest := @ih (bounded.push (profile.firstPiece offset text))
      (by rw [Array.size_push]; omega)
    refine rest.trans ?_
    rw [profile.pieces_of_ne_nil offset nonempty]
    simp

/-- A text that has more lexemes than allowed is not cut. The error tells where the cut has stopped,
which is left open here. -/
theorem cut_of_lt_length {allowed : Nat} {bounded : Array Bounded} {offset : Nat} {text : List Char}
    (atMost : bounded.size ≤ allowed)
    (many : allowed < bounded.size + (profile.pieces offset text).length) :
    ∃ stopped, profile.cut allowed bounded offset text = .error stopped := by
  induction offset, text using profile.pieces_induction generalizing bounded with
  | nil offset =>
    rw [pieces_nil, List.length_nil] at many
    omega
  | piece offset text nonempty ih =>
    rw [profile.pieces_of_ne_nil offset nonempty, List.length_cons] at many
    rw [cut, List.isEmpty_eq_false_iff.mpr nonempty, if_neg Bool.false_ne_true]
    by_cases full : bounded.size ≥ allowed
    · exact ⟨offset, if_pos full⟩
    · rw [if_neg full]
      exact @ih (bounded.push (profile.firstPiece offset text))
        (by rw [Array.size_push]; omega) (by rw [Array.size_push]; omega)

/-- The sources that are scanned: those within the limits on bytes and on lexemes. The second
depends on the profile, as the profile decides what is one lexeme. -/
structure Scannable (source : String) : Prop where
  size : source.utf8ByteSize ≤ Limits.maxSourceBytes
  count : (profile.pieces 0 source.toList).length ≤ Limits.maxLexemes

/-- What a scan of a source within the limits yields. It is defined for every source; the
preferences decide only whether lines are counted. -/
def scanned (preferences : ScanPreferences) (source : String) : Scan where
  sourceBytes := source.utf8ByteSize
  bounded := profile.pieces 0 source.toList
  lineCount := if preferences.trackLines then some (source.toList.count '\n' + 1) else none

theorem scan_of_scannable {source : String} (preferences : ScanPreferences)
    (scannable : profile.Scannable source) :
    (profile.scan preferences source).result = .ok (profile.scanned preferences source) := by
  have cut : profile.cut Limits.maxLexemes #[] 0 source.toList =
      .ok (profile.pieces 0 source.toList).toArray := by
    rw [profile.cut_of_length_le (by simpa using scannable.count), Array.empty_append]
  simp only [scan, if_neg (Nat.not_lt.mpr scannable.size), cut]
  rw [Logged.result_bind_of_ok (Logged.result_log _)]
  split
  · rw [Logged.result_bind_of_ok (Logged.result_logTimed _)]
    rfl
  · rfl

theorem scannable_of_scan {source : String} {preferences : ScanPreferences} {scan : Scan}
    (ran : (profile.scan preferences source).result = .ok scan) : profile.Scannable source := by
  have size : ¬ source.utf8ByteSize > Limits.maxSourceBytes := by
    intro large
    simp [Profile.scan, if_pos large] at ran
  have count : ¬ Limits.maxLexemes < (profile.pieces 0 source.toList).length := by
    intro many
    obtain ⟨stopped, cut⟩ : ∃ stopped,
        profile.cut Limits.maxLexemes #[] 0 source.toList = .error stopped :=
      profile.cut_of_lt_length (Nat.zero_le _) (by simpa using many)
    simp [Profile.scan, if_neg size, cut] at ran
  exact ⟨Nat.not_lt.mp size, Nat.not_lt.mp count⟩

end Profile

end ProfileLexer
