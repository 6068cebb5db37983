import ProfileLexer.Proofs.Automaton.CommentEnd

/-!
Block comments as lexemes. Where neither marker contains the other, as with two different markers of
two characters, the automaton accepts a comment exactly when its extent is closed and is all of the
text.
-/

namespace ProfileLexer

/-- Markers of two characters that are not the same. Neither can contain the other then, though one
may end with what the other starts with. -/
structure BlockMarkers.Paired (markers : BlockMarkers) : Prop where
  opener : markers.opener.length = 2
  closer : markers.closer.length = 2
  different : markers.opener ≠ markers.closer

theorem BlockMarkers.Paired.apart {markers : BlockMarkers} (paired : markers.Paired) :
    markers.Apart := by
  have same : markers.opener.length = markers.closer.length :=
    paired.opener.trans paired.closer.symm
  exact fun _ => ⟨fun inside => paired.different (inside.eq_of_length same),
    fun inside => paired.different (inside.eq_of_length same.symm).symm⟩

namespace Machine

variable {machine : Machine} {markers : BlockMarkers} {depth : Nat} {unused : List Char}

theorem kindAfter?_of_commentDone (done : machine.state = .commentDone) (text : List Char) :
    machine.kindAfter? text = if text = [] then some .comment else none := by
  obtain ⟨profile, state, buffer, markerFrom, steps⟩ := machine
  obtain rfl : state = .commentDone := done
  cases text <;> rfl

theorem Inside.kindAfter?_nil (inside : machine.Inside markers depth unused) :
    machine.kindAfter? [] = none := by
  have rejects : machine.transition none = (.rejected, .reject) := by
    show machine.onEnd = _
    rw [onEnd, inside.state]
  rw [kindAfter?, step_action, rejects]
  rfl

/-- A comment is read to the end exactly when its extent is the whole text and closed. The machine
has read the opening marker, and nothing behind it. -/
theorem Inside.kindAfter?_eq (apart : markers.Apart) (inside : machine.Inside markers 1 [])
    (passed : Nat) (text : List Char) :
    machine.kindAfter? text =
      if Extent.ofComment markers 1 0 passed text = ⟨passed + text.length, true⟩ then some .comment
      else none := by
  rcases CommentReach.exists_last inside.opener inside.closer .start with
    ⟨depth, reach⟩ | ⟨front, rest, last⟩
  · obtain ⟨unused, still, _⟩ := inside.of_reach apart reach
    have atWork : (machine.behind text).state.isAbsorbing = false := by
      rw [still.state]
      rfl
    have whole := kindAfter?_append atWork []
    rw [List.append_nil] at whole
    rw [whole, still.kindAfter?_nil, reach.ofComment_eq inside.opener inside.closer, Extent.ofComment,
      if_neg (by simp)]
  · obtain ⟨init, c, unused, split, still, ends⟩ := inside.of_last apart last
    have atWork : (machine.behind (front ++ init)).state.isAbsorbing = false := by
      rw [still.state]
      rfl
    have read : ((machine.behind (front ++ init)).step (some c)).2 = .read := by
      rw [step_action, ends]
    have done : ((machine.behind (front ++ init)).step (some c)).1.state = .commentDone := by
      rw [step_state, ends]
    have whole : text = front ++ init ++ c :: rest := by
      rw [last.1.split, split]
      simp only [List.append_assoc, List.singleton_append]
    have nothingLeft : rest = [] ↔
        passed + (front ++ (init ++ [c])).length = passed + (front ++ init ++ c :: rest).length := by
      rw [← List.length_eq_zero_iff]
      simp only [List.length_append, List.length_cons, List.length_nil]
      omega
    rw [last.ofComment_eq inside.opener inside.closer, split, whole, kindAfter?_append atWork,
      kindAfter?, if_pos read, kindAfter?_of_commentDone done]
    simp only [Extent.mk.injEq, and_true, nothingLeft]

end Machine

namespace Profile

variable {profile : Profile}

theorem kindFrom?_blockComment (wellFormed : profile.WellFormed) {markers : BlockMarkers}
    (marked : profile.blockComment = some markers) (apart : markers.Apart) (read : List Char)
    (passed : Nat) (text : List Char) :
    profile.kindFrom? (.blockComment 1) read read.length text =
      if Extent.ofComment markers 1 0 passed text = ⟨passed + text.length, true⟩ then some .comment
      else none :=
  Machine.Inside.kindAfter?_eq apart ⟨marked, wellFormed.opener markers marked,
    wellFormed.closer markers marked, rfl, Nat.le_refl _, List.drop_length⟩ passed text

end Profile

end ProfileLexer
