import Mathlib.Data.List.TakeWhile
import ProfileLexer.Scan.Rule

/-!
How far forms reach. A form reaches no further than its text, and taking away what is behind a form
changes nothing about it.
-/

namespace ProfileLexer

theorem take_length_takeWhile (test : Char → Bool) (text : List Char) :
    text.take (text.takeWhile test).length = text.takeWhile test :=
  (List.prefix_iff_eq_take.mp (List.takeWhile_prefix test)).symm

theorem drop_length_takeWhile (test : Char → Bool) (text : List Char) :
    text.drop (text.takeWhile test).length = text.dropWhile test := by
  have split := congrArg (List.drop (text.takeWhile test).length)
    (List.takeWhile_append_dropWhile (p := test) (l := text))
  rw [List.drop_left] at split
  exact split.symm

namespace Extent

/-- A form behind `passed` characters that covers `body` and nothing of `rest`, and that is the same
without `rest`. Only the end of the text leaves a form open; a form that is closed may end there,
too. -/
structure Covers (reach : List Char → Extent) (passed : Nat) (body rest : List Char) : Prop where
  length : (reach (body ++ rest)).length = passed + body.length
  alone : reach body = reach (body ++ rest)
  open_end : (reach (body ++ rest)).closed = false → rest = []

theorem Covers.of_end {reach : List Char → Extent} {passed : Nat} {text : List Char}
    (length : (reach text).length = passed + text.length) : Covers reach passed text [] := by
  refine ⟨?_, ?_, fun _ => rfl⟩
  · rw [List.append_nil, length]
  · rw [List.append_nil]

/-- Some characters in front that only move the form. What the form is behind them may be looked for
in another way. -/
theorem Covers.step {reach next : List Char → Extent} {passed : Nat} (front : List Char)
    {body rest : List Char} (covers : Covers next (passed + front.length) body rest)
    (cut : reach (front ++ body) = next body)
    (whole : reach (front ++ (body ++ rest)) = next (body ++ rest)) :
    Covers reach passed (front ++ body) rest := by
  refine ⟨?_, ?_, ?_⟩
  · rw [List.append_assoc, whole, covers.length, List.length_append, Nat.add_assoc]
  · rw [List.append_assoc, whole, cut, covers.alone]
  · rw [List.append_assoc, whole]
    exact covers.open_end

theorem exists_covers_ofString (quote : Char) (passed : Nat) (text : List Char) :
    ∃ body rest, text = body ++ rest ∧ Covers (ofString quote passed) passed body rest := by
  induction passed, text using ofString.induct quote with
  | case1 passed => exact ⟨[], [], rfl, .of_end rfl⟩
  | case2 passed c => exact ⟨[c], [], rfl, .of_end rfl⟩
  | case3 passed c next rest escape ih =>
    obtain ⟨body, left, rfl, covers⟩ := ih
    have step : ∀ text, ofString quote passed (c :: next :: text) =
        ofString quote (passed + 2) text := fun text => by rw [ofString, if_pos escape]
    exact ⟨c :: next :: body, left, rfl, Covers.step [c, next] covers (step _) (step _)⟩
  | case4 passed c next rest plain closes =>
    have single : ofString quote passed [c] = ⟨passed + 1, true⟩ := by
      have open_ : (c != '\\') = true := by simpa using plain
      rw [ofString, open_, closes]
      rfl
    have whole : ofString quote passed (c :: next :: rest) = ⟨passed + 1, true⟩ := by
      rw [ofString, if_neg plain, if_pos closes]
    refine ⟨[c], next :: rest, rfl, ?_, ?_, ?_⟩
    · rw [List.singleton_append, whole, List.length_singleton]
    · rw [List.singleton_append, whole, single]
    · rw [List.singleton_append, whole]
      intro impossible
      cases impossible
  | case5 passed c next rest plain inside ih =>
    obtain ⟨body, left, split, covers⟩ := ih
    have step : ∀ other text, ofString quote passed (c :: other :: text) =
        ofString quote (passed + 1) (other :: text) := fun other text => by
      rw [ofString, if_neg plain, if_neg inside]
    cases body with
    | nil =>
      have nothing := covers.open_end (by rw [← covers.alone]; rfl)
      rw [nothing] at split
      cases split
    | cons first body =>
      refine ⟨c :: first :: body, left, by rw [split]; rfl, ?_⟩
      exact Covers.step [c] covers (step _ _) (step _ _)

theorem exists_covers_ofList (depth passed : Nat) (text : List Char) :
    ∃ body rest, text = body ++ rest ∧ Covers (ofList depth passed) passed body rest := by
  induction text generalizing depth passed with
  | nil => exact ⟨[], [], rfl, .of_end rfl⟩
  | cons c text ih =>
    by_cases opens : c == '('
    · obtain ⟨body, rest, rfl, covers⟩ := ih (depth + 1) (passed + 1)
      have step : ∀ text, ofList depth passed (c :: text) = ofList (depth + 1) (passed + 1) text :=
        fun text => by rw [ofList, if_pos opens]
      exact ⟨c :: body, rest, rfl, Covers.step [c] covers (step _) (step _)⟩
    by_cases closes : c == ')'
    · by_cases outermost : depth ≤ 1
      · have stop : ∀ text, ofList depth passed (c :: text) = ⟨passed + 1, true⟩ :=
          fun text => by rw [ofList, if_neg opens, if_pos closes, if_pos outermost]
        refine ⟨[c], text, rfl, ?_, ?_, ?_⟩
        · rw [List.singleton_append, stop, List.length_singleton]
        · rw [List.singleton_append, stop, stop]
        · rw [List.singleton_append, stop]
          intro impossible
          cases impossible
      · obtain ⟨body, rest, rfl, covers⟩ := ih (depth - 1) (passed + 1)
        have step : ∀ text, ofList depth passed (c :: text) =
            ofList (depth - 1) (passed + 1) text := fun text => by
          rw [ofList, if_neg opens, if_pos closes, if_neg outermost]
        exact ⟨c :: body, rest, rfl, Covers.step [c] covers (step _) (step _)⟩
    · obtain ⟨body, rest, rfl, covers⟩ := ih depth (passed + 1)
      have step : ∀ text, ofList depth passed (c :: text) = ofList depth (passed + 1) text :=
        fun text => by rw [ofList, if_neg opens, if_neg closes]
      exact ⟨c :: body, rest, rfl, Covers.step [c] covers (step _) (step _)⟩

theorem isPrefixOf_of_append {marker : List Char} (body rest : List Char)
    (front : marker.isPrefixOf body = true) : marker.isPrefixOf (body ++ rest) = true := by
  rw [List.isPrefixOf_iff_prefix] at front ⊢
  exact front.trans (List.prefix_append body rest)

/-- A marker at the start of a text stays there when enough of the text stays. -/
theorem isPrefixOf_of_length_le {marker body rest : List Char}
    (front : marker.isPrefixOf (body ++ rest) = true) (long : marker.length ≤ body.length) :
    marker.isPrefixOf body = true := by
  rw [List.isPrefixOf_iff_prefix] at front ⊢
  exact List.prefix_of_prefix_length_le front (List.prefix_append body rest) long

/-- The characters that belong to a marker are covered too, as far as the text goes. Nothing is
asked of the opening marker, and of the closing one only that it is not empty. -/
theorem exists_covers_ofComment {markers : BlockMarkers} (closable : markers.closer ≠ [])
    (depth owed passed : Nat) (text : List Char) :
    ∃ body rest, text = body ++ rest ∧ min owed text.length ≤ body.length ∧
      Covers (ofComment markers depth owed passed) passed body rest := by
  induction text generalizing depth owed passed with
  | nil => exact ⟨[], [], rfl, by simp, .of_end rfl⟩
  | cons c text ih =>
    by_cases owes : 0 < owed
    · obtain ⟨body, rest, rfl, long, covers⟩ := ih depth (owed - 1) (passed + 1)
      have step : ∀ text, ofComment markers depth owed passed (c :: text) =
          ofComment markers depth (owed - 1) (passed + 1) text :=
        fun text => by rw [ofComment, if_pos owes]
      refine ⟨c :: body, rest, rfl, ?_, Covers.step [c] covers (step _) (step _)⟩
      rw [List.length_cons, List.length_cons]
      omega
    have length_le : ∀ marker : List Char, marker.isPrefixOf (c :: text) = true →
        marker.length ≤ text.length + 1 := fun marker front =>
      (List.isPrefixOf_iff_prefix.mp front).length_le
    by_cases opens : (markers.nesting && markers.opener.isPrefixOf (c :: text)) = true
    · obtain ⟨body, rest, rfl, long, covers⟩ := ih (depth + 1) (markers.opener.length - 1) (passed + 1)
      obtain ⟨nesting, front⟩ := Bool.and_eq_true_iff.mp opens
      have fits := length_le _ front
      have cut : markers.opener.isPrefixOf (c :: body) = true :=
        isPrefixOf_of_length_le front (by rw [List.length_cons]; omega)
      refine ⟨c :: body, rest, rfl, ?_, Covers.step [c] covers ?_ ?_⟩
      · rw [List.length_cons, List.length_cons]
        omega
      · rw [List.singleton_append, ofComment, if_neg owes, nesting, cut]
        rfl
      · rw [List.singleton_append, ofComment, if_neg owes, if_pos opens]
    have opensNot : ∀ body rest, text = body ++ rest →
        ¬ (markers.nesting && markers.opener.isPrefixOf (c :: body)) = true := by
      rintro body rest rfl cut
      obtain ⟨nesting, front⟩ := Bool.and_eq_true_iff.mp cut
      exact opens (Bool.and_eq_true_iff.mpr ⟨nesting, isPrefixOf_of_append (c :: body) rest front⟩)
    by_cases closes : markers.closer.isPrefixOf (c :: text) = true
    · by_cases outermost : depth ≤ 1
      · obtain ⟨rest, split⟩ := List.isPrefixOf_iff_prefix.mp closes
        obtain ⟨last, closer, rfl⟩ : ∃ last, markers.closer = c :: last ∧ text = last ++ rest := by
          cases closer : markers.closer with
          | nil => exact absurd closer closable
          | cons first last =>
            rw [closer, List.cons_append, List.cons.injEq] at split
            obtain ⟨rfl, rfl⟩ := split
            exact ⟨last, rfl, rfl⟩
        have alone : markers.closer.isPrefixOf (c :: last) = true := by
          rw [closer]
          exact List.isPrefixOf_iff_prefix.mpr (List.prefix_refl _)
        have whole : ofComment markers depth owed passed (c :: (last ++ rest)) =
            ⟨passed + markers.closer.length, true⟩ := by
          rw [ofComment, if_neg owes, if_neg opens, if_pos closes, if_pos outermost]
        refine ⟨c :: last, rest, rfl, by simp; omega, ?_, ?_, ?_⟩
        · rw [List.cons_append, whole, closer]
        · rw [List.cons_append, whole, ofComment, if_neg owes, if_neg (opensNot last rest rfl),
            if_pos alone, if_pos outermost]
        · rw [List.cons_append, whole]
          intro impossible
          cases impossible
      · obtain ⟨body, rest, rfl, long, covers⟩ :=
          ih (depth - 1) (markers.closer.length - 1) (passed + 1)
        have fits := length_le _ closes
        have cut : markers.closer.isPrefixOf (c :: body) = true :=
          isPrefixOf_of_length_le closes (by rw [List.length_cons]; omega)
        refine ⟨c :: body, rest, rfl, ?_, Covers.step [c] covers ?_ ?_⟩
        · rw [List.length_cons, List.length_cons]
          omega
        · rw [List.singleton_append, ofComment, if_neg owes, if_neg (opensNot body rest rfl),
            if_pos cut, if_neg outermost]
        · rw [List.singleton_append, ofComment, if_neg owes, if_neg opens, if_pos closes,
            if_neg outermost]
    · obtain ⟨body, rest, rfl, _, covers⟩ := ih depth 0 (passed + 1)
      have cut : ¬ markers.closer.isPrefixOf (c :: body) = true := fun front =>
        closes (isPrefixOf_of_append (c :: body) rest front)
      refine ⟨c :: body, rest, rfl, ?_, Covers.step [c] covers ?_ ?_⟩
      · rw [List.length_cons, List.length_cons]
        omega
      · rw [List.singleton_append, ofComment, if_neg owes, if_neg (opensNot body rest rfl),
          if_neg cut]
      · rw [List.singleton_append, ofComment, if_neg owes, if_neg opens, if_neg closes]

end Extent

end ProfileLexer
