import ProfileLexer.Proofs.Guarded.Extents
import ProfileLexer.Proofs.Profile.Accepted

/-!
The scan of a block comment from marker to marker. Where neither marker contains the other, a marker
that ends where the scan has come to is the marker that the scan has passed.
-/

namespace ProfileLexer

namespace BlockMarkers

/-- A marker that is looked for inside a comment: the one that closes it, and where comments nest
also the one that opens it. -/
def Counts (markers : BlockMarkers) (marker : List Char) : Prop :=
  marker = markers.closer ∨ markers.nesting = true ∧ marker = markers.opener

/-- Where comments nest, neither marker contains the other. Markers of the same length that differ
are apart, and markers that overlap may be. -/
def Apart (markers : BlockMarkers) : Prop :=
  markers.nesting = true →
    ¬markers.opener <:+: markers.closer ∧ ¬markers.closer <:+: markers.opener

/-- No marker starts in some characters, with `rest` behind them. A marker may start in the rest,
and one that has ended before may have been passed. -/
def Unstarted (markers : BlockMarkers) (passed rest : List Char) : Prop :=
  ∀ marker, markers.Counts marker → ∀ front, front <:+ passed → front ≠ [] →
    ¬marker <+: front ++ rest

variable {markers : BlockMarkers} {marker other passed rest : List Char}

theorem Apart.eq_of_infix (apart : markers.Apart) (counts : markers.Counts marker)
    (otherCounts : markers.Counts other) (inside : marker <:+: other) : marker = other := by
  rcases counts with rfl | ⟨nesting, rfl⟩ <;> rcases otherCounts with rfl | ⟨nesting, rfl⟩
  · rfl
  · exact absurd inside (apart nesting).2
  · exact absurd inside (apart nesting).1
  · rfl

theorem unstarted_nil (rest : List Char) : markers.Unstarted [] rest := by
  intro marker _ front within nonempty
  exact absurd (List.suffix_nil.mp within) nonempty

/-- A character that starts no marker joins those that start none, since what is behind it stays in
sight. -/
theorem Unstarted.concat {c : Char} (unstarted : markers.Unstarted passed (c :: rest))
    (plain : ∀ marker, markers.Counts marker → ¬marker <+: c :: rest) :
    markers.Unstarted (passed ++ [c]) rest := by
  intro marker counts front within nonempty starts
  rcases List.suffix_concat_iff.mp within with nothing | ⟨before, rfl, inPassed⟩
  · exact nonempty nothing
  rw [List.append_assoc, List.singleton_append] at starts
  by_cases first : before = []
  · subst first
    exact plain marker counts starts
  · exact unstarted marker counts before inPassed first starts

/-- Where a scan stands in front of a marker, no other marker ends before all of this one is read.
The other one would have to start in what the scan has passed, or to lie inside this one. -/
theorem Apart.eq_of_suffix (apart : markers.Apart) (counts : markers.Counts marker)
    (otherCounts : markers.Counts other) (unstarted : markers.Unstarted passed (other ++ rest))
    {front : List Char} (within : front <+: other) (nonempty : front ≠ [])
    (ends : marker <:+ passed ++ front) : marker = other ∧ front = other := by
  obtain ⟨before, split⟩ := ends
  rcases List.append_eq_append_iff.mp split with ⟨started, rfl, rfl⟩ | ⟨between, rfl, rfl⟩
  · -- the marker starts in what is passed, or it is what is read of the other one
    by_cases first : started = []
    · subst first
      have same := apart.eq_of_infix counts otherCounts within.isInfix
      exact ⟨same, same⟩
    · obtain ⟨left, rfl⟩ := within
      refine absurd ?_ (unstarted _ counts started (List.suffix_append before started) first)
      rw [List.append_assoc, ← List.append_assoc]
      exact List.prefix_append _ _
  · have inside : marker <:+: between ++ marker := (List.suffix_append between marker).isInfix
    have same := apart.eq_of_infix counts otherCounts (inside.trans within.isInfix)
    subst same
    exact ⟨rfl, within.eq_of_length_le (by simp)⟩

end BlockMarkers

/-- The actual scan of a comment behind its first marker, from one place between markers to the
next: `front` is passed, at `depth`, and `rest` is left. The marker that closes the whole comment is
never passed, so the depth stays positive. -/
inductive CommentReach (markers : BlockMarkers) (body : List Char) :
    Nat → List Char → List Char → Prop
  | start : CommentReach markers body 1 [] body
  | opens {depth front rest} : CommentReach markers body depth front (markers.opener ++ rest) →
      markers.nesting = true → CommentReach markers body (depth + 1) (front ++ markers.opener) rest
  | closes {depth front rest} :
      CommentReach markers body (depth + 2) front (markers.closer ++ rest) →
      ¬(markers.nesting = true ∧ markers.opener <+: markers.closer ++ rest) →
      CommentReach markers body (depth + 1) (front ++ markers.closer) rest
  | passes {depth front c rest} : CommentReach markers body depth front (c :: rest) →
      (∀ marker, markers.Counts marker → ¬marker <+: c :: rest) →
      CommentReach markers body depth (front ++ [c]) rest

namespace CommentReach

variable {markers : BlockMarkers} {body front rest : List Char} {depth : Nat}

theorem split (reach : CommentReach markers body depth front rest) : body = front ++ rest := by
  induction reach with
  | start => rfl
  | opens _ _ ih => rw [ih, List.append_assoc]
  | closes _ _ ih => rw [ih, List.append_assoc]
  | passes _ _ ih => rw [ih, List.append_assoc, List.singleton_append]

theorem positive (reach : CommentReach markers body depth front rest) : 0 < depth := by
  induction reach with
  | start => exact Nat.one_pos
  | opens => exact Nat.succ_pos _
  | closes => exact Nat.succ_pos _
  | passes _ _ ih => exact ih

end CommentReach

namespace Extent

variable {markers : BlockMarkers} {rest : List Char}

theorem ofComment_opener (solid : markers.opener ≠ []) (nesting : markers.nesting = true)
    (depth passed : Nat) :
    ofComment markers depth 0 passed (markers.opener ++ rest) =
      ofComment markers (depth + 1) 0 (passed + markers.opener.length) rest := by
  obtain ⟨c, after, split⟩ := List.exists_cons_of_ne_nil (List.append_ne_nil_of_left_ne_nil solid rest)
  have front : markers.opener.isPrefixOf (c :: after) = true := by
    rw [← split]
    exact List.isPrefixOf_iff_prefix.mpr (List.prefix_append _ _)
  rw [split, ofComment, if_neg (Nat.lt_irrefl 0), nesting, front, Bool.true_and, if_pos rfl,
    Guarded.ofComment_marker markers _ passed solid split.symm]

theorem ofComment_closer (solid : markers.closer ≠ [])
    (noOpener : ¬(markers.nesting = true ∧ markers.opener <+: markers.closer ++ rest))
    (depth passed : Nat) :
    ofComment markers depth 0 passed (markers.closer ++ rest) =
      if depth ≤ 1 then ⟨passed + markers.closer.length, true⟩
      else ofComment markers (depth - 1) 0 (passed + markers.closer.length) rest := by
  obtain ⟨c, after, split⟩ := List.exists_cons_of_ne_nil (List.append_ne_nil_of_left_ne_nil solid rest)
  have front : markers.closer.isPrefixOf (c :: after) = true := by
    rw [← split]
    exact List.isPrefixOf_iff_prefix.mpr (List.prefix_append _ _)
  rw [split] at noOpener ⊢
  have opens : ¬(markers.nesting && markers.opener.isPrefixOf (c :: after)) = true := by
    rwa [Bool.and_eq_true, List.isPrefixOf_iff_prefix]
  rw [ofComment, if_neg (Nat.lt_irrefl 0), if_neg opens, if_pos front,
    Guarded.ofComment_marker markers _ passed solid split.symm]

theorem ofComment_plain {c : Char} (plain : ∀ marker, markers.Counts marker → ¬marker <+: c :: rest)
    (depth passed : Nat) :
    ofComment markers depth 0 passed (c :: rest) = ofComment markers depth 0 (passed + 1) rest := by
  have opens : ¬(markers.nesting && markers.opener.isPrefixOf (c :: rest)) = true := by
    rw [Bool.and_eq_true, List.isPrefixOf_iff_prefix]
    exact fun both => plain markers.opener (.inr ⟨both.1, rfl⟩) both.2
  have closes : ¬markers.closer.isPrefixOf (c :: rest) = true := by
    rw [List.isPrefixOf_iff_prefix]
    exact plain markers.closer (.inl rfl)
  rw [ofComment, if_neg (Nat.lt_irrefl 0), if_neg opens, if_neg closes]

end Extent

namespace CommentReach

variable {markers : BlockMarkers} {body front rest : List Char} {depth : Nat}

/-- From wherever the scan stands, it goes on to the same end. The count of characters starts
anywhere, since what is in front of the comment is counted, too. -/
theorem ofComment_eq (opener : markers.opener ≠ []) (closer : markers.closer ≠ [])
    (reach : CommentReach markers body depth front rest) (passed : Nat) :
    Extent.ofComment markers 1 0 passed body =
      Extent.ofComment markers depth 0 (passed + front.length) rest := by
  induction reach with
  | start => rfl
  | opens _ nesting ih =>
    rw [ih, Extent.ofComment_opener opener nesting, List.length_append, Nat.add_assoc]
  | closes _ noOpener ih =>
    rw [ih, Extent.ofComment_closer closer noOpener, if_neg (by omega), List.length_append,
      Nat.add_assoc]
    rfl
  | passes _ plain ih =>
    rw [ih, Extent.ofComment_plain plain, List.length_append, Nat.add_assoc]
    rfl

/-- Where a scan stands last: in front of the closing marker of the whole comment. A scan of a
comment that is left open never stands there. -/
def Last (markers : BlockMarkers) (body front rest : List Char) : Prop :=
  CommentReach markers body 1 front (markers.closer ++ rest) ∧
    ¬(markers.nesting = true ∧ markers.opener <+: markers.closer ++ rest)

/-- A scan goes on to the end of the text or to the closing marker of the whole comment. Markers
must not be empty; otherwise nothing is asked of them. -/
theorem exists_last (opener : markers.opener ≠ []) (closer : markers.closer ≠ [])
    (reach : CommentReach markers body depth front rest) :
    (∃ depth, CommentReach markers body depth body []) ∨
      ∃ front rest, Last markers body front rest := by
  induction length : rest.length using Nat.strongRecOn generalizing depth front rest with
  | ind n ih =>
    cases rest with
    | nil =>
      have whole := reach.split
      rw [List.append_nil] at whole
      rw [whole]
      exact .inl ⟨depth, whole ▸ reach⟩
    | cons c after =>
      by_cases opens : markers.nesting = true ∧ markers.opener <+: c :: after
      · obtain ⟨nesting, left, split⟩ := opens
        rw [← split] at reach length
        have shorter : left.length < n := by
          have positive := List.length_pos_iff.mpr opener
          rw [List.length_append] at length
          omega
        exact ih left.length shorter (reach.opens nesting) rfl
      by_cases closes : markers.closer <+: c :: after
      · obtain ⟨left, split⟩ := closes
        rw [← split] at reach length opens
        have shorter : left.length < n := by
          have positive := List.length_pos_iff.mpr closer
          rw [List.length_append] at length
          omega
        match depth, reach.positive with
        | 1, _ => exact .inr ⟨front, left, reach, opens⟩
        | depth + 2, _ => exact ih left.length shorter (reach.closes opens) rfl
      · have plain : ∀ marker, markers.Counts marker → ¬marker <+: c :: after := by
          rintro marker (rfl | ⟨nesting, rfl⟩) starts
          · exact closes starts
          · exact opens ⟨nesting, starts⟩
        exact ih after.length (by rw [← length]; exact Nat.lt_succ_self _) (reach.passes plain) rfl

/-- The extent of a comment ends behind the closing marker where the scan stands last, and is
closed. -/
theorem Last.ofComment_eq (opener : markers.opener ≠ []) (closer : markers.closer ≠ [])
    (last : Last markers body front rest) (passed : Nat) :
    Extent.ofComment markers 1 0 passed body =
      ⟨passed + (front ++ markers.closer).length, true⟩ := by
  rw [last.1.ofComment_eq opener closer, Extent.ofComment_closer closer last.2, if_pos (Nat.le_refl 1),
    List.length_append, Nat.add_assoc]

end CommentReach

end ProfileLexer
