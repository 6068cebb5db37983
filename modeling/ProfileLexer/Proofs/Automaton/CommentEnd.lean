import ProfileLexer.Profile.Builtin
import ProfileLexer.Proofs.Automaton.Verdict
import ProfileLexer.Proofs.Guarded.Calls
import ProfileLexer.Proofs.Scan.CommentReach

/-!
Where block comments end. The scanner looks for the first place at which a marker starts, the
automaton for the first place at which one ends. Where neither marker contains the other they find
the same markers: between markers the automaton stands at the depth of the scan, and it leaves the
comment where the extent of the comment ends.
-/

namespace ProfileLexer

namespace Machine

variable {machine : Machine} {markers : BlockMarkers} {depth : Nat} {unused : List Char} {c : Char}

/-- A machine behind some characters, whatever it makes of them. It is not told when it has come to
its end. -/
def behind (machine : Machine) (text : List Char) : Machine :=
  machine.after (text.map fun c => .step (some c))

@[simp] theorem behind_nil (machine : Machine) : machine.behind [] = machine := rfl

@[simp] theorem behind_cons (machine : Machine) (c : Char) (text : List Char) :
    machine.behind (c :: text) = (machine.step (some c)).1.behind text := rfl

theorem behind_append (machine : Machine) (front text : List Char) :
    machine.behind (front ++ text) = (machine.behind front).behind text := by
  simp [behind, after]

theorem behind_concat (machine : Machine) (front : List Char) (c : Char) :
    machine.behind (front ++ [c]) = ((machine.behind front).step (some c)).1 :=
  machine.behind_append front [c]

theorem behind_profile (machine : Machine) (text : List Char) :
    (machine.behind text).profile = machine.profile := by
  induction text generalizing machine with
  | nil => rfl
  | cons c text ih => rw [behind_cons, ih, step_profile]

theorem behind_of_isAbsorbing (absorbing : machine.state.isAbsorbing = true) (text : List Char) :
    (machine.behind text).state = machine.state := by
  rw [← (after_of_isAbsorbing absorbing (text.map some)).1, List.map_map]
  rfl

theorem read_of_atWork {text : List Char}
    (atWork : (machine.behind (c :: text)).state.isAbsorbing = false) :
    (machine.step (some c)).2 = .read := by
  by_contra stops
  have absorbing := (machine.move_step (some c)).isAbsorbing stops
  rw [behind_cons, behind_of_isAbsorbing absorbing, absorbing] at atWork
  cases atWork

theorem text_behind {text : List Char} (atWork : (machine.behind text).state.isAbsorbing = false) :
    (machine.behind text).text = machine.text ++ text := by
  induction text generalizing machine with
  | nil => exact (List.append_nil _).symm
  | cons c text ih =>
    have rest := @ih (machine.step (some c)).1 atWork
    rw [behind_cons, rest, text_step_of_read (read_of_atWork atWork), List.append_assoc,
      List.singleton_append]

theorem kindAfter?_append {front : List Char}
    (atWork : (machine.behind front).state.isAbsorbing = false) (rest : List Char) :
    machine.kindAfter? (front ++ rest) = (machine.behind front).kindAfter? rest := by
  induction front generalizing machine with
  | nil => rfl
  | cons c front ih =>
    rw [List.cons_append, kindAfter?, if_pos (read_of_atWork atWork)]
    exact ih atWork

/-- A marker is complete at a character when the unused text ends with it there. What has been used
by a marker before does not count. -/
theorem completes_iff (marked : machine.Marked) {marker : List Char} (solid : marker ≠ []) :
    machine.completes marker c = true ↔
      marker <:+ machine.text.drop machine.markerFrom ++ [c] := by
  rw [← Guarded.completes_eq marked, Guarded.completes, Bool.and_eq_true,
    List.isSuffixOf_iff_suffix, beq_iff_eq, List.suffix_concat_iff]
  constructor
  · rintro ⟨last, front⟩
    exact .inr ⟨marker.dropLast, (List.dropLast_append_getLast? c last).symm, front⟩
  · rintro (nothing | ⟨front, rfl, within⟩)
    · exact absurd nothing solid
    · rw [List.getLast?_concat, List.dropLast_concat]
      exact ⟨rfl, within⟩

/-- A machine at a depth of a comment, with `unused` behind the last marker. How it has come there
is left open. -/
structure Inside (machine : Machine) (markers : BlockMarkers) (depth : Nat) (unused : List Char) :
    Prop where
  marked : machine.profile.blockComment = some markers
  opener : markers.opener ≠ []
  closer : markers.closer ≠ []
  state : machine.state = .blockComment depth
  within : machine.Marked
  unused : machine.text.drop machine.markerFrom = unused

/-- A step to a depth where the machine is not uses all that has been read. It may come from outside
the comment. -/
theorem inside_of_change {next : Nat} (marked : machine.profile.blockComment = some markers)
    (opener : markers.opener ≠ []) (closer : markers.closer ≠ [])
    (moved : machine.transition (some c) = (.blockComment next, .read))
    (changes : machine.state ≠ .blockComment next) :
    (machine.step (some c)).1.Inside markers next [] := by
  have used (here : Nat) :
      usedAfter machine.state (.blockComment next) machine.markerFrom here = here := if_neg changes
  rw [Guarded.step_eq moved, used]
  exact ⟨marked, opener, closer, rfl, Nat.le_refl _, List.drop_length⟩

namespace Inside

theorem solid (inside : machine.Inside markers depth unused) {marker : List Char}
    (counts : markers.Counts marker) : marker ≠ [] := by
  rcases counts with rfl | ⟨_, rfl⟩
  · exact inside.closer
  · exact inside.opener

theorem transition (inside : machine.Inside markers depth unused) (c : Char) :
    machine.transition (some c) =
      if markers.closer <:+ unused ++ [c] then
        if depth ≤ 1 then (.commentDone, .read) else (.blockComment (depth - 1), .read)
      else if markers.nesting = true ∧ markers.opener <:+ unused ++ [c] then
        (.blockComment (depth + 1), .read)
      else (.blockComment depth, .read) := by
  have onComment : machine.transition (some c) = machine.onComment depth c := by
    rw [Machine.transition, onChar, inside.state]
  rw [onComment, Machine.onComment, inside.marked]
  simp only [Bool.and_eq_true, completes_iff inside.within inside.closer,
    completes_iff inside.within inside.opener, inside.unused]

/-- Where no marker ends nothing happens: the machine stays at its depth, and the character is
unused. -/
theorem step_plain (inside : machine.Inside markers depth unused)
    (plain : ∀ marker, markers.Counts marker → ¬marker <:+ unused ++ [c]) :
    (machine.step (some c)).1.Inside markers depth (unused ++ [c]) := by
  have moved : machine.transition (some c) = (.blockComment depth, .read) := by
    rw [inside.transition, if_neg (plain _ (.inl rfl)),
      if_neg fun both => plain _ (.inr ⟨both.1, rfl⟩) both.2]
  have read : (machine.readOn .read (some c)).toList = machine.text ++ [c] := Array.toList_push
  have within : machine.markerFrom ≤ machine.text.length := inside.within
  have used (here : Nat) : usedAfter machine.state (.blockComment depth) machine.markerFrom here =
      machine.markerFrom := if_pos inside.state
  rw [Guarded.step_eq moved, used]
  refine ⟨inside.marked, inside.opener, inside.closer, rfl, ?_, ?_⟩
  · show machine.markerFrom ≤ (machine.readOn .read (some c)).toList.length
    rw [read, List.length_append]
    omega
  · show (machine.readOn .read (some c)).toList.drop machine.markerFrom = unused ++ [c]
    rw [read, List.drop_append_of_le_length within, inside.unused]

theorem step_change {next : Nat} (inside : machine.Inside markers depth unused)
    (moved : machine.transition (some c) = (.blockComment next, .read)) (changes : depth ≠ next) :
    (machine.step (some c)).1.Inside markers next [] := by
  refine inside_of_change inside.marked inside.opener inside.closer moved ?_
  rwa [inside.state, Ne, State.blockComment.injEq]

theorem step_opener (inside : machine.Inside markers depth unused)
    (nesting : markers.nesting = true) (opens : markers.opener <:+ unused ++ [c])
    (noCloser : ¬markers.closer <:+ unused ++ [c]) :
    (machine.step (some c)).1.Inside markers (depth + 1) [] := by
  have moved : machine.transition (some c) = (.blockComment (depth + 1), .read) := by
    rw [inside.transition, if_neg noCloser, if_pos ⟨nesting, opens⟩]
  exact inside.step_change moved (by omega)

theorem step_closer (inside : machine.Inside markers (depth + 2) unused)
    (closes : markers.closer <:+ unused ++ [c]) :
    (machine.step (some c)).1.Inside markers (depth + 1) [] := by
  have moved : machine.transition (some c) = (.blockComment (depth + 1), .read) := by
    rw [inside.transition, if_pos closes, if_neg (by omega)]
    rfl
  exact inside.step_change moved (by omega)

/-- The closing marker of the whole comment ends it. -/
theorem transition_last (inside : machine.Inside markers 1 unused)
    (closes : markers.closer <:+ unused ++ [c]) :
    machine.transition (some c) = (.commentDone, .read) := by
  rw [inside.transition, if_pos closes, if_pos (Nat.le_refl 1)]

/-- A stretch in which no marker ends is read at one depth. Markers may start in it. -/
theorem behind_plain {front : List Char} (inside : machine.Inside markers depth unused)
    (plain : ∀ passed, passed <+: front → passed ≠ [] →
      ∀ marker, markers.Counts marker → ¬marker <:+ unused ++ passed) :
    (machine.behind front).Inside markers depth (unused ++ front) := by
  induction front generalizing machine unused with
  | nil => rwa [behind_nil, List.append_nil]
  | cons c front ih =>
    have first := plain [c] ⟨front, rfl⟩ (List.cons_ne_nil c [])
    have later := ih (inside.step_plain first) (fun passed within _ marker counts ends => by
      rw [List.append_assoc, List.singleton_append] at ends
      exact plain (c :: passed) (List.cons_prefix_cons.mpr ⟨rfl, within⟩) (List.cons_ne_nil c _)
        marker counts ends)
    rwa [List.append_assoc, List.singleton_append] at later

/-- Up to its last character, a marker is read at one depth; there the unused text ends with it and
with no other marker. This is where markers that contain each other would come apart. -/
theorem behind_marker {marker front rest : List Char} (apart : markers.Apart)
    (inside : machine.Inside markers depth unused) (counts : markers.Counts marker)
    (unstarted : markers.Unstarted unused (marker ++ rest)) (last : marker = front ++ [c]) :
    (machine.behind front).Inside markers depth (unused ++ front) ∧
      marker <:+ unused ++ front ++ [c] ∧
      ∀ other, markers.Counts other → other <:+ unused ++ front ++ [c] → other = marker := by
  subst last
  refine ⟨inside.behind_plain fun passed within nonempty other counts' ends => ?_, ?_, ?_⟩
  · have whole := (apart.eq_of_suffix counts' counts unstarted
      (within.trans (List.prefix_append front [c])) nonempty ends).2
    have short := within.length_le
    rw [whole, List.length_append, List.length_singleton] at short
    omega
  · rw [List.append_assoc]
    exact List.suffix_append unused _
  · intro other counts' ends
    rw [List.append_assoc] at ends
    exact (apart.eq_of_suffix counts' counts unstarted (List.prefix_refl _) (by simp) ends).1

theorem behind_opener {rest : List Char} (apart : markers.Apart)
    (inside : machine.Inside markers depth unused) (nesting : markers.nesting = true)
    (unstarted : markers.Unstarted unused (markers.opener ++ rest)) :
    (machine.behind markers.opener).Inside markers (depth + 1) [] := by
  obtain ⟨front, c, last⟩ := (List.eq_nil_or_concat' markers.opener).resolve_left inside.opener
  obtain ⟨still, ends, only⟩ := inside.behind_marker apart (.inr ⟨nesting, rfl⟩) unstarted last
  rw [last, behind_concat]
  refine still.step_opener nesting ends fun closes => ?_
  have same := only markers.closer (.inl rfl) closes
  exact (apart nesting).1 (same ▸ List.infix_rfl)

theorem behind_closer {rest : List Char} (apart : markers.Apart)
    (inside : machine.Inside markers (depth + 2) unused)
    (unstarted : markers.Unstarted unused (markers.closer ++ rest)) :
    (machine.behind markers.closer).Inside markers (depth + 1) [] := by
  obtain ⟨front, c, last⟩ := (List.eq_nil_or_concat' markers.closer).resolve_left inside.closer
  obtain ⟨still, ends, _⟩ := inside.behind_marker apart (.inl rfl) unstarted last
  rw [last, behind_concat]
  exact still.step_closer ends

/-- Wherever the scan stands, the machine is at its depth, and no marker starts in what is unused.
The two parts carry each other: the second keeps markers from ending too early. -/
theorem of_reach {body front rest : List Char} (apart : markers.Apart)
    (inside : machine.Inside markers 1 []) (reach : CommentReach markers body depth front rest) :
    ∃ unused, (machine.behind front).Inside markers depth unused ∧
      markers.Unstarted unused rest := by
  induction reach with
  | start => exact ⟨[], inside, BlockMarkers.unstarted_nil _⟩
  | opens _ nesting ih =>
    obtain ⟨unused, inside, unstarted⟩ := ih
    rw [behind_append]
    exact ⟨[], inside.behind_opener apart nesting unstarted, BlockMarkers.unstarted_nil _⟩
  | closes _ _ ih =>
    obtain ⟨unused, inside, unstarted⟩ := ih
    rw [behind_append]
    exact ⟨[], inside.behind_closer apart unstarted, BlockMarkers.unstarted_nil _⟩
  | @passes depth front c rest _ plain ih =>
    obtain ⟨unused, inside, unstarted⟩ := ih
    have next := unstarted.concat plain
    rw [behind_concat]
    refine ⟨unused ++ [c], inside.step_plain fun marker counts ends => ?_, next⟩
    exact next marker counts marker ends (inside.solid counts) (List.prefix_append marker rest)

/-- Where the scan stands last, the machine is in the comment up to the last character of the
closing marker, and that character ends it. -/
theorem of_last {body front rest : List Char} (apart : markers.Apart)
    (inside : machine.Inside markers 1 []) (last : CommentReach.Last markers body front rest) :
    ∃ init c unused, markers.closer = init ++ [c] ∧
      (machine.behind (front ++ init)).Inside markers 1 unused ∧
      (machine.behind (front ++ init)).transition (some c) = (.commentDone, .read) := by
  obtain ⟨unused, still, unstarted⟩ := inside.of_reach apart last.1
  obtain ⟨init, c, split⟩ := (List.eq_nil_or_concat' markers.closer).resolve_left inside.closer
  obtain ⟨within, ends, _⟩ := still.behind_marker apart (.inl rfl) unstarted split
  rw [← behind_append] at within
  exact ⟨init, c, _, split, within, within.transition_last ends⟩

end Inside

/-- A machine that is done with a comment stays so, whatever comes behind it. -/
theorem commentDone_mono {front text : List Char} (within : front <+: text)
    (done : (machine.behind front).state = .commentDone) :
    (machine.behind text).state = .commentDone := by
  obtain ⟨rest, rfl⟩ := within
  have absorbing : (machine.behind front).state.isAbsorbing = true := by
    rw [done]
    rfl
  rw [behind_append, behind_of_isAbsorbing absorbing, done]

namespace Inside

/-- A machine in a comment is done with it exactly where its extent ends. In a comment that is left
open it never is. -/
theorem commentDone_iff {body front : List Char} (apart : markers.Apart)
    (inside : machine.Inside markers 1 []) (passed : Nat) (within : front <+: body) :
    (machine.behind front).state = .commentDone ↔
      (Extent.ofComment markers 1 0 passed body).closed = true ∧
        (Extent.ofComment markers 1 0 passed body).length ≤ passed + front.length := by
  rcases CommentReach.exists_last inside.opener inside.closer .start with
    ⟨depth, reach⟩ | ⟨before, rest, last⟩
  · obtain ⟨unused, still, _⟩ := inside.of_reach apart reach
    have open_ : (Extent.ofComment markers 1 0 passed body).closed = false := by
      rw [reach.ofComment_eq inside.opener inside.closer]
      rfl
    refine iff_of_false (fun done => ?_) (fun both => ?_)
    · have stillDone := commentDone_mono within done
      rw [still.state] at stillDone
      cases stillDone
    · rw [open_] at both
      cases both.1
  · obtain ⟨init, c, _, split, still, ends⟩ := inside.of_last apart last
    have done : (machine.behind (before ++ markers.closer)).state = .commentDone := by
      rw [split, ← List.append_assoc, behind_concat, step_state, ends]
    have body_eq : body = before ++ init ++ ([c] ++ rest) := by
      rw [last.1.split, split]
      simp only [List.append_assoc]
    have whole : before ++ markers.closer = before ++ init ++ [c] := by
      rw [split, List.append_assoc]
    rw [last.ofComment_eq inside.opener inside.closer, Nat.add_le_add_iff_left]
    refine ⟨fun doneHere => ⟨rfl, ?_⟩, fun both => commentDone_mono ?_ done⟩
    · -- where the closing marker is not read to its end, the comment is still open
      by_contra short
      rw [whole, List.length_append, List.length_singleton] at short
      have inFront : front <+: before ++ init :=
        List.prefix_of_prefix_length_le within ⟨_, body_eq.symm⟩ (by omega)
      have tooEarly := commentDone_mono inFront doneHere
      rw [still.state] at tooEarly
      cases tooEarly
    · have inBody : before ++ markers.closer <+: body :=
        ⟨rest, by rw [last.1.split, List.append_assoc]⟩
      exact List.prefix_of_prefix_length_le inBody within both.2

end Inside

end Machine

namespace State

/-- What a machine has read where its state begins or counts comments: nothing at its start, and in
a comment at least the opening marker. -/
def Opened (profile : Profile) (text : List Char) : State → Prop
  | .initial => text = []
  | .blockComment _ => ∃ markers, profile.blockComment = some markers ∧ markers.opener <+: text
  | _ => True

variable {profile : Profile} {text : List Char}

theorem opened_of_isAbsorbing {state : State} (absorbing : state.isAbsorbing = true) :
    state.Opened profile text := by
  cases state with
  | initial | blockComment _ => cases absorbing
  | _ => trivial

/-- Symbols lead into a comment only where they are the opening marker. A line comment with the same
marker comes first. -/
theorem opened_of_symbolState? {symbols : List Char} {state : State}
    (found : profile.symbolState? symbols = some state) : state.Opened profile symbols := by
  unfold Profile.symbolState? at found
  dsimp only at found
  split at found
  · cases found
    trivial
  split at found
  · rename_i marked
    obtain ⟨markers, atMarkers, same⟩ := Option.map_eq_some_iff.mp marked
    cases found
    exact ⟨markers, atMarkers, same ▸ List.prefix_refl _⟩
  split at found
  · cases found
    trivial
  · cases found

theorem opened_onInitial (profile : Profile) (c : Char) :
    (Machine.onInitial profile c).1.Opened profile [c] := by
  unfold Machine.onInitial
  repeat' split
  all_goals first | trivial | exact opened_of_symbolState? ‹_›

theorem opened_onSymbols (profile : Profile) (text : List Char) (c : Char) :
    (Machine.onSymbols profile text c).1.Opened profile (text ++ [c]) := by
  unfold Machine.onSymbols
  repeat' split
  all_goals first | trivial | exact opened_of_symbolState? ‹_›

theorem opened_numberEnd (c : Char) : (Machine.numberEnd c).1.Opened profile text := by
  unfold Machine.numberEnd
  split <;> trivial

theorem opened_onNumber (machine : Machine) (c : Char) :
    (machine.onNumber c).1.Opened profile text := by
  unfold Machine.onNumber
  dsimp only
  repeat' split
  all_goals first | trivial | exact opened_numberEnd c

end State

namespace Machine

variable {machine : Machine} {markers : BlockMarkers} {c : Char}

/-- What a machine has read begins with the opening marker of the comment that it is in. -/
def Opened (machine : Machine) : Prop :=
  machine.state.Opened machine.profile machine.text

theorem Opened.onComment {depth : Nat} (opened : machine.Opened)
    (state : machine.state = .blockComment depth) (c : Char) :
    (machine.onComment depth c).1.Opened machine.profile (machine.text ++ [c]) := by
  rw [Machine.Opened, state] at opened
  obtain ⟨markers, marked, within⟩ := opened
  have stillOpened (depth : Nat) :
      (State.blockComment depth).Opened machine.profile (machine.text ++ [c]) :=
    ⟨markers, marked, within.trans (List.prefix_append _ _)⟩
  unfold Machine.onComment
  repeat' split
  all_goals first | trivial | exact stillOpened _

theorem Opened.onChar (opened : machine.Opened) (c : Char) :
    (machine.onChar c).1.Opened machine.profile (machine.text ++ [c]) := by
  cases state : machine.state with
  | initial =>
    rw [Opened, state] at opened
    have unread : machine.text = [] := opened
    rw [unread, Machine.onChar, state]
    exact State.opened_onInitial machine.profile c
  | blockComment depth =>
    have inComment := opened.onComment state c
    rwa [Machine.onChar, state]
  | symbols =>
    rw [Machine.onChar, state]
    exact State.opened_onSymbols machine.profile machine.text c
  | number =>
    rw [Machine.onChar, state]
    exact State.opened_onNumber machine c
  | numberUnit =>
    rw [Machine.onChar, state]
    exact State.opened_numberEnd c
  | word | string _ | numberRadix _ _ | numberPoint | numberFraction _ | numberExponent _ _
  | lineComment | layout =>
    unfold Machine.onChar
    rw [state]
    dsimp only
    repeat' split
    all_goals first | trivial | exact State.opened_numberEnd c
  | stringEscape _ | literal | stringDone | numberDone | commentDone | operatorDone
  | literalDone _ | identifierDone | delimiter | layoutDone | rejected =>
    rw [Machine.onChar, state]
    trivial

/-- A machine that goes on has read the character, and is in no comment that it has not opened. -/
theorem Opened.step (opened : machine.Opened) (c : Char) : (machine.step (some c)).1.Opened := by
  by_cases reads : (machine.step (some c)).2 = .read
  · rw [Opened, text_step_of_read reads, step_profile]
    exact opened.onChar c
  · exact State.opened_of_isAbsorbing ((machine.move_step (some c)).isAbsorbing reads)

theorem Opened.behind (opened : machine.Opened) (text : List Char) :
    (machine.behind text).Opened := by
  induction text generalizing machine with
  | nil => exact opened
  | cons c text ih => exact ih (opened.step c)

theorem opened_reset (machine : Machine) : machine.reset.Opened := rfl

/-- Where the opening marker leads into a comment, its last character does, and nothing is unused. A
longer symbol may keep the marker from doing so, which is why this is asked for. -/
theorem inside_of_entered (wellFormed : machine.profile.WellFormed)
    (marked : machine.profile.blockComment = some markers)
    (entered : (machine.reset.behind markers.opener).state = .blockComment 1) :
    (machine.reset.behind markers.opener).Inside markers 1 [] := by
  have opener := wellFormed.opener markers marked
  obtain ⟨front, c, last⟩ := (List.eq_nil_or_concat' markers.opener).resolve_left opener
  rw [last, behind_concat] at entered ⊢
  have profile : (machine.reset.behind front).profile = machine.profile :=
    machine.reset.behind_profile front
  have reads : ((machine.reset.behind front).step (some c)).2 = .read := by
    by_contra stops
    have absorbing := (move_step _ (some c)).isAbsorbing stops
    rw [entered] at absorbing
    cases absorbing
  have outside : (machine.reset.behind front).state ≠ .blockComment 1 := by
    intro early
    have atWork : (machine.reset.behind front).state.isAbsorbing = false := by
      rw [early]
      rfl
    have opened := machine.opened_reset.behind front
    rw [Opened, early, text_behind atWork] at opened
    obtain ⟨markers', marked', within⟩ := opened
    rw [profile, marked] at marked'
    cases marked'
    have short := within.length_le
    rw [last, List.length_append, List.length_singleton] at short
    exact absurd short (Nat.not_succ_le_self _)
  refine inside_of_change (profile ▸ marked) opener (wellFormed.closer markers marked) ?_ outside
  exact Prod.ext entered reads

theorem commentExtent?_opener {profile : Profile} (marked : profile.blockComment = some markers)
    (body : List Char) : profile.commentExtent? (markers.opener ++ body) =
      some (.ofComment markers 1 0 markers.opener.length body) := by
  have opens : markers.opener.isPrefixOf (markers.opener ++ body) = true :=
    List.isPrefixOf_iff_prefix.mpr (List.prefix_append _ _)
  rw [Profile.commentExtent?, marked]
  dsimp only
  rw [if_pos opens, List.drop_left]

/-- Scanner and automaton find the same end of a block comment, whatever its markers are, unless
comments nest and one marker contains the other, which is so in no built-in language. Once the
opening marker has led into the comment, the automaton is done with it where all of its extent has
been read, and never if the text does not close it; and wherever the scan stands between markers,
the automaton is at the depth of the scan. The machine may have been used before, and the text
behind the opening marker may be any. -/
theorem commentDone_iff_commentExtent? :
    (∀ definition ∈ Builtin.all, ∀ markers ∈ (Profile.build definition).blockComment,
      markers.Apart) ∧
    ∀ {definition : Definition} {profile : Profile} {machine : Machine} {markers : BlockMarkers},
      Profile.ofDefinition definition = .ok profile → machine.profile = profile →
      profile.blockComment = some markers → markers.Apart →
      (machine.reset.behind markers.opener).state = .blockComment 1 →
      ∀ body, ∃ extent, profile.commentExtent? (markers.opener ++ body) = some extent ∧
        (∀ front, front <+: body →
          ((machine.reset.behind (markers.opener ++ front)).state = .commentDone ↔
            extent.closed = true ∧ extent.length ≤ (markers.opener ++ front).length)) ∧
        ∀ depth front rest, CommentReach markers body depth front rest →
          (machine.reset.behind (markers.opener ++ front)).state = .blockComment depth ∧
          Extent.ofComment markers depth 0 (markers.opener ++ front).length rest = extent := by
  refine ⟨by unfold BlockMarkers.Apart; decide, ?_⟩
  intro definition profile machine markers accepted same marked apart entered body
  have wellFormed := Profile.wellFormed_of_accepted accepted
  subst same
  have inside := inside_of_entered wellFormed marked entered
  refine ⟨_, commentExtent?_opener marked body, fun front within => ?_, ?_⟩
  · rw [behind_append, List.length_append]
    exact inside.commentDone_iff apart markers.opener.length within
  · intro depth front rest reach
    obtain ⟨unused, still, _⟩ := inside.of_reach apart reach
    rw [behind_append, List.length_append]
    exact ⟨still.state, (reach.ofComment_eq inside.opener inside.closer _).symm⟩

/-- Dashes that the inner opening marker has used are not part of a closing one as well, so that two
comments are left to close. -/
theorem commentDone_behind_used_dashes :
    let definition := { Definition.ofId "markup" with blockComment := some ⟨"<!--", "-->", true⟩ }
    let machine := Machine.ofProfile (Profile.build definition)
    let markers : BlockMarkers := ⟨['<', '!', '-', '-'], ['-', '-', '>'], true⟩
    let body := "<!-->é-->-->".toList
    Profile.ofDefinition definition = .ok machine.profile ∧
      machine.profile.blockComment = some markers ∧ markers.Apart ∧
      (machine.reset.behind markers.opener).state = .blockComment 1 ∧
      machine.profile.commentExtent? (markers.opener ++ body) = some ⟨16, true⟩ ∧
      (machine.reset.behind (markers.opener ++ body)).state = .commentDone ∧
      (machine.reset.behind (markers.opener ++ body.dropLast)).state ≠ .commentDone ∧
      (machine.reset.behind (markers.opener ++ markers.opener)).state = .blockComment 2 := by
  intro definition machine markers body
  have accepted : Profile.ofDefinition definition = .ok (Profile.build definition) := by
    have sound : definition.problem? = none := by decide
    rw [Profile.ofDefinition, sound]
  have marked : machine.profile.blockComment = some markers := by decide
  have apart : markers.Apart := by
    unfold BlockMarkers.Apart
    decide
  have entered : (machine.reset.behind markers.opener).state = .blockComment 1 := by decide +kernel
  obtain ⟨extent, found, done, depths⟩ :=
    commentDone_iff_commentExtent?.2 accepted rfl marked apart entered body
  have extent_eq : machine.profile.commentExtent? (markers.opener ++ body) = some ⟨16, true⟩ := by
    decide +kernel
  have nested : CommentReach markers body 2 markers.opener ['>', 'é', '-', '-', '>', '-', '-', '>'] :=
    CommentReach.start.opens rfl
  obtain rfl : extent = ⟨16, true⟩ := Option.some.inj (found.symm.trans extent_eq)
  refine ⟨accepted, marked, apart, entered, found, (done body (List.prefix_refl _)).mpr ?_,
    fun early => ?_, (depths _ _ _ nested).1⟩
  · decide
  · have whole := ((done _ (List.dropLast_prefix _)).mp early).2
    revert whole
    decide

end Machine

end ProfileLexer
