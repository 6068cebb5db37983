import Mathlib.Data.List.Basic
import ProfileLexer.Sorted

/-!
Search by halving. Among ascending keys it comes to rest at the last one that is not above the
bound, from which it is told where the bound is, or where it would have to be put in.
-/

namespace ProfileLexer.Sorted

/-- Halving moves only to where the test holds and stops only where it fails behind. Where it fails
everywhere, halving stays at the base. -/
theorem lastWhere_spec {test : Nat → Bool} (down : ∀ i j, i ≤ j → test j = true → test i = true)
    (base size : Nat) :
    base ≤ lastWhere test base size ∧ (0 < size → lastWhere test base size < base + size) ∧
      (lastWhere test base size = base ∨ test (lastWhere test base size) = true) ∧
      ∀ i, lastWhere test base size < i → i < base + size → test i = false := by
  induction size using Nat.strongRecOn generalizing base with
  | ind size ih =>
    rw [lastWhere]
    split
    · exact ⟨Nat.le_refl _, by omega, .inl rfl, by omega⟩
    · have half : size - size / 2 < size := by omega
      dsimp only
      split
      · rename_i reached
        obtain ⟨lower, upper, rests, fails⟩ := ih _ half (base + size / 2)
        refine ⟨by omega, by omega, .inr ?_, fun i behind inside => fails i behind (by omega)⟩
        rcases rests with atMid | holds
        · rw [atMid, reached]
        · exact holds
      · rename_i missed
        obtain ⟨lower, upper, rests, fails⟩ := ih _ half base
        refine ⟨lower, by omega, rests, fun i behind inside => ?_⟩
        refine Bool.eq_false_iff.mpr fun holds => ?_
        have front : i < base + size / 2 := by
          by_contra atLeast
          exact missed (down _ i (by omega) holds)
        rw [fails i behind (by omega)] at holds
        cases holds

/-- Halving finds the last index at which a test holds that holds up to it and fails behind it. How
the indices are halved does not matter. -/
theorem lastWhere_eq {test : Nat → Bool} {last : Nat} (holds : ∀ i ≤ last, test i = true)
    (fails : ∀ i, last < i → test i = false) {base size : Nat} (lower : base ≤ last)
    (upper : last < base + size) : lastWhere test base size = last := by
  have down : ∀ i j, i ≤ j → test j = true → test i = true := by
    intro i j ordered atSecond
    refine holds i (Nat.le_trans ordered (Nat.le_of_not_lt fun behind => ?_))
    rw [fails j behind] at atSecond
    cases atSecond
  obtain ⟨_, _, rests, behind⟩ := lastWhere_spec down base size
  refine Nat.le_antisymm (Nat.le_of_not_lt fun past => ?_) (Nat.le_of_not_lt fun short => ?_)
  · rw [fails _ past] at rests
    rcases rests with atBase | impossible
    · omega
    · cases impossible
  · have atLast := behind last short upper
    rw [holds last (Nat.le_refl last)] at atLast
    cases atLast

/-- The last key that is at most a bound. -/
theorem lastAtMost_eq {keys : Array Nat} {bound last : Nat} (within : last < keys.size)
    (atMost : ∀ i key, i ≤ last → keys[i]? = some key → key ≤ bound)
    (above : ∀ i key, last < i → keys[i]? = some key → bound < key) :
    lastAtMost keys bound = last := by
  refine lastWhere_eq ?_ ?_ (Nat.zero_le _) (by omega)
  · intro i before
    have atIndex : keys[i]? = some keys[i] := Array.getElem?_eq_getElem (by omega)
    simpa [atIndex] using atMost i _ before atIndex
  · intro i behind
    cases atIndex : keys[i]? with
    | none => rfl
    | some key => simpa using above i key behind atIndex

variable {keys : Array Nat} {bound : Nat}

theorem lt_of_ascending (ascending : keys.toList.Pairwise (· < ·)) {i j first second : Nat}
    (before : i < j) (atFirst : keys[i]? = some first) (atSecond : keys[j]? = some second) :
    first < second := by
  obtain ⟨inFirst, rfl⟩ := Array.getElem?_eq_some_iff.mp atFirst
  obtain ⟨inSecond, rfl⟩ := Array.getElem?_eq_some_iff.mp atSecond
  exact List.pairwise_iff_getElem.mp ascending i j inFirst inSecond before

theorem isAtMost_iff {i : Nat} :
    (keys[i]?.map fun key : Nat => decide (key ≤ bound)).getD false = true ↔
      ∃ key, keys[i]? = some key ∧ key ≤ bound := by
  cases keys[i]? <;> simp

/-- Halving rests in the keys. All keys behind the one where it rests are above the bound, and that
one is not, unless it is the first. The keys have to ascend, each above the one before. -/
theorem lastAtMost_spec (ascending : keys.toList.Pairwise (· < ·)) (bound : Nat) :
    (0 < keys.size → lastAtMost keys bound < keys.size) ∧
      (∀ key, keys[lastAtMost keys bound]? = some key → bound < key → lastAtMost keys bound = 0) ∧
      ∀ i key, lastAtMost keys bound < i → keys[i]? = some key → bound < key := by
  have down : ∀ i j : Nat, i ≤ j →
      (keys[j]?.map fun key : Nat => decide (key ≤ bound)).getD false = true →
      (keys[i]?.map fun key : Nat => decide (key ≤ bound)).getD false = true := by
    intro i j ordered holds
    obtain ⟨second, atSecond, atMost⟩ := isAtMost_iff.mp holds
    rcases Nat.lt_or_eq_of_le ordered with before | rfl
    · obtain ⟨inside, _⟩ := Array.getElem?_eq_some_iff.mp atSecond
      have atFirst : keys[i]? = some keys[i] := Array.getElem?_eq_getElem (by omega)
      have less := lt_of_ascending ascending before atFirst atSecond
      exact isAtMost_iff.mpr ⟨_, atFirst, by omega⟩
    · exact holds
  obtain ⟨_, upper, rests, fails⟩ := lastWhere_spec down 0 keys.size
  rw [Nat.zero_add] at upper
  refine ⟨upper, fun key atRest above => ?_, fun i key behind atIndex => ?_⟩
  · rcases rests with first | holds
    · exact first
    · obtain ⟨other, found, atMost⟩ := isAtMost_iff.mp holds
      have same : some key = some other := atRest.symm.trans found
      cases same
      omega
  · obtain ⟨inside, _⟩ := Array.getElem?_eq_some_iff.mp atIndex
    have beyond := Bool.eq_false_iff.mp (fails i behind (by omega))
    rw [ne_eq, isAtMost_iff] at beyond
    by_contra atMost
    exact beyond ⟨key, atIndex, by omega⟩

/-- The last key that is at most a bound has the next one above it. -/
theorem lastAtMost_eq_of_between (ascending : keys.toList.Pairwise (· < ·)) {i key : Nat}
    (atIndex : keys[i]? = some key) (atMost : key ≤ bound)
    (next : ∀ other, keys[i + 1]? = some other → bound < other) : lastAtMost keys bound = i := by
  obtain ⟨inside, _⟩ := Array.getElem?_eq_some_iff.mp atIndex
  refine lastAtMost_eq inside (fun j other ordered atOther => ?_) (fun j other behind atOther => ?_)
  · rcases Nat.lt_or_eq_of_le ordered with before | rfl
    · exact Nat.le_trans (Nat.le_of_lt (lt_of_ascending ascending before atOther atIndex)) atMost
    · cases Option.some.inj (atIndex.symm.trans atOther)
      exact atMost
  · obtain ⟨within, _⟩ := Array.getElem?_eq_some_iff.mp atOther
    have atNext : keys[i + 1]? = some keys[i + 1] := Array.getElem?_eq_getElem (by omega)
    have above := next _ atNext
    rcases Nat.lt_or_eq_of_le (Nat.succ_le_of_lt behind) with later | rfl
    · exact Nat.lt_trans above (lt_of_ascending ascending later atNext atOther)
    · exact next other atOther

/-- Where halving rests depends only on which keys are at most the bound. -/
theorem lastAtMost_congr {other : Nat}
    (same : ∀ (i key : Nat), keys[i]? = some key → (key ≤ bound ↔ key ≤ other)) :
    lastAtMost keys bound = lastAtMost keys other := by
  have tests (i : Nat) : (keys[i]?.map fun key : Nat => decide (key ≤ bound)).getD false =
      (keys[i]?.map fun key : Nat => decide (key ≤ other)).getD false := by
    cases atIndex : keys[i]? with
    | none => rfl
    | some key => simp [same i key atIndex]
  exact congrArg (lastWhere · 0 keys.size) (funext tests)

/-- What is answered when a bound is looked up: where it is, or how many keys are below it when it
is missing. Where a key is there twice, either index will do. -/
def Answers (keys : Array Nat) (bound : Nat) : Except Nat Nat → Prop
  | .ok index => keys[index]? = some bound
  | .error place => place ≤ keys.size ∧
    ∀ i key, keys[i]? = some key → if i < place then key < bound else bound < key

/-- A way to look bounds up that answers rightly in ascending keys. Of other keys nothing is asked,
and nothing of how it looks. -/
def Searches (search : Array Nat → Nat → Except Nat Nat) : Prop :=
  ∀ {keys : Array Nat} (bound : Nat), keys.toList.Pairwise (· < ·) →
    Answers keys bound (search keys bound)

/-- Looks up a bound. The key where halving rests decides on the answer: it is the bound, or the
bound belongs behind it, or in front of it when all keys are above. -/
def search (keys : Array Nat) (bound : Nat) : Except Nat Nat :=
  let last := lastAtMost keys bound
  match keys[last]? with
  | none => .error 0
  | some key =>
    if key = bound then .ok last else .error (if key < bound then last + 1 else last)

theorem searches_search : Searches search := by
  intro keys bound ascending
  obtain ⟨inside, rests, above⟩ := lastAtMost_spec ascending bound
  rw [search]
  cases atRest : keys[lastAtMost keys bound]? with
  | none =>
    have empty : keys.size = 0 := by
      by_contra some_left
      rw [Array.getElem?_eq_getElem (inside (by omega))] at atRest
      cases atRest
    refine ⟨Nat.zero_le _, fun i key atIndex => ?_⟩
    obtain ⟨within, _⟩ := Array.getElem?_eq_some_iff.mp atIndex
    omega
  | some key =>
    have within := inside (by
      obtain ⟨within, _⟩ := Array.getElem?_eq_some_iff.mp atRest
      omega)
    dsimp only
    split
    · rename_i same
      exact same ▸ atRest
    rename_i apart
    split
    · rename_i below
      refine ⟨by omega, fun i other atIndex => ?_⟩
      split
      · rcases Nat.lt_or_eq_of_le (Nat.le_of_lt_succ ‹i < _›) with front | rfl
        · exact Nat.lt_trans (lt_of_ascending ascending front atIndex atRest) below
        · rw [atRest] at atIndex
          cases atIndex
          exact below
      · exact above i other (by omega) atIndex
    · have first := rests key atRest (by omega)
      refine ⟨by omega, fun i other atIndex => ?_⟩
      rw [first, if_neg (Nat.not_lt_zero i)]
      rcases Nat.eq_zero_or_pos i with rfl | positive
      · rw [← first, atRest] at atIndex
        cases atIndex
        omega
      · exact above i other (by omega) atIndex

/-- There is only one answer for a bound behind a key and in front of the next. -/
theorem Answers.eq_of_between {answer : Except Nat Nat} (answers : Answers keys bound answer)
    (ascending : keys.toList.Pairwise (· < ·)) {i key : Nat} (atIndex : keys[i]? = some key)
    (atMost : key ≤ bound) (next : ∀ other, keys[i + 1]? = some other → bound < other) :
    answer = if key = bound then .ok i else .error (i + 1) := by
  obtain ⟨inside, _⟩ := Array.getElem?_eq_some_iff.mp atIndex
  cases answer with
  | ok index =>
    have found : keys[index]? = some bound := answers
    obtain ⟨within, _⟩ := Array.getElem?_eq_some_iff.mp found
    have notBefore : ¬index < i := fun before => by
      have less := lt_of_ascending ascending before found atIndex
      omega
    have notBehind : ¬i < index := fun behind => by
      have atNext : keys[i + 1]? = some keys[i + 1] := Array.getElem?_eq_getElem (by omega)
      have beyond := next _ atNext
      rcases Nat.lt_or_eq_of_le (Nat.succ_le_of_lt behind) with later | rfl
      · have less := lt_of_ascending ascending later atNext found
        omega
      · have same := Option.some.inj (atNext.symm.trans found)
        omega
    obtain rfl : index = i := by omega
    rw [atIndex] at found
    cases found
    rw [if_pos rfl]
  | error place =>
    obtain ⟨atEnd, divides⟩ := answers
    have own := divides i key atIndex
    split at own
    case isFalse => omega
    rename_i front
    have notPast : ¬i + 1 < place := fun past => by
      have atNext : keys[i + 1]? = some keys[i + 1] := Array.getElem?_eq_getElem (by omega)
      have below := divides (i + 1) _ atNext
      rw [if_pos past] at below
      have beyond := next _ atNext
      omega
    rw [if_neg (Nat.ne_of_lt own)]
    congr 1
    omega

end ProfileLexer.Sorted
