import ProfileLexer.Proofs.Log.Computation

/-!
Laws of the entries that computations leave behind. A chain leaves what its links leave, so a chain
in which one link leaves more leaves that much more.
-/

namespace ProfileLexer

namespace Event

@[simp] theorem code_withDetails (event : Event) (details : List (String × String)) :
    (event.withDetails details).code = event.code := by
  induction details generalizing event with
  | nil => rfl
  | cons detail details ih => exact ih (event.withDetail detail.1 detail.2)

end Event

namespace Entry

/-- An entry that is logged outside any context and does not report a failed worker. -/
structure Ordinary (entry : Entry) : Prop where
  bare : entry.context = none
  faultless : entry.event.code ≠ .workerFailure

end Entry

namespace Logged

variable {ε δ α β : Type}

theorem entries_bind_of_ok {first : Logged ε α} {value : α} (ok : first.result = .ok value)
    (next : α → Logged ε β) : (first >>= next).entries = first.entries ++ (next value).entries := by
  obtain ⟨entries, result⟩ := first
  cases ok
  rfl

theorem entries_bind_of_error {first : Logged ε α} {error : ε} (failed : first.result = .error error)
    (next : α → Logged ε β) : (first >>= next).entries = first.entries := by
  obtain ⟨entries, result⟩ := first
  cases failed
  rfl

theorem entries_bind_congr (first : Logged ε α) {next later : α → Logged ε β}
    (same : ∀ value, (next value).entries = (later value).entries) :
    (first >>= next).entries = (first >>= later).entries := by
  cases ran : first.result with
  | ok value => rw [entries_bind_of_ok ran, entries_bind_of_ok ran, same]
  | error error => rw [entries_bind_of_error ran, entries_bind_of_error ran]

def Every (passes : Entry → Prop) (computation : Logged ε α) : Prop :=
  ∀ entry ∈ computation.entries, passes entry

section Every

variable {passes : Entry → Prop}

theorem every_pure (value : α) : (Pure.pure value : Logged ε α).Every passes :=
  fun _ member => nomatch member

theorem every_fail (error : ε) : (fail error : Logged ε α).Every passes :=
  fun _ member => nomatch member

theorem every_ofExcept (result : Except ε α) : (ofExcept result).Every passes :=
  fun _ member => nomatch member

theorem Every.mapError {computation : Logged ε α} (every : computation.Every passes)
    (wrap : ε → δ) : (computation.mapError wrap).Every passes :=
  every

theorem Every.bind {first : Logged ε α} {next : α → Logged ε β} (atFirst : first.Every passes)
    (atNext : ∀ value, (next value).Every passes) : (first >>= next).Every passes := by
  intro entry member
  cases ran : first.result with
  | ok value =>
    rw [entries_bind_of_ok ran, List.mem_append] at member
    exact member.elim (atFirst entry) (atNext value entry)
  | error error =>
    rw [entries_bind_of_error ran] at member
    exact atFirst entry member

theorem Every.mapM {items : List α} {f : α → Logged ε β} (every : ∀ item, (f item).Every passes) :
    (items.mapM f).Every passes := by
  induction items with
  | nil => exact every_pure []
  | cons item items ih =>
    rw [List.mapM_cons]
    exact (every item).bind fun value => ih.bind fun values => every_pure (value :: values)

end Every

theorem ordinary_log {event : Event} (faultless : event.code ≠ .workerFailure)
    (details : List (String × String)) :
    (log (event.withDetails details) : Logged ε Unit).Every Entry.Ordinary := by
  refine List.forall_mem_singleton.mpr ⟨rfl, ?_⟩
  show (event.withDetails details).code ≠ .workerFailure
  rwa [Event.code_withDetails]

theorem ordinary_logTimed {event : Event} (faultless : event.code ≠ .workerFailure)
    (details : List (String × String)) :
    (logTimed (event.withDetails details) : Logged ε Unit).Every Entry.Ordinary := by
  refine List.forall_mem_singleton.mpr ⟨rfl, ?_⟩
  show (event.withDetails details).code ≠ .workerFailure
  rwa [Event.code_withDetails]

/-- Computations that leave the same entries behind but for their order: ordinary ones, and some
`extra` ones. What they yield is left open. -/
def Leaves {ι : Type} (extra : List Entry) (family : ι → Logged ε α) : Prop :=
  ∃ own : List Entry, (∀ entry ∈ own, entry.Ordinary) ∧
    ∀ i, (family i).entries.Perm (own ++ extra)

namespace Leaves

variable {ι : Type} {extra : List Entry} {family : ι → Logged ε α}

theorem mapError (leaves : Leaves extra family) (wrap : ε → δ) :
    Leaves extra fun i => (family i).mapError wrap :=
  leaves

theorem comp {κ : Type} (leaves : Leaves extra family) (f : κ → ι) :
    Leaves extra fun j => family (f j) := by
  obtain ⟨own, ordinary, left⟩ := leaves
  exact ⟨own, ordinary, fun j => left (f j)⟩

theorem inside (leaves : Leaves extra family) (context : RunContext) :
    ∃ own : List Entry, (∀ entry ∈ own, entry.Ordinary) ∧ ∀ i,
      ((family i).inside context).entries.Perm ((own ++ extra).map (Entry.inside context)) := by
  obtain ⟨own, ordinary, left⟩ := leaves
  exact ⟨own, ordinary, fun i => (left i).map _⟩

/-- Links that agree on what they yield may be followed by links that agree on what they leave.
Without the first condition the later links might be given different things. -/
theorem bind [Nonempty ι] (leaves : Leaves extra family)
    (agree : ∀ i j, (family i).result = (family j).result) {next : ι → α → Logged ε β}
    (every : ∀ i value, (next i value).Every Entry.Ordinary)
    (same : ∀ i j value, (next i value).entries = (next j value).entries) :
    Leaves extra fun i => family i >>= next i := by
  obtain ⟨own, ordinary, left⟩ := leaves
  obtain ⟨i⟩ := ‹Nonempty ι›
  cases ran : (family i).result with
  | ok value =>
    refine ⟨own ++ (next i value).entries, ?_, fun j => ?_⟩
    · intro entry member
      exact (List.mem_append.mp member).elim (ordinary entry) (every i value entry)
    · rw [entries_bind_of_ok ((agree j i).trans ran), same j i, List.append_assoc]
      have swap : (extra ++ (next i value).entries).Perm ((next i value).entries ++ extra) :=
        List.perm_append_comm
      refine ((left j).append_right _).trans ?_
      rw [List.append_assoc]
      exact swap.append_left own
  | error error =>
    refine ⟨own, ordinary, fun j => ?_⟩
    rw [entries_bind_of_error ((agree j i).trans ran)]
    exact left j

/-- A first link that is the same for all leaves what it leaves, in front of the others. -/
theorem after {first : Logged ε α} (every : first.Every Entry.Ordinary) {value : α}
    (ok : first.result = .ok value) {next : ι → α → Logged ε β}
    (leaves : Leaves extra fun i => next i value) : Leaves extra fun i => first >>= next i := by
  obtain ⟨own, ordinary, left⟩ := leaves
  refine ⟨first.entries ++ own, ?_, fun i => ?_⟩
  · intro entry member
    exact (List.mem_append.mp member).elim (every entry) (ordinary entry)
  · rw [entries_bind_of_ok ok, List.append_assoc]
    exact (left i).append_left _

end Leaves

end Logged

end ProfileLexer
