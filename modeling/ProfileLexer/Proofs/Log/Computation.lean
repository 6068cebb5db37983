import ProfileLexer.Log.Entry

/-!
Laws of computations that leave log entries behind. The result of a chain of computations depends
on the results of its links alone.
-/

namespace ProfileLexer.Logged

variable {ε δ α β : Type}

instance : LawfulMonad (Logged ε) := by
  refine LawfulMonad.mk' (Logged ε) ?_ ?_ ?_
  · intro α computation
    obtain ⟨entries, result⟩ := computation
    cases result <;> simp [Functor.map, bind, pure]
  · intro α β value next
    simp [Bind.bind, Pure.pure, bind, pure]
  · intro α β γ computation next last
    obtain ⟨entries, result⟩ := computation
    cases result with
    | error error => rfl
    | ok value =>
      simp only [Bind.bind, bind]
      cases (next value).result <;> simp

@[simp] theorem result_pure (value : α) : (Pure.pure value : Logged ε α).result = .ok value := rfl

@[simp] theorem result_fail (error : ε) : (fail error : Logged ε α).result = .error error := rfl

@[simp] theorem result_write (entries : List Entry) :
    (write entries : Logged ε Unit).result = .ok () := rfl

@[simp] theorem result_log (event : Event) : (log event : Logged ε Unit).result = .ok () := rfl

@[simp] theorem result_logTimed (event : Event) :
    (logTimed event : Logged ε Unit).result = .ok () := rfl

@[simp] theorem result_ofExcept (result : Except ε α) : (ofExcept result).result = result := rfl

@[simp] theorem result_inside (context : RunContext) (computation : Logged ε α) :
    (computation.inside context).result = computation.result := rfl

theorem result_bind (first : Logged ε α) (next : α → Logged ε β) :
    (first >>= next).result =
      match first.result with
      | .ok value => (next value).result
      | .error error => .error error := by
  obtain ⟨entries, result⟩ := first
  cases result <;> rfl

@[simp] theorem result_bind_of_ok {first : Logged ε α} {value : α} (ok : first.result = .ok value)
    (next : α → Logged ε β) : (first >>= next).result = (next value).result := by
  rw [result_bind, ok]

theorem result_bind_of_error {first : Logged ε α} {error : ε} (failed : first.result = .error error)
    (next : α → Logged ε β) : (first >>= next).result = .error error := by
  rw [result_bind, failed]

/-- A chain succeeds exactly when its first link does and the rest does on what the link yields. -/
theorem result_bind_eq_ok {first : Logged ε α} {next : α → Logged ε β} {value : β} :
    (first >>= next).result = .ok value ↔
      ∃ middle, first.result = .ok middle ∧ (next middle).result = .ok value := by
  rw [result_bind]
  cases first.result with
  | ok middle => simp
  | error error => simp

theorem result_bind_eq_error {first : Logged ε α} {next : α → Logged ε β} {error : ε} :
    (first >>= next).result = .error error ↔
      first.result = .error error ∨
        ∃ middle, first.result = .ok middle ∧ (next middle).result = .error error := by
  rw [result_bind]
  cases first.result with
  | ok middle => simp
  | error other => simp

theorem result_mapError_of_ok {computation : Logged ε α} {value : α} (wrap : ε → δ)
    (ok : computation.result = .ok value) : (computation.mapError wrap).result = .ok value := by
  simp only [mapError, ok]

theorem result_eq_ok_of_mapError {computation : Logged ε α} {wrap : ε → δ} {value : α}
    (ok : (computation.mapError wrap).result = .ok value) : computation.result = .ok value := by
  simp only [mapError] at ok
  cases result : computation.result with
  | ok other =>
    rw [result] at ok
    cases ok
    rfl
  | error error => simp [result] at ok

theorem result_mapError_eq_error {computation : Logged ε α} {wrap : ε → δ} {error : δ} :
    (computation.mapError wrap).result = .error error ↔
      ∃ cause, computation.result = .error cause ∧ wrap cause = error := by
  simp only [mapError]
  cases computation.result <;> simp

/-- A list of computations that all succeed yields the list of what they yield. What they log does
not matter. -/
theorem result_mapM_of_ok {items : List α} {f : α → Logged ε β} {g : α → β}
    (ok : ∀ item ∈ items, (f item).result = .ok (g item)) :
    (items.mapM f).result = .ok (items.map g) := by
  induction items with
  | nil => rfl
  | cons item items ih =>
    have first := ok item (List.mem_cons_self ..)
    have rest := ih fun other member => ok other (List.mem_cons_of_mem _ member)
    rw [List.mapM_cons, result_bind_of_ok first, result_bind_of_ok rest]
    rfl

/-- A list of computations succeeds only if each of them does. -/
theorem result_of_mem_of_mapM {items : List α} {f : α → Logged ε β} {values : List β}
    (ok : (items.mapM f).result = .ok values) {item : α} (member : item ∈ items) :
    ∃ value, (f item).result = .ok value := by
  induction items generalizing values with
  | nil => cases member
  | cons first items ih =>
    rw [List.mapM_cons, result_bind_eq_ok] at ok
    obtain ⟨value, okFirst, rest⟩ := ok
    rw [result_bind_eq_ok] at rest
    obtain ⟨tail, okRest, _⟩ := rest
    rcases List.mem_cons.mp member with rfl | inside
    · exact ⟨value, okFirst⟩
    · exact ih okRest inside

/-- The error of a list of computations is the error of one of them, and all before it succeed.
Those behind it are not looked at. -/
theorem result_mapM_eq_error {items : List α} {f : α → Logged ε β} {error : ε}
    (failed : (items.mapM f).result = .error error) :
    ∃ before item after, items = before ++ item :: after ∧ (f item).result = .error error ∧
      ∀ earlier ∈ before, ∃ value, (f earlier).result = .ok value := by
  induction items with
  | nil => simp at failed
  | cons item items ih =>
    rw [List.mapM_cons, result_bind_eq_error] at failed
    rcases failed with atHead | ⟨value, okHead, inTail⟩
    · exact ⟨[], item, items, rfl, atHead, by simp⟩
    · rw [result_bind_eq_error] at inTail
      rcases inTail with deeper | ⟨values, _, impossible⟩
      · obtain ⟨before, culprit, after, rfl, atCulprit, earlierOk⟩ := ih deeper
        refine ⟨item :: before, culprit, after, rfl, atCulprit, ?_⟩
        rintro earlier member
        rcases List.mem_cons.mp member with rfl | inside
        · exact ⟨value, okHead⟩
        · exact earlierOk earlier inside
      · simp at impossible

end ProfileLexer.Logged
