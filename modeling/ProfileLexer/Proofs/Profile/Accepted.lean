import ProfileLexer.Profile.Basic

/-!
What is known of a profile whose definition has been accepted.
-/

namespace ProfileLexer

/-- What the rules rely on: no operator and no comment marker is empty, and every literal form
starts with something. Other problems that a definition is refused for do not matter to them. -/
structure Profile.WellFormed (profile : Profile) : Prop where
  operators : [] ∉ profile.operators
  lineComment : profile.lineComment ≠ some []
  opener : ∀ markers, profile.blockComment = some markers → markers.opener ≠ []
  closer : ∀ markers, profile.blockComment = some markers → markers.closer ≠ []
  literals : ∀ form ∈ profile.literals, form.isVacuous = false

theorem LiteralForm.lead_ne_nil {lead : String} {names : List String}
    (solid : (character lead names).isVacuous = false) : lead.toList ≠ [] := by
  intro empty
  rw [isVacuous, String.toList_eq_nil_iff.mp empty] at solid
  cases solid

theorem LiteralForm.spelling_ne_nil {spellings : List String} {spelling : String}
    (solid : (boolean spellings).isVacuous = false) (member : spelling ∈ spellings) :
    spelling.toList ≠ [] := by
  intro empty
  rw [isVacuous, Bool.or_eq_false_iff, List.any_eq_false] at solid
  apply solid.2 spelling member
  rw [String.toList_eq_nil_iff.mp empty]
  rfl

theorem Definition.markers_of_problem?_eq_none {definition : Definition}
    (sound : definition.markerProblem? = none) : (Profile.build definition).lineComment ≠ some [] ∧
      ∀ markers, (Profile.build definition).blockComment = some markers →
        markers.opener ≠ [] ∧ markers.closer ≠ [] := by
  rw [markerProblem?] at sound
  split at sound
  · cases sound
  rename_i marked
  refine ⟨?_, ?_⟩
  · intro empty
    obtain ⟨marker, found, nothing⟩ := Option.map_eq_some_iff.mp empty
    rw [String.toList_eq_nil_iff.mp nothing] at found
    exact marked found
  · intro markers found
    obtain ⟨block, atBlock, rfl⟩ := Option.map_eq_some_iff.mp found
    rw [atBlock] at sound
    dsimp only at sound
    split at sound
    · cases sound
    rename_i opener
    split at sound
    · cases sound
    rename_i closer
    refine ⟨fun nothing => opener ?_, fun nothing => closer ?_⟩
    · rw [String.toList_eq_nil_iff.mp nothing]
      rfl
    · rw [String.toList_eq_nil_iff.mp nothing]
      rfl

theorem Profile.length_le_operatorLength {definition : Definition} {operator : List Char}
    (member : operator ∈ (build definition).operators) :
    operator.length ≤ (build definition).operatorLength := by
  obtain ⟨word, inTable, rfl⟩ := List.mem_map.mp member
  have longest : (0 :: definition.operators.map (·.toList.length)).max? =
      some (build definition).operatorLength := List.max?_cons'
  exact (List.max?_eq_some_iff.mp longest).2 _
    (List.mem_cons_of_mem _ (List.mem_map.mpr ⟨word, inTable, rfl⟩))

/-- The profile of an accepted definition has the tables of the definition, and the definition has
no problem. -/
theorem Profile.eq_build_of_accepted {definition : Definition} {profile : Profile}
    (accepted : ofDefinition definition = .ok profile) :
    definition.problem? = none ∧ profile = build definition := by
  rw [ofDefinition] at accepted
  split at accepted
  · cases accepted
  · rename_i sound
    cases accepted
    exact ⟨sound, rfl⟩

theorem Profile.wellFormed_of_accepted {definition : Definition} {profile : Profile}
    (accepted : ofDefinition definition = .ok profile) : profile.WellFormed := by
  obtain ⟨sound, rfl⟩ := eq_build_of_accepted accepted
  rw [Definition.problem?] at sound
  split at sound
  · cases sound
  simp only [Option.or_eq_none_iff, Option.map_eq_none_iff] at sound
  obtain ⟨operators, _, _, markers, literals⟩ := sound
  obtain ⟨lineComment, blockComment⟩ := Definition.markers_of_problem?_eq_none markers
  refine ⟨?_, lineComment, fun markers found => (blockComment markers found).1,
    fun markers found => (blockComment markers found).2, ?_⟩
  · intro empty
    obtain ⟨operator, member, none_there⟩ := List.mem_map.mp empty
    have problem := List.findSome?_eq_none_iff.mp operators operator member
    simp [Definition.operatorProblem?, none_there] at problem
  · intro form member
    have solid := List.find?_eq_none.mp literals form member
    simpa using solid

end ProfileLexer
