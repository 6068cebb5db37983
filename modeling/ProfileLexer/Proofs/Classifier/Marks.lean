import ProfileLexer.Proofs.Classifier.OpenShapes
import ProfileLexer.Proofs.Classifier.Tables

/-!
The characters that strings, comments and literals are known by. A text that starts with any other
character starts with none of them.
-/

namespace ProfileLexer

namespace LiteralForm

/-- The characters that a literal form is known by: its sigil, its lead or its spellings. -/
def marks : LiteralForm → List Char
  | sigilName sigil | quotedSymbol sigil => [sigil]
  | boolean spellings => spellings.flatMap String.toList
  | character lead _ => lead.toList

theorem mem_marks_of_mem_leads {form : LiteralForm} {c : Char} (lead : c ∈ form.leads) :
    c ∈ form.marks := by
  cases form with
  | sigilName _ | quotedSymbol _ => exact lead
  | boolean spellings =>
    obtain ⟨spelling, member, head⟩ := List.mem_filterMap.mp lead
    exact List.mem_flatMap.mpr ⟨spelling, member, List.mem_of_mem_head? head⟩
  | character lead_ names =>
    rw [leads, Option.mem_toList] at lead
    exact List.mem_of_mem_head? lead

theorem mem_chars_of_mem_marks {form : LiteralForm} {c : Char} (mark : c ∈ form.marks) :
    c ∈ form.chars := by
  cases form with
  | sigilName _ | boolean _ | quotedSymbol _ => exact mark
  | character lead names => exact List.mem_append_left _ mark

end LiteralForm

namespace Definition

/-- The characters of everything that delimits strings, comments and literals. -/
def marks (definition : Definition) : List Char :=
  definition.quotes.toList ++ definition.stringLeads.flatMap String.toList ++
    (definition.lineComment.map String.toList).getD [] ++
    (definition.blockComment.map fun block => block.opener.toList ++ block.closer.toList).getD [] ++
    definition.literals.flatMap LiteralForm.marks

end Definition

namespace Profile

/-- The characters that strings, comments and literals may start with, and those of their
markers. -/
def marks (profile : Profile) : List Char :=
  profile.quotes ++ profile.stringLeads.flatten ++ profile.lineComment.getD [] ++
    (profile.blockComment.map (·.opener)).getD [] ++ profile.literals.flatMap LiteralForm.leads

theorem mem_marks_of_accepted {definition : Definition} {profile : Profile}
    (accepted : ofDefinition definition = .ok profile) {c : Char} (mark : c ∈ profile.marks) :
    c ∈ definition.marks := by
  have inLeads : ∀ lead ∈ profile.stringLeads, ∃ spelling ∈ profile.definition.stringLeads,
      spelling.toList = lead := fun _ => mem_stringLeads_of_accepted accepted
  obtain ⟨_, rfl⟩ := eq_build_of_accepted accepted
  simp only [marks, Definition.marks, List.mem_append] at mark ⊢
  rcases mark with (((quote | lead) | line) | opener) | literal
  · exact .inl (.inl (.inl (.inl quote)))
  · obtain ⟨lead, member, own⟩ := List.mem_flatten.mp lead
    obtain ⟨spelling, inTable, rfl⟩ := inLeads lead member
    exact .inl (.inl (.inl (.inr (List.mem_flatMap.mpr ⟨spelling, inTable, own⟩))))
  · exact .inl (.inl (.inr line))
  · refine .inl (.inr ?_)
    cases found : definition.blockComment with
    | none => simp [build, found] at opener
    | some block =>
      have own : c ∈ block.opener.toList := by simpa [build, found] using opener
      exact List.mem_append_left _ own
  · obtain ⟨form, member, lead⟩ := List.mem_flatMap.mp literal
    exact .inr (List.mem_flatMap.mpr ⟨form, member, LiteralForm.mem_marks_of_mem_leads lead⟩)

section

variable {profile : Profile} {c : Char} (unmarked : c ∉ profile.marks)
include unmarked

theorem isQuote_of_unmarked : profile.isQuote c = false := by
  simp only [marks, List.mem_append, not_or] at unmarked
  rw [Bool.eq_false_iff]
  exact fun quoted => unmarked.1.1.1.1 (List.contains_iff_mem.mp quoted)

theorem stringLead?_of_unmarked (rest : List Char) : profile.stringLead? (c :: rest) = none := by
  have noQuote := isQuote_of_unmarked unmarked
  simp only [marks, List.mem_append, not_or] at unmarked
  rw [Option.eq_none_iff_forall_ne_some]
  intro lead found
  obtain ⟨quote, left, split, quoted⟩ := quote_of_stringLead? found
  cases lead with
  | nil =>
    cases split
    rw [noQuote] at quoted
    cases quoted
  | cons first lead =>
    cases split
    exact unmarked.1.1.1.2 (List.mem_flatten.mpr
      ⟨_, List.mem_of_find?_eq_some found, List.mem_cons_self⟩)

theorem lineComment_of_unmarked (wellFormed : profile.WellFormed) (rest : List Char) :
    ∀ marker, profile.lineComment = some marker → ¬ marker <+: c :: rest := by
  intro marker marked starts
  simp only [marks, List.mem_append, not_or] at unmarked
  have nonempty : marker ≠ [] := fun empty => wellFormed.lineComment (by rw [marked, empty])
  refine unmarked.1.1.2 ?_
  rw [marked]
  exact (singleton_prefix_of_front nonempty starts).mem (List.mem_singleton_self c)

theorem blockComment_of_unmarked (wellFormed : profile.WellFormed) (rest : List Char) :
    ∀ markers, profile.blockComment = some markers → ¬ markers.opener <+: c :: rest := by
  intro markers marked starts
  simp only [marks, List.mem_append, not_or] at unmarked
  refine unmarked.1.2 ?_
  rw [marked]
  exact (singleton_prefix_of_front (wellFormed.opener markers marked) starts).mem
    (List.mem_singleton_self c)

theorem noLiteral_of_unmarked (wellFormed : profile.WellFormed) (rest : List Char) :
    profile.NoLiteral (c :: rest) := by
  intro form member
  simp only [marks, List.mem_append, not_or] at unmarked
  rw [Option.eq_none_iff_forall_ne_some]
  intro extent found
  have lead := mem_leads_of_literalExtent? (wellFormed.literals form member) found
  exact unmarked.2 (List.mem_flatMap.mpr ⟨form, member, lead⟩)

end

end Profile

end ProfileLexer
