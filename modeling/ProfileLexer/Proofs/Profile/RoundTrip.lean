import ProfileLexer.Profile.Toml
import ProfileLexer.Proofs.Log.Computation
import ProfileLexer.Proofs.Profile.Accepted
import ProfileLexer.Proofs.Value.Decode
import ProfileLexer.Proofs.Value.TomlDocument
import ProfileLexer.Run.Tokenize

/-!
Profiles as TOML texts: the text of a profile is read back as the same profile.
-/

namespace ProfileLexer

open Toml (Simple Table Fields Document BareName)

/-! ### What is written -/

theorem NumberForms.table_toValue (forms : NumberForms) : Table forms.toValue := by
  refine .record (.of_forall (by simp) ?_)
  simp only [List.forall_mem_cons]
  exact ⟨⟨by decide, .flag _⟩, ⟨by decide, .flag _⟩, ⟨by decide, .flag _⟩, ⟨by decide, .flag _⟩,
    ⟨by decide, .flag _⟩, ⟨by decide, .flag _⟩, ⟨by decide, .flag _⟩, nofun⟩

theorem BlockComment.table_toValue (block : BlockComment) : Table block.toValue := by
  refine .record (.of_forall (by simp) ?_)
  simp only [List.forall_mem_cons]
  exact ⟨⟨by decide, .text _⟩, ⟨by decide, .text _⟩, ⟨by decide, .flag _⟩, nofun⟩

namespace LiteralForm

theorem exists_fields (form : LiteralForm) :
    ∃ fields, form.toValue = .record fields ∧ Fields fields := by
  cases form with
  | sigilName sigil | quotedSymbol sigil =>
    refine ⟨_, rfl, .of_forall (by simp) ?_⟩
    simp only [List.forall_mem_cons]
    exact ⟨⟨by decide, .text _⟩, ⟨by decide, .text _⟩, nofun⟩
  | boolean spellings =>
    refine ⟨_, rfl, .of_forall (by simp) ?_⟩
    simp only [List.forall_mem_cons]
    exact ⟨⟨by decide, .text _⟩, ⟨by decide, .texts _⟩, nofun⟩
  | character lead names =>
    refine ⟨_, rfl, .of_forall (by simp) ?_⟩
    simp only [List.forall_mem_cons]
    exact ⟨⟨by decide, .text _⟩, ⟨by decide, .text _⟩, ⟨by decide, .texts _⟩, nofun⟩

/-- Literal forms are written as a list of tables, unless there are none. -/
theorem simple_or_table (forms : List LiteralForm) :
    Simple (.list (forms.map toValue)) ∨ Table (.list (forms.map toValue)) := by
  choose fields same fits using exists_fields
  cases forms with
  | nil => exact .inl (.texts [])
  | cons first others =>
    have records : (first :: others).map toValue =
        (fields first :: others.map fields).map .record := by
      rw [← List.map_cons, List.map_map]
      exact List.map_congr_left fun form _ => same form
    refine .inr (records ▸ .list fun own member => ?_)
    rw [← List.map_cons] at member
    obtain ⟨form, _, rfl⟩ := List.mem_map.mp member
    exact fits form

end LiteralForm

namespace Definition

theorem document_fields (definition : Definition) : Document definition.fields := by
  refine .of_forall ?_ ?_
  · rw [fields]
    cases definition.lineComment <;> cases definition.blockComment <;> simp
  · have literals := LiteralForm.simple_or_table definition.literals
    simp only [fields, List.forall_mem_append, List.forall_mem_cons]
    refine ⟨⟨⟨⟨?_, ?_⟩, ?_⟩, ?_⟩, ⟨by decide, literals⟩, nofun⟩
    · exact ⟨⟨by decide, .inl (.text _)⟩, ⟨by decide, .inl (.texts _)⟩, ⟨by decide, .inl (.text _)⟩,
        ⟨by decide, .inl (.text _)⟩, ⟨by decide, .inl (.flag _)⟩, ⟨by decide, .inl (.texts _)⟩,
        ⟨by decide, .inl (.texts _)⟩, ⟨by decide, .inl (.texts _)⟩, ⟨by decide, .inl (.texts _)⟩,
        ⟨by decide, .inl (.texts _)⟩, ⟨by decide, .inl (.text _)⟩, ⟨by decide, .inl (.text _)⟩,
        ⟨by decide, .inl (.texts _)⟩, nofun⟩
    · cases definition.lineComment with
      | none => exact nofun
      | some marker =>
        simp only [List.forall_mem_cons]
        exact ⟨⟨by decide, .inl (.text _)⟩, nofun⟩
    · exact ⟨⟨by decide, .inl (.text _)⟩, ⟨by decide, .inl (.text _)⟩, ⟨by decide, .inl (.text _)⟩,
        ⟨by decide, .inr definition.numbers.table_toValue⟩, nofun⟩
    · cases definition.blockComment with
      | none => exact nofun
      | some block =>
        simp only [List.forall_mem_cons]
        exact ⟨⟨by decide, .inr block.table_toValue⟩, nofun⟩

/-! ### What is read -/

end Definition

theorem NumberForms.ofValue?_toValue (forms : NumberForms) :
    ofValue? forms.toValue = some forms := by
  simp [toValue, ofValue?, Value.asFields?, Value.optional?, List.lookup_cons, Value.asFlag?]

theorem BlockComment.ofValue?_toValue (block : BlockComment) :
    ofValue? block.toValue = some block := by
  simp [toValue, ofValue?, Value.asFields?, Value.required?, Value.optional?, List.lookup_cons,
    Value.asText?, Value.asFlag?]

theorem LiteralForm.ofValue?_toValue (form : LiteralForm) : ofValue? form.toValue = some form := by
  cases form <;>
    simp [toValue, name, ofValue?, ofParts?, Value.asFields?, Value.required?, Value.optional?,
      List.lookup_cons, Value.asText?, Value.asChar?_singleton, Value.asTexts?_texts]

namespace Definition

/-- The order of fields does not matter where no name comes twice. -/
theorem lookup_eq_of_perm {fields others : List (String × Value)} (perm : fields.Perm others)
    (distinct : (fields.map Prod.fst).Nodup) (name : String) :
    fields.lookup name = others.lookup name := by
  induction perm with
  | nil => rfl
  | cons field _ ih =>
    rw [List.lookup_cons, List.lookup_cons, ih (List.nodup_cons.mp distinct).2]
  | swap first second rest =>
    have apart : first.1 ≠ second.1 := fun same =>
      (List.nodup_cons.mp distinct).1 (by rw [List.map_cons, same]; exact List.mem_cons_self)
    rw [List.lookup_cons, List.lookup_cons, List.lookup_cons, List.lookup_cons]
    rcases eq_or_ne name first.1 with rfl | other
    · rw [beq_false_of_ne apart, beq_self_eq_true]
    · rw [beq_false_of_ne other]
  | trans firstPerm _ ih ih' =>
    exact (ih distinct).trans (ih' ((firstPerm.map Prod.fst).nodup_iff.mp distinct))

/-- Only what is there by name counts. Fields with other names are passed over. -/
theorem ofValue?_of_lookup {fields others : List (String × Value)}
    (same : ∀ name, fields.lookup name = others.lookup name) :
    ofValue? (.record fields) = ofValue? (.record others) := by
  simp only [ofValue?, Value.required?, Value.optional?, same]

theorem ofValue?_toValue (definition : Definition) :
    ofValue? definition.toValue = some definition := by
  have caseRule : Value.asNamed? CaseRule.ofName? (.text definition.caseRule.name) =
      some definition.caseRule := by
    cases definition.caseRule <;> rfl
  have numbers := definition.numbers.ofValue?_toValue
  have markers : ∀ marker : String, Value.orNull? Value.asText? (.text marker) =
      some (some marker) :=
    fun _ => rfl
  have blocks : ∀ block : BlockComment, Value.orNull? BlockComment.ofValue? block.toValue =
      some (some block) :=
    fun block => congrArg (Option.map some) block.ofValue?_toValue
  have literals : Value.asListOf? LiteralForm.ofValue?
      (.list (definition.literals.map LiteralForm.toValue)) = some definition.literals :=
    Value.asListOf?_map fun form _ => form.ofValue?_toValue
  obtain ⟨id, aliases, description, _, operatorBoundary, keywords, builtins, functions, datatypes,
    operators, delimiters, quotes, stringLeads, lineComment, identifierStart, identifierContinue,
    alphabet, _, blockComment, _⟩ := definition
  cases lineComment <;> cases blockComment <;>
    simp [toValue, fields, ofValue?, Value.required?, Value.optional?, List.lookup_cons, Value.asText?,
      Value.asFlag?, Value.asTexts?_texts, caseRule, numbers, literals, markers, blocks]

/-- The text of a definition holds the definition, in any codec that is faithful to documents. That
such a codec may turn the fields around does not matter, for no name comes twice. -/
theorem exists_text {codec : Value.Codec} (faithful : Toml.Faithful codec) (definition : Definition) :
    ∃ text, definition.toTextWith? codec = some text ∧
      ofTextWith? codec text = some definition := by
  have document := definition.document_fields
  obtain ⟨text, others, written, read, perm⟩ := faithful.readsBack document
  have same := lookup_eq_of_perm perm ((perm.map Prod.fst).nodup_iff.mpr document.distinct)
  refine ⟨text, written, ?_⟩
  rw [ofTextWith?, read, Option.bind_some, ofValue?_of_lookup same]
  exact definition.ofValue?_toValue

/-- A definition with strings of every form: with breaks, quotes, backslashes and control
characters. It is accepted, though no language looks like it. -/
def manyStrings : Definition :=
  { ofId "strings" with
    aliases := ["", "\"", "it's", "it's \"\"\"", "''' and \"\"\"", "\\\n'''\n"]
    description := "\n\x01\t\r\"\"\"\"\\\x7f"
    keywords := ["é", "tab\t"]
    operators := ["\\", "\"\"\""]
    lineComment := some "#'\""
    blockComment := some ⟨"\x00", "\\n", true⟩
    literals := [.sigilName '\n', .boolean ["\t'"], .character "#\\" ["\"", "new\nline"],
      .quotedSymbol '\''] }

end Definition

/-- The library's own TOML is faithful: it moves the tables of a document behind its other fields
and keeps everything else in place. -/
theorem Toml.faithful_codec : Faithful codec := by
  refine ⟨fun {fields} document => ⟨_, _, rfl, document.read?_write, ?_⟩⟩
  simpa using List.filter_append_perm (fun field => !isTable field.2) fields

namespace Profile

/-- Every profile can be written as a text, and the same profile is made again of the text: its
definition is the one that it was made of, whatever characters stand in the tables, and it tokenizes
every source in the same way. Of the format of the text it is only asked that documents are read
back with the fields that were written, and the definition of a profile is a document. The library's
own TOML is such a format. -/
theorem ofToml_toToml {definition : Definition} {profile : Profile}
    (accepted : ofDefinition definition = .ok profile) :
    Document profile.definition.fields ∧ Toml.Faithful Toml.codec ∧
      profile.definition.toTextWith? Toml.codec = some profile.definition.toToml ∧
      ∀ codec : Value.Codec, Toml.Faithful codec →
        ∃ text reloaded, profile.definition.toTextWith? codec = some text ∧
          (ofTextWith codec text).result = .ok reloaded ∧
          reloaded.definition = definition ∧ reloaded = profile ∧
          ∀ (config : RunConfig) (schedule : Schedule) (readings : Readings) (source : String),
            tokenizeWith reloaded config (.classifying reloaded config.classify) schedule readings
                source =
              tokenizeWith profile config (.classifying profile config.classify) schedule readings
                source := by
  obtain ⟨_, rfl⟩ := eq_build_of_accepted accepted
  have loaded : (load definition).result = .ok (build definition) := by
    rw [load, accepted]
  refine ⟨definition.document_fields, Toml.faithful_codec, rfl, fun codec faithful => ?_⟩
  obtain ⟨text, written, read⟩ := definition.exists_text faithful
  refine ⟨text, build definition, written, ?_, rfl, rfl, fun _ _ _ _ => rfl⟩
  rw [ofTextWith, read]
  simp only
  rw [Logged.result_bind_of_ok loaded, Logged.result_bind_of_ok (Logged.result_log _)]
  rfl

theorem ofToml_toToml_of_many_strings :
    ofDefinition .manyStrings = .ok (build .manyStrings) ∧ Toml.Faithful Toml.codec ∧
      ∃ reloaded, (ofToml Definition.manyStrings.toToml).result = .ok reloaded ∧
        reloaded.definition = .manyStrings := by
  have accepted : ofDefinition .manyStrings = .ok (build .manyStrings) := by
    have sound : Definition.manyStrings.problem? = none := by decide
    rw [ofDefinition, sound]
  obtain ⟨_, faithful, toml, every⟩ := ofToml_toToml accepted
  obtain ⟨text, reloaded, written, read, same, _⟩ := every Toml.codec Toml.faithful_codec
  obtain rfl : Definition.manyStrings.toToml = text := Option.some.inj (toml.symm.trans written)
  exact ⟨accepted, faithful, reloaded, read, same⟩

end Profile

end ProfileLexer
