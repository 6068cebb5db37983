import Mathlib.Logic.Basic
import ProfileLexer.Proofs.Value.Decode
import ProfileLexer.Proofs.Value.Json
import ProfileLexer.Token.Stream

/-!
Tokens that carry meaning. A stream that is made of tokens lists them; a stream that is read from
data has the tokens, but no list.
-/

namespace ProfileLexer

namespace Token

theorem isSignificant_iff {token : Token} :
    token.isSignificant = true ↔ token.kind ≠ .whitespace ∧ token.kind ≠ .comment := by
  rw [isSignificant]
  cases token.kind <;> decide

end Token

theorem TokenKind.ofName?_name (kind : TokenKind) : ofName? kind.name = some kind := by
  cases kind <;> decide

theorem Issue.ofName?_name (issue : Issue) : ofName? issue.name = some issue := by
  cases issue <;> decide

namespace Token

/-- The record of a token is plain data, whatever its text is, if its offset fits into a word. -/
theorem plain_toValue {token : Token} (fits : token.offset < wordLimit) : token.toValue.Plain := by
  have number := Value.Plain.nat fits
  rw [toValue]
  cases token.issue with
  | none =>
    refine .record (by simp) ?_
    simp only [List.append_nil, List.forall_mem_cons]
    exact ⟨.text _, .text _, number, .flag _, nofun⟩
  | some issue =>
    refine .record (by simp) ?_
    simp only [List.cons_append, List.nil_append, List.forall_mem_cons]
    exact ⟨.text _, .text _, number, .flag _, .text _, nofun⟩

/-- A token is the token that its record holds. -/
theorem ofValue?_toValue {token : Token} (fits : token.offset < wordLimit) :
    ofValue? token.toValue = some token := by
  obtain ⟨kind, text, offset, valid, issue⟩ := token
  have number := Value.asNat?_nat fits
  cases issue with
  | none =>
    simp [toValue, ofValue?, Value.asFields?, Value.required?, Value.optional?, List.lookup_cons,
      Value.asNamed?, Value.asText?, Value.asFlag?, TokenKind.ofName?_name, number]
  | some issue =>
    simp [toValue, ofValue?, Value.asFields?, Value.required?, Value.optional?, List.lookup_cons,
      Value.asNamed?, Value.asText?, Value.asFlag?, Value.orNull?, TokenKind.ofName?_name,
      Issue.ofName?_name, number]

end Token

namespace TokenStream

theorem map_fst_index (tokens : List Token) :
    (tokens.zipIdx.filter (·.1.isSignificant)).map Prod.fst = tokens.filter (·.isSignificant) := by
  conv => rhs; rw [← List.zipIdx_map_fst 0 tokens]
  rw [List.filter_map]
  rfl

/-- The index of a stream that is made of tokens lists those that carry meaning, in their order. -/
theorem significant_ofTokens (tokens : List Token) :
    (ofTokens tokens).significant = tokens.filter (·.isSignificant) := by
  have found : ∀ entry ∈ tokens.zipIdx, tokens.toArray[entry.2]? = some entry.1 := by
    intro entry member
    rw [List.getElem?_toArray]
    exact List.mem_zipIdx_iff_getElem?.mp member
  simp only [significant, ofTokens, List.filterMap_map]
  rw [← map_fst_index, ← List.filterMap_eq_map]
  refine List.filterMap_congr fun entry member => ?_
  exact found entry (List.mem_of_mem_filter member)

theorem significantCount_ofTokens (tokens : List Token) :
    (ofTokens tokens).significantCount = (tokens.filter (·.isSignificant)).length := by
  rw [significantCount, ofTokens, List.length_map, ← map_fst_index, List.length_map]

theorem index_ofTokens_eq_nil {tokens : List Token} :
    (ofTokens tokens).index = [] ↔ ∀ token ∈ tokens, token.isSignificant = false := by
  rw [← List.length_eq_zero_iff, ← significantCount, significantCount_ofTokens,
    List.length_eq_zero_iff, List.filter_eq_nil_iff]
  simp only [Bool.not_eq_true]

theorem plain_toValue {stream : TokenStream}
    (fits : ∀ token ∈ stream.tokens, token.offset < wordLimit) : stream.toValue.Plain := by
  refine .record (by simp) fun field member => ?_
  obtain rfl := List.mem_singleton.mp member
  refine .list fun item listed => ?_
  obtain ⟨token, inStream, rfl⟩ := List.mem_map.mp listed
  exact Token.plain_toValue (fits token inStream)

/-- A stream that is read from the record of another has its tokens and an empty index. -/
theorem ofValue?_toValue {stream : TokenStream}
    (fits : ∀ token ∈ stream.tokens, token.offset < wordLimit) :
    ofValue? stream.toValue = some ⟨stream.tokens, []⟩ := by
  have tokens : Value.asListOf? Token.ofValue? (.list (stream.tokens.map Token.toValue)) =
      some stream.tokens :=
    Value.asListOf?_map fun token member => Token.ofValue?_toValue (fits token member)
  simp [toValue, ofValue?, Value.asFields?, Value.required?, tokens]

/-- Whatever codec holds its record, a stream is read back with its tokens and without its index, if
the codec is exact on plain data. What the text looks like does not matter. -/
theorem reload_of_exact {codec : Value.Codec} (exact : codec.Exact) {stream : TokenStream}
    (fits : ∀ token ∈ stream.tokens, token.offset < wordLimit) :
    ∃ text, codec.write? stream.toValue = some text ∧
      (codec.read? text).bind ofValue? = some ⟨stream.tokens, []⟩ := by
  obtain ⟨text, written, read⟩ := exact.readsBack (plain_toValue fits)
  refine ⟨text, written, ?_⟩
  rw [read, Option.bind_some]
  exact ofValue?_toValue fits

/-- A stream that is made of tokens lists those that are neither blanks nor comments, in their
order. The one that is read from its text, in any codec that is exact on plain data, has the same
tokens, but lists none of them; so it is the same stream only when all tokens are blanks and
comments. To list them it has to be made anew. The library's own JSON is such a codec. Texts of
tokens may hold any characters; offsets have to fit into a word. -/
theorem reloaded_of_json {tokens : List Token}
    (fits : ∀ token ∈ tokens, token.offset < wordLimit) :
    let stream := ofTokens tokens
    stream.significant =
        tokens.filter (fun token => token.kind ≠ .whitespace ∧ token.kind ≠ .comment) ∧
      stream.significantCount = stream.significant.length ∧
      Value.json.Exact ∧
      ∀ codec : Value.Codec, codec.Exact →
        ∃ text reloaded, codec.write? stream.toValue = some text ∧
          (codec.read? text).bind ofValue? = some reloaded ∧
          reloaded.tokens = tokens ∧ reloaded.significant = [] ∧ reloaded.significantCount = 0 ∧
          ofTokens reloaded.tokens = stream ∧
          (reloaded = stream ↔
            ∀ token ∈ tokens, token.kind = .whitespace ∨ token.kind = .comment) := by
  intro stream
  have kinds : tokens.filter (·.isSignificant) =
      tokens.filter (fun token => token.kind ≠ .whitespace ∧ token.kind ≠ .comment) := by
    refine List.filter_congr fun token _ => ?_
    rw [Bool.eq_iff_iff, Token.isSignificant_iff, decide_eq_true_iff]
  refine ⟨(significant_ofTokens tokens).trans kinds, ?_, Value.exact_json, fun codec exact => ?_⟩
  · rw [significantCount_ofTokens, significant_ofTokens]
  · obtain ⟨text, written, reload⟩ := @reload_of_exact codec exact stream fits
    refine ⟨text, ⟨tokens, []⟩, written, reload, rfl, rfl, rfl, rfl, ?_⟩
    have same : (⟨tokens, []⟩ : TokenStream) = stream ↔ stream.index = [] :=
      ⟨fun same => same ▸ rfl, fun empty => by rw [← empty]; rfl⟩
    rw [same, index_ofTokens_eq_nil]
    refine forall₂_congr fun token _ => ?_
    rw [← Bool.not_eq_true, Token.isSignificant_iff]
    tauto

/-- A name, blanks and a string without an end, kept as JSON. Among the characters are a quote, a
backslash and one that does not show. -/
theorem reloaded_of_json_with_blanks :
    let tokens : List Token := [⟨.identifier, "a", 0, true, none⟩,
      ⟨.whitespace, "\t\x01", 1, true, none⟩, .invalid .string ⟨"\"é\\", 3⟩ .unterminatedLiteral]
    let stream := ofTokens tokens
    (∀ token ∈ tokens, token.offset < wordLimit) ∧ stream.significantCount = 2 ∧
      Value.json.Exact ∧
      ∃ reloaded, (Value.ofJson? stream.toValue.compact).bind ofValue? = some reloaded ∧
        reloaded.tokens = tokens ∧ reloaded.significantCount = 0 ∧ reloaded ≠ stream := by
  intro tokens stream
  have fits : ∀ token ∈ tokens, token.offset < wordLimit := by decide
  obtain ⟨_, _, exact, every⟩ := reloaded_of_json fits
  obtain ⟨text, reloaded, written, reload, same, _, none_listed, _, equal⟩ :=
    every Value.json Value.exact_json
  rw [Value.write?_json] at written
  obtain rfl := Option.some.inj written
  rw [Value.read?_json] at reload
  refine ⟨fits, by decide, exact, reloaded, reload, same, none_listed, fun whole => ?_⟩
  exact absurd (equal.mp whole) (by decide)

/-- A stream of one name is another stream when it is read from its own JSON text. -/
theorem significant_lost_in_json :
    let stream := ofTokens [⟨.identifier, "a", 0, true, none⟩]
    ∃ reloaded, (Value.ofJson? stream.toValue.compact).bind ofValue? = some reloaded ∧
      reloaded.tokens = stream.tokens ∧
      reloaded.significant ≠ reloaded.tokens.filter
        (fun token => token.kind ≠ .whitespace ∧ token.kind ≠ .comment) ∧
      reloaded.significantCount ≠ stream.significantCount ∧ reloaded ≠ stream := by
  intro stream
  have reload : (Value.ofJson? stream.toValue.compact).bind ofValue? = some ⟨stream.tokens, []⟩ := by
    decide +kernel
  exact ⟨_, reload, rfl, by decide, by decide, by decide⟩

end TokenStream

end ProfileLexer
