import ProfileLexer.Proofs.Automaton.Verdict
import ProfileLexer.Proofs.Scan.Extents

/-!
What the automaton makes of blanks, words, comments, strings and literals from the state on in which
it reads them.
-/

namespace ProfileLexer

namespace Profile

variable {profile : Profile} {read : List Char} {used : Nat}

/-- The kind of a word that is not something else: that of the tables, or an identifier. -/
def wordOr (profile : Profile) (word : List Char) : TokenKind :=
  (profile.wordKind? word).getD .identifier

theorem kindFrom?_layout (text : List Char) :
    profile.kindFrom? .layout read used text =
      if text.all isLayout then some .whitespace else none := by
  induction text generalizing read used with
  | nil => rw [kindFrom?_of_accept rfl]; rfl
  | cons c text ih =>
    cases blank : isLayout c with
    | true =>
      rw [kindFrom?_of_read .layout text (by simp [Machine.onChar, machineIn, blank]), ih,
        List.all_cons, blank, Bool.true_and]
    | false =>
      rw [kindFrom?_of_stop text (by simp [Machine.onChar, machineIn, blank]), List.all_cons, blank]
      rfl

theorem kindFrom?_lineComment (text : List Char) :
    profile.kindFrom? .lineComment read used text =
      if text.any isLineBreak then none else some .comment := by
  induction text generalizing read used with
  | nil => rw [kindFrom?_of_accept rfl]; rfl
  | cons c text ih =>
    cases break_ : isLineBreak c with
    | true =>
      rw [kindFrom?_of_stop text (by simp [Machine.onChar, machineIn, break_]), List.any_cons, break_]
      rfl
    | false =>
      rw [kindFrom?_of_read .lineComment text (by simp [Machine.onChar, machineIn, break_]),
        ih, List.any_cons, break_, Bool.false_or]

theorem kindFrom?_word_append {word : List Char} (text : List Char)
    (goesOn : word.all profile.continuesIdentifier = true) :
    profile.kindFrom? .word read used (word ++ text) =
      profile.kindFrom? .word (read ++ word) used text := by
  induction word generalizing read with
  | nil => rw [List.nil_append, List.append_nil]
  | cons c word ih =>
    rw [List.all_cons, Bool.and_eq_true] at goesOn
    rw [List.append_cons read c word, ← ih goesOn.2]
    exact kindFrom?_of_read .word _ (by simp [Machine.onChar, machineIn, goesOn.1])

theorem kindFrom?_word {word : List Char} (goesOn : word.all profile.continuesIdentifier = true) :
    profile.kindFrom? .word read used word = some (profile.wordOr (read ++ word)) := by
  have whole : profile.kindFrom? .word read used (word ++ []) = _ := kindFrom?_word_append [] goesOn
  rw [List.append_nil] at whole
  rw [whole, kindFrom?_of_accept rfl]
  rfl

/-- A word that is a string lead turns into a string at a quote. The quote must not go on with the
word, or it would be read as part of it. -/
theorem kindFrom?_word_quote {quote : Char} (text : List Char) (lead : read ∈ profile.stringLeads)
    (quoted : profile.isQuote quote = true) (ends : profile.continuesIdentifier quote = false) :
    profile.kindFrom? .word read used (quote :: text) =
      profile.kindFrom? (.string quote) (read ++ [quote]) used text := by
  refine kindFrom?_of_read (.string quote) text ?_
  simp [Machine.onChar, machineIn, Machine.text, ends, quoted, lead]

theorem kindFrom?_stringDone_cons (c : Char) (text : List Char) :
    profile.kindFrom? .stringDone read used (c :: text) = none :=
  kindFrom?_of_stop text (by simp [Machine.onChar, machineIn])

/-- A string is read to the end exactly when its extent is the whole text and closed. What has been
read in front of it does not matter. -/
theorem kindFrom?_string (quote : Char) (passed : Nat) (text : List Char) :
    profile.kindFrom? (.string quote) read used text =
      if Extent.ofString quote passed text = ⟨passed + text.length, true⟩ then some .string
      else none := by
  induction passed, text using Extent.ofString.induct quote generalizing read used with
  | case1 passed =>
    rw [kindFrom?_of_reject rfl]
    simp [Extent.ofString]
  | case2 passed c =>
    by_cases escape : c = '\\'
    · subst escape
      rw [kindFrom?_of_read (.stringEscape quote) [] (by simp [Machine.onChar, machineIn]),
        kindFrom?_of_reject rfl]
      simp [Extent.ofString]
    by_cases closes : c = quote
    · subst closes
      rw [kindFrom?_of_read .stringDone [] (by simp [Machine.onChar, machineIn, escape]),
        kindFrom?_of_accept rfl]
      simp [Extent.ofString, escape, Machine.kind?, machineIn]
    · rw [kindFrom?_of_read (.string quote) [] (by simp [Machine.onChar, machineIn, escape, closes]),
        kindFrom?_of_reject rfl]
      simp [Extent.ofString, closes]
  | case3 passed c next rest escape ih =>
    rw [kindFrom?_of_read (.stringEscape quote) _ (by simp [Machine.onChar, machineIn, eq_of_beq escape]),
      kindFrom?_of_read (.string quote) _ (by simp [Machine.onChar, machineIn]), ih,
      Extent.ofString, if_pos escape]
    simp only [List.length_cons]
    congr 3
    omega
  | case4 passed c next rest plain closes =>
    have open_ : c ≠ '\\' := by simpa using plain
    rw [kindFrom?_of_read .stringDone _ (by simp [Machine.onChar, machineIn, open_, closes]),
      kindFrom?_stringDone_cons, Extent.ofString, if_neg plain, if_pos closes]
    simp
  | case5 passed c next rest plain inside ih =>
    have open_ : c ≠ '\\' := by simpa using plain
    have other : c ≠ quote := by simpa using inside
    rw [kindFrom?_of_read (.string quote) _ (by simp [Machine.onChar, machineIn, open_, other]), ih,
      Extent.ofString, if_neg plain, if_neg inside]
    simp only [List.length_cons]
    congr 3
    omega

end Profile

end ProfileLexer
