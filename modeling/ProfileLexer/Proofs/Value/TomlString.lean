import Mathlib.Tactic.SplitIfs
import ProfileLexer.Proofs.Value.Json
import ProfileLexer.Value.TomlText
import ProfileLexer.Value.TomlWriter

/-!
Strings in TOML texts. In whichever of its forms a string is written, it is read back as it was.
-/

namespace ProfileLexer.Toml

/-! ### Characters -/

theorem isPlain_of_not_isControl {c : Char} (shows : isControl c = false) (inLine : c ≠ '\n') :
    isPlain c = true := by
  simp only [isControl, Bool.or_eq_false_iff, Bool.and_eq_false_iff, decide_eq_false_iff_not,
    bne_eq_false_iff_eq, beq_eq_false_iff_ne] at shows
  obtain ⟨low, noDelete⟩ := shows
  simp only [isPlain, Bool.or_eq_true, Bool.and_eq_true, beq_iff_eq, decide_eq_true_eq]
  rcases low with (printed | rfl) | rfl
  · omega
  · exact .inl (.inl rfl)
  · exact absurd rfl inLine

theorem readEscape_controlEscape {c : Char} (control : c.toNat < 32 ∨ c.toNat = 127)
    (rest : List Char) : ∃ digits, controlEscape c = '\\' :: 'u' :: digits ∧
      readEscape ('u' :: (digits ++ rest)) = some (c, rest) := by
  have read : ∀ n < 128, n < 32 ∨ n = 127 → Value.readHex 4 0
      (List.replicate (4 - ((Text.hexDigits n).map Char.toUpper).length) '0' ++
        (Text.hexDigits n).map Char.toUpper) = some (n, []) := by decide
  refine ⟨_, rfl, ?_⟩
  rw [readEscape, Value.readHex_append rest (read c.toNat (by omega) control)]
  simp only [Option.bind_eq_bind, Option.bind_some, List.nil_append, Value.charOf?_toNat]
  rfl

/-- A character is written as an escape sequence or as itself. An escape sequence is never a blank
or a line break, which would be passed over. -/
theorem basicChar_cases (c : Char) :
    (∃ mark escape, basicChar c = '\\' :: mark :: escape ∧ isBlank mark = false ∧ mark ≠ '\n' ∧
        mark ≠ '\r' ∧ ∀ rest, readEscape (mark :: (escape ++ rest)) = some (c, rest)) ∨
      basicChar c = [c] ∧ isPlain c = true ∧ c ≠ '\\' := by
  rw [basicChar]
  split_ifs with backslash back tab page feed control
  · rw [eq_of_beq backslash]
    exact .inl ⟨_, _, rfl, by decide, by decide, by decide, fun _ => rfl⟩
  · rw [eq_of_beq back]
    exact .inl ⟨_, _, rfl, by decide, by decide, by decide, fun _ => rfl⟩
  · rw [eq_of_beq tab]
    exact .inl ⟨_, _, rfl, by decide, by decide, by decide, fun _ => rfl⟩
  · rw [eq_of_beq page]
    exact .inl ⟨_, _, rfl, by decide, by decide, by decide, fun _ => rfl⟩
  · rw [eq_of_beq feed]
    exact .inl ⟨_, _, rfl, by decide, by decide, by decide, fun _ => rfl⟩
  · have code : c.toNat < 32 ∨ c.toNat = 127 := by simpa using control
    obtain ⟨digits, escape, _⟩ := readEscape_controlEscape code []
    refine .inl ⟨'u', digits, escape, by decide, by decide, by decide, fun rest => ?_⟩
    obtain ⟨other, same, read⟩ := readEscape_controlEscape code rest
    rw [escape, List.cons.injEq, List.cons.injEq] at same
    rw [same.2.2, read]
  · have code : ¬(c.toNat < 32 ∨ c.toNat = 127) := by simpa using control
    refine .inr ⟨rfl, ?_, by simpa using backslash⟩
    simp only [isPlain, Bool.or_eq_true, Bool.and_eq_true, beq_iff_eq, decide_eq_true_eq]
    omega

/-! ### Strings on one line -/

theorem readLine_basicLine (text : List Char) {fuel : Nat} (read rest : List Char)
    (enough : text.length < fuel) :
    readLine '"' fuel read (basicLine text ++ '"' :: rest) =
      some (String.ofList (read.reverse ++ text), rest) := by
  induction text generalizing fuel read with
  | nil =>
    obtain ⟨fuel, rfl⟩ := Nat.exists_eq_add_of_le' (Nat.one_le_of_lt enough)
    simp [basicLine, readLine]
  | cons c text ih =>
    obtain ⟨fuel, rfl⟩ := Nat.exists_eq_add_of_le' (Nat.one_le_of_lt enough)
    have later := ih (c :: read) (Nat.lt_of_succ_lt_succ enough)
    rw [List.reverse_cons, List.append_assoc, List.singleton_append] at later
    rw [← later, basicLine, List.flatMap_cons, ← basicLine, List.append_assoc]
    split_ifs with quote break_
    · rw [eq_of_beq quote]
      rfl
    · rw [eq_of_beq break_]
      rfl
    · obtain ⟨mark, escape, written, _, _, _, escaped⟩ | ⟨written, plain, noBackslash⟩ :=
        basicChar_cases c
      · rw [written, List.cons_append, List.cons_append, readLine, if_neg (by decide),
          if_pos (by decide), escaped]
        rfl
      · rw [written, List.singleton_append, readLine, if_neg quote,
          if_neg (by simp [noBackslash]), if_pos plain]

theorem readLine_literal (text : List Char) {fuel : Nat} (read rest : List Char)
    (enough : text.length < fuel) (plain : ∀ c ∈ text, isPlain c = true ∧ c ≠ '\'') :
    readLine '\'' fuel read (text ++ '\'' :: rest) =
      some (String.ofList (read.reverse ++ text), rest) := by
  induction text generalizing fuel read with
  | nil =>
    obtain ⟨fuel, rfl⟩ := Nat.exists_eq_add_of_le' (Nat.one_le_of_lt enough)
    simp [readLine]
  | cons c text ih =>
    obtain ⟨fuel, rfl⟩ := Nat.exists_eq_add_of_le' (Nat.one_le_of_lt enough)
    obtain ⟨shows, noQuote⟩ := plain c List.mem_cons_self
    have later := ih (c :: read) (Nat.lt_of_succ_lt_succ enough) fun d member =>
      plain d (List.mem_cons_of_mem _ member)
    rw [List.reverse_cons, List.append_assoc, List.singleton_append] at later
    rw [← later, List.cons_append, readLine, if_neg (by simpa using noQuote), if_neg (by simp),
      if_pos shows]

/-! ### Strings over several lines -/

/-- What is written for a character other than a bare quote. A character may be written in several
ways. -/
structure Stands (quote : Char) (piece : List Char) (c : Char) : Prop where
  head : ∃ first rest, piece = first :: rest ∧ first ≠ quote
  reads : ∀ fuel read rest,
    readLines quote (fuel + 1) read (piece ++ rest) = readLines quote fuel (c :: read) rest

/-- What is written for a text, behind some bare quotes: never three of them in a row. At the end
there may be two, right before those that close the string. -/
inductive Spelled (quote : Char) : Nat → List Char → List Char → Prop
  | nil {quotes : Nat} : Spelled quote quotes [] []
  | quote {quotes : Nat} {written text : List Char} (few : quotes < 2)
      (later : Spelled quote (quotes + 1) written text) :
      Spelled quote quotes (quote :: written) (quote :: text)
  | other {quotes next : Nat} {piece written text : List Char} {c : Char}
      (stands : Stands quote piece c) (few : next ≤ 2) (later : Spelled quote next written text) :
      Spelled quote quotes (piece ++ written) (c :: text)

theorem stands_break {quote : Char} (apart : '\n' ≠ quote) :
    Stands quote ['\n'] '\n' where
  head := ⟨_, _, rfl, apart⟩
  reads := by
    intro fuel read rest
    rw [List.singleton_append, readLines, if_neg (by simpa using apart), if_neg (by simp)]
    rfl

theorem stands_escaped {mark : Char} {escape : List Char} {c : Char}
    (noBlank : isBlank mark = false) (noBreak : mark ≠ '\n') (noFeed : mark ≠ '\r')
    (escaped : ∀ rest, readEscape (mark :: (escape ++ rest)) = some (c, rest)) :
    Stands '"' ('\\' :: mark :: escape) c where
  head := ⟨_, _, rfl, by decide⟩
  reads := by
    intro fuel read rest
    have goesOn : afterContinuation? (mark :: (escape ++ rest)) = none := by
      rw [afterContinuation?, skipBlanks, List.dropWhile_cons_of_neg (by simp [noBlank]), afterBreak?]
      · rfl
      · exact fun _ same => noBreak (List.cons.inj same).1
      · exact fun _ same => noFeed (List.cons.inj same).1
    rw [List.cons_append, List.cons_append, readLines, if_neg (by decide), if_pos (by decide), goesOn]
    simp only [escaped]
    rfl

theorem stands_plain {quote c : Char} (plain : isPlain c = true) (apart : c ≠ quote)
    (noBackslash : c ≠ '\\' ∨ quote ≠ '"') : Stands quote [c] c where
  head := ⟨_, _, rfl, apart⟩
  reads := by
    intro fuel read rest
    have noBreak : c ≠ '\n' ∧ c ≠ '\r' := by
      constructor <;> (rintro rfl; exact absurd plain (by decide))
    have noEscape : (c == '\\' && quote == '"') = false := by
      rcases noBackslash with apart | apart <;> simp [apart]
    rw [List.singleton_append, readLines, if_neg (by simpa using apart), if_neg (by simp [noEscape]),
      afterBreak?]
    · simp only [plain, if_true]
    · exact fun _ same => noBreak.1 (List.cons.inj same).1
    · exact fun _ same => noBreak.2 (List.cons.inj same).1

namespace Spelled

variable {quote : Char}

/-- Bare quotes either are all that is written, or come to an end within it. In both cases there are
not enough of them to close the string. -/
theorem cases_run {quotes : Nat} {written text : List Char}
    (spelled : Spelled quote quotes written text) (few : quotes ≤ 2) :
    (∃ count, count + quotes ≤ 2 ∧ written = List.replicate count quote ∧
        text = List.replicate count quote) ∨
      ∀ rest, ((written ++ rest).takeWhile (· == quote)).length + quotes ≤ 2 := by
  induction spelled with
  | nil => exact .inl ⟨0, by omega, rfl, rfl⟩
  | quote less _ ih =>
    rcases ih (by omega) with ⟨count, fits, rfl, rfl⟩ | ends
    · exact .inl ⟨count + 1, by omega, rfl, rfl⟩
    · refine .inr fun rest => ?_
      have behind := ends rest
      rw [List.cons_append, List.takeWhile_cons_of_pos (by simp), List.length_cons]
      omega
  | other stands _ _ _ =>
    obtain ⟨first, more, rfl, apart⟩ := stands.head
    refine .inr fun rest => ?_
    rw [List.cons_append, List.cons_append, List.takeWhile_cons_of_neg (by simpa using apart)]
    simpa using few

theorem takeWhile_run (count : Nat) {rest : List Char} (ended : rest.head? ≠ some quote) :
    (List.replicate count quote ++ rest).takeWhile (· == quote) = List.replicate count quote := by
  have none_left : rest.takeWhile (· == quote) = [] := by
    cases rest with
    | nil => rfl
    | cons c rest =>
      exact List.takeWhile_cons_of_neg (by simpa using ended)
  rw [List.takeWhile_append_of_pos (by simp), none_left, List.append_nil]

/-- Bare quotes at the end of a string stand right before those that close it. -/
theorem readLines_run {count : Nat} (few : count ≤ 2) (fuel : Nat) (read : List Char)
    {rest : List Char} (ended : rest.head? ≠ some quote) :
    readLines quote (fuel + 1) read (List.replicate (count + 3) quote ++ rest) =
      some (String.ofList (read.reverse ++ List.replicate count quote), rest) := by
  have run := takeWhile_run (count + 3) ended
  have stop : (List.replicate (count + 3) quote ++ rest).drop (count + 3) = rest := by
    rw [List.drop_append_of_le_length (by simp)]
    simp
  rw [List.replicate_succ, List.cons_append] at run stop ⊢
  rw [readLines, if_pos (beq_self_eq_true _)]
  simp only [run, List.length_cons, List.length_replicate]
  rw [if_neg (by omega), if_pos (by omega), stop, List.reverse_append, List.reverse_replicate]
  rfl

/-- What is written for a text is read as the text. The induction is on how it is spelled, with the
run of quotes that has just been read. -/
theorem readLines {quotes : Nat} {written text : List Char}
    (spelled : Spelled quote quotes written text) (few : quotes ≤ 2) {fuel : Nat} (read : List Char)
    {rest : List Char} (enough : text.length < fuel) (ended : rest.head? ≠ some quote) :
    readLines quote fuel read (written ++ quote :: quote :: quote :: rest) =
      some (String.ofList (read.reverse ++ text), rest) := by
  induction spelled generalizing fuel read with
  | nil =>
    obtain ⟨fuel, rfl⟩ := Nat.exists_eq_add_of_le' (Nat.one_le_of_lt enough)
    exact readLines_run (Nat.zero_le 2) fuel read ended
  | @quote quotes written text less later ih =>
    obtain ⟨fuel, rfl⟩ := Nat.exists_eq_add_of_le' (Nat.one_le_of_lt enough)
    rcases (later.quote less).cases_run few with ⟨count, fits, atEnd, same⟩ | ends
    · have all : quote :: written ++ quote :: quote :: quote :: rest =
          List.replicate (count + 3) quote ++ rest := by
        rw [atEnd, List.replicate_add, List.append_assoc]
        rfl
      rw [all, same]
      exact readLines_run (by omega) fuel read ended
    · have run := ends (quote :: quote :: quote :: rest)
      rw [List.cons_append] at run ⊢
      rw [Toml.readLines, if_pos (beq_self_eq_true _)]
      simp only
      rw [if_pos (by omega), ih (by omega) _ (Nat.lt_of_succ_lt_succ enough), List.reverse_cons,
        List.append_assoc]
      rfl
  | other stands less _ ih =>
    obtain ⟨fuel, rfl⟩ := Nat.exists_eq_add_of_le' (Nat.one_le_of_lt enough)
    rw [List.append_assoc, stands.reads, ih less _ (Nat.lt_of_succ_lt_succ enough),
      List.reverse_cons, List.append_assoc]
    rfl

end Spelled

theorem spelled_basicLines (text : List Char) {quotes : Nat} (few : quotes ≤ 2) :
    Spelled '"' quotes (basicLines quotes text) text := by
  induction text generalizing quotes with
  | nil => exact .nil
  | cons c text ih =>
    rw [basicLines]
    split_ifs with quote less break_
    · rw [eq_of_beq quote]
      exact .quote less (ih less)
    · have stands : Stands '"' ['\\', '"'] '"' :=
        stands_escaped (by decide) (by decide) (by decide) fun _ => rfl
      have escaped : Spelled '"' quotes (['\\', '"'] ++ basicLines quotes text) ('"' :: text) :=
        .other stands few (ih few)
      rw [eq_of_beq quote]
      exact escaped
    · have stands : Stands '"' ['\n'] '\n' := stands_break (by decide)
      have broken : Spelled '"' quotes (['\n'] ++ basicLines 0 text) ('\n' :: text) :=
        .other stands (Nat.zero_le 2) (ih (Nat.zero_le 2))
      rw [eq_of_beq break_]
      exact broken
    · refine .other ?_ (Nat.zero_le 2) (ih (Nat.zero_le 2))
      obtain ⟨mark, escape, written, noBlank, noBreak, noFeed, escaped⟩ |
        ⟨written, plain, noBackslash⟩ := basicChar_cases c
      · rw [written]
        exact stands_escaped noBlank noBreak noFeed escaped
      · rw [written]
        exact stands_plain plain (by simpa using quote) (.inl noBackslash)

/-! ### The longest run of a character -/

/-- The longest run and the run at the end, from those of what comes before. It is the count by
which the form of a string is chosen. -/
def runs (c : Char) (text : List Char) (longest run : Nat) : Nat × Nat :=
  text.foldl (fun (longest, run) d =>
    if d == c then (max longest (run + 1), run + 1) else (longest, 0)) (longest, run)

theorem runs_cons (c d : Char) (text : List Char) (longest run : Nat) :
    runs c (d :: text) longest run =
      if d == c then runs c text (max longest (run + 1)) (run + 1) else runs c text longest 0 := by
  by_cases same : d = c <;> simp [runs, same]

theorem le_runs (c : Char) (text : List Char) (longest run : Nat) :
    longest ≤ (runs c text longest run).1 := by
  induction text generalizing longest run with
  | nil => exact Nat.le_refl _
  | cons d text ih =>
    rw [runs_cons]
    split
    · exact Nat.le_trans (Nat.le_max_left _ _) (ih _ _)
    · exact ih _ _

theorem not_mem_of_runs {c : Char} {text : List Char} {longest run : Nat}
    (none_there : (runs c text longest run).1 = 0) : c ∉ text := by
  induction text generalizing longest run with
  | nil => exact List.not_mem_nil
  | cons d text ih =>
    rw [runs_cons] at none_there
    split at none_there
    · have longer := le_runs c text (max longest (run + 1)) (run + 1)
      omega
    · rename_i apart
      rw [List.mem_cons, not_or]
      exact ⟨fun same => apart (by simp [same]), ih none_there⟩

theorem spelled_literal {text : List Char} {longest run : Nat}
    (few : (runs '\'' text longest run).1 ≤ 2) (shows : ∀ c ∈ text, isControl c = false) :
    Spelled '\'' run text text := by
  induction text generalizing longest run with
  | nil => exact .nil
  | cons c text ih =>
    have later : ∀ {longest run}, (runs '\'' text longest run).1 ≤ 2 → Spelled '\'' run text text :=
      fun few => ih few fun d member => shows d (List.mem_cons_of_mem _ member)
    rw [runs_cons] at few
    split at few
    · rename_i quote
      have longer := le_runs '\'' text (max longest (run + 1)) (run + 1)
      rw [eq_of_beq quote]
      exact .quote (by omega) (later few)
    · rename_i apart
      have stands : Stands '\'' [c] c := by
        by_cases inLine : c = '\n'
        · rw [inLine]
          exact stands_break (by decide)
        · exact stands_plain (isPlain_of_not_isControl (shows c List.mem_cons_self) inLine)
            (by simpa using apart) (.inr (by decide))
      exact Spelled.other stands (Nat.zero_le 2) (later few)

/-! ### Strings -/

/-- A string on one line does not start with another quote, whether it is empty or not. -/
theorem readString_of_line {quote : Char} {body rest : List Char}
    (starts : body.head? ≠ some quote) (ended : rest.head? ≠ some quote) :
    readString quote (body ++ quote :: rest) =
      readLine quote ((body ++ quote :: rest).length + 1) [] (body ++ quote :: rest) := by
  cases body with
  | nil =>
    cases rest with
    | nil => rfl
    | cons c rest =>
      have apart : c ≠ quote := by simpa using ended
      simp [readString, apart]
  | cons c body =>
    have apart : c ≠ quote := by simpa using starts
    cases body <;> simp [readString, apart]

theorem length_le_basicLine (text : List Char) : text.length ≤ (basicLine text).length := by
  induction text with
  | nil => exact Nat.le_refl _
  | cons c text ih =>
    rw [basicLine, List.flatMap_cons, ← basicLine, List.length_append, List.length_cons]
    split_ifs
    · rw [List.length_cons]
      omega
    · rw [List.length_cons]
      omega
    · obtain ⟨mark, escape, written, _⟩ | ⟨written, _⟩ := basicChar_cases c
      all_goals
        rw [written, List.length_cons]
        omega

theorem head_basicLine (text : List Char) : (basicLine text).head? ≠ some '"' := by
  cases text with
  | nil => simp [basicLine]
  | cons c text =>
    rw [basicLine, List.flatMap_cons]
    split_ifs with quote
    · simp
    · simp
    · obtain ⟨mark, escape, written, _⟩ | ⟨written, _⟩ := basicChar_cases c
      · simp [written]
      · rw [written, List.singleton_append, List.head?_cons]
        simpa using quote

theorem readString_basicLine (text : List Char) {rest : List Char}
    (ended : rest.head? ≠ some '"') :
    readString '"' (basicLine text ++ '"' :: rest) = some (String.ofList text, rest) := by
  have length := length_le_basicLine text
  rw [readString_of_line (head_basicLine text) ended]
  exact readLine_basicLine text [] rest (by rw [List.length_append]; omega)

theorem readString_literal {text rest : List Char} (plain : ∀ c ∈ text, isPlain c = true ∧ c ≠ '\'')
    (ended : rest.head? ≠ some '\'') :
    readString '\'' (text ++ '\'' :: rest) = some (String.ofList text, rest) := by
  have starts : text.head? ≠ some '\'' := fun first => (plain '\'' (List.mem_of_head? first)).2 rfl
  rw [readString_of_line starts ended]
  exact readLine_literal text [] rest (by rw [List.length_append]; omega) plain

theorem Spelled.length_le {quote : Char} {quotes : Nat} {written text : List Char}
    (spelled : Spelled quote quotes written text) : text.length ≤ written.length := by
  induction spelled with
  | nil => exact Nat.le_refl _
  | quote _ _ ih => exact Nat.succ_le_succ ih
  | other stands _ _ ih =>
    obtain ⟨first, more, rfl, _⟩ := stands.head
    rw [List.length_append, List.length_cons, List.length_cons]
    omega

theorem afterBreak?_eq_none {text : List Char}
    (starts : text.head? ≠ some '\n' ∧ text.head? ≠ some '\r') : afterBreak? text = none := by
  rw [afterBreak?]
  · rintro rest rfl
    exact starts.1 rfl
  · rintro rest rfl
    exact starts.2 rfl

/-- The line break that a string over several lines starts with is passed over. -/
theorem readString_lines {quote : Char} {written text rest : List Char}
    (spelled : Spelled quote 0 written text) (ended : rest.head? ≠ some quote)
    (starts : '\n' ∉ text →
      (written ++ [quote]).head? ≠ some '\n' ∧ (written ++ [quote]).head? ≠ some '\r') :
    readString quote ([quote, quote] ++ (if text.contains '\n' then ['\n'] else []) ++ written ++
      [quote, quote, quote] ++ rest) = some (String.ofList text, rest) := by
  have length := spelled.length_le
  have body : ∀ start, start = (if text.contains '\n' then ['\n'] else []) →
      (afterBreak? (start ++ (written ++ quote :: quote :: quote :: rest))).getD
        (start ++ (written ++ quote :: quote :: quote :: rest)) =
          written ++ quote :: quote :: quote :: rest := by
    rintro start rfl
    split_ifs with inText
    · rfl
    · have behind := starts (by simpa using inText)
      rw [List.nil_append, afterBreak?_eq_none]
      · rfl
      · cases written with
        | nil => exact behind
        | cons c written => exact behind
  simp only [List.append_assoc, List.cons_append, List.nil_append]
  rw [readString]
  simp only [beq_self_eq_true, Bool.and_self, if_true]
  rw [body _ rfl]
  exact spelled.readLines (Nat.zero_le 2) [] (by simp only [List.length_append]; omega) ended

theorem head_basicLines {text : List Char} (inLine : '\n' ∉ text) :
    (basicLines 0 text ++ ['"']).head? ≠ some '\n' ∧
      (basicLines 0 text ++ ['"']).head? ≠ some '\r' := by
  cases text with
  | nil => simp [basicLines]
  | cons c text =>
    rw [basicLines]
    split_ifs with quote zero break_
    · simp
    · simp
    · exact absurd (eq_of_beq break_ ▸ List.mem_cons_self) inLine
    · obtain ⟨mark, escape, written, _⟩ | ⟨written, plain, _⟩ := basicChar_cases c
      · simp [written]
      · rw [written, List.singleton_append, List.cons_append, List.head?_cons]
        constructor <;> (rintro ⟨⟩; exact absurd plain (by decide))

theorem head_literal {text : List Char} (shows : ∀ c ∈ text, isControl c = false)
    (inLine : '\n' ∉ text) :
    (text ++ ['\'']).head? ≠ some '\n' ∧ (text ++ ['\'']).head? ≠ some '\r' := by
  cases text with
  | nil => simp
  | cons c text =>
    have own := shows c List.mem_cons_self
    rw [List.cons_append, List.head?_cons]
    constructor
    · rintro ⟨⟩
      exact inLine List.mem_cons_self
    · rintro ⟨⟩
      exact absurd own (by decide)

/-- A form without escape sequences is only taken where it holds the string: on one line without its
quote, or over several lines with no three of them in a row. -/
theorem ofText_cases (text : List Char) :
    (∃ multiline, StringForm.ofText text = .basic multiline) ∨
      (∀ c ∈ text, isControl c = false) ∧
        (StringForm.ofText text = .literal false ∧ longestRun '\'' text = 0 ∧ '\n' ∉ text ∨
          StringForm.ofText text = .literal true ∧ longestRun '\'' text ≤ 2) := by
  have shows : text.any isControl = false ↔ ∀ c ∈ text, isControl c = false := by
    simp [List.any_eq_false]
  rw [StringForm.ofText]
  split_ifs with plain line doubles singles
  · exact .inl ⟨_, rfl⟩
  · simp only [Bool.and_eq_true, Bool.not_eq_true', beq_iff_eq, shows] at line
    exact .inr ⟨line.1.1, .inl ⟨rfl, line.1.2, by simpa using line.2⟩⟩
  · exact .inl ⟨_, rfl⟩
  · simp only [Bool.and_eq_true, Bool.not_eq_true', decide_eq_true_eq, shows] at singles
    exact .inr ⟨singles.1, .inr ⟨rfl, singles.2⟩⟩
  · exact .inl ⟨_, rfl⟩

theorem readString_writeStringAs_basic (multiline : Bool) (text : List Char) {rest : List Char}
    (ended : rest.head? ≠ some '"') :
    ∃ written, writeStringAs (.basic multiline) text = '"' :: written ∧
      readString '"' (written ++ rest) = some (String.ofList text, rest) := by
  cases multiline with
  | false =>
    refine ⟨_, rfl, ?_⟩
    rw [List.append_assoc]
    exact readString_basicLine text ended
  | true =>
    refine ⟨_, rfl, ?_⟩
    exact readString_lines (spelled_basicLines text (Nat.zero_le 2)) ended head_basicLines

/-- A string is read back in the form that it is written in, before anything but another quote. The
characters of the string may be any. -/
theorem readString_writeStringAs (text : List Char) {rest : List Char}
    (ended : rest.head? ≠ some '"' ∧ rest.head? ≠ some '\'') :
    ∃ quote written, (quote = '"' ∨ quote = '\'') ∧
      writeStringAs (.ofText text) text = quote :: written ∧
      readString quote (written ++ rest) = some (String.ofList text, rest) := by
  rcases ofText_cases text with ⟨multiline, form⟩ |
    ⟨shows, ⟨form, singles, inLine⟩ | ⟨form, singles⟩⟩
  · obtain ⟨written, made, read⟩ := readString_writeStringAs_basic multiline text ended.1
    exact ⟨_, written, .inl rfl, form ▸ made, read⟩
  · refine ⟨'\'', text ++ ['\''], .inr rfl, form ▸ rfl, ?_⟩
    rw [List.append_assoc]
    refine readString_literal (fun c member => ⟨?_, ?_⟩) ended.2
    · exact isPlain_of_not_isControl (shows c member) fun same => inLine (same ▸ member)
    · exact fun same => not_mem_of_runs singles (same ▸ member)
  · exact ⟨'\'', _, .inr rfl, form ▸ rfl,
      readString_lines (spelled_literal singles shows) ended.2 (head_literal shows)⟩

end ProfileLexer.Toml
