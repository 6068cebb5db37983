import ProfileLexer.Proofs.Value.TomlString
import ProfileLexer.Value.TomlReader

/-!
TOML texts hold what is written into them: plain fields, tables and lists of tables are read back as
they were, plain fields first.
-/

namespace ProfileLexer.Toml

/-! ### Values -/

/-- The start of a value, a name or a header: nothing that can be passed over. -/
def Solid (text : List Char) : Prop :=
  ∃ c rest, text = c :: rest ∧ isBlank c = false ∧ c ≠ '#' ∧ c ≠ '\n' ∧ c ≠ '\r'

namespace Solid

variable {text : List Char}

theorem skipBlanks (solid : Solid text) : skipBlanks text = text := by
  obtain ⟨c, rest, rfl, noBlank, _⟩ := solid
  exact List.dropWhile_cons_of_neg (by simp [noBlank])

theorem skipComment (solid : Solid text) : skipComment text = text := by
  obtain ⟨c, rest, rfl, _, noComment, _⟩ := solid
  rw [Toml.skipComment]
  exact fun _ same => noComment (List.cons.inj same).1

theorem afterBreak? (solid : Solid text) : afterBreak? text = none := by
  obtain ⟨c, rest, rfl, _, _, noBreak, noFeed⟩ := solid
  exact afterBreak?_eq_none ⟨by simpa using noBreak, by simpa using noFeed⟩

theorem skipLines (solid : Solid text) (fuel : Nat) : skipLines fuel text = text := by
  cases fuel with
  | zero => rfl
  | succ fuel =>
    rw [Toml.skipLines]
    simp only [solid.skipBlanks, solid.skipComment, solid.afterBreak?]

theorem skipLines_blank (solid : Solid text) (fuel : Nat) :
    Toml.skipLines (fuel + 1) (' ' :: text) = text := by
  have blank : Toml.skipBlanks (' ' :: text) = text := solid.skipBlanks
  rw [Toml.skipLines]
  simp only [blank, solid.skipComment, solid.afterBreak?]

theorem skipLines_break (solid : Solid text) (fuel : Nat) :
    Toml.skipLines (fuel + 1) ('\n' :: text) = text :=
  solid.skipLines fuel

theorem cons {c : Char} (shows : isBlank c = false ∧ c ≠ '#' ∧ c ≠ '\n' ∧ c ≠ '\r')
    (rest : List Char) : Solid (c :: rest) :=
  ⟨c, rest, rfl, shows⟩

theorem append (solid : Solid text) (rest : List Char) : Solid (text ++ rest) := by
  obtain ⟨c, more, rfl, shows⟩ := solid
  exact ⟨c, more ++ rest, rfl, shows⟩

theorem of_quote {quote : Char} (rest : List Char) (isQuote : quote = '"' ∨ quote = '\'') :
    Solid (quote :: rest) := by
  obtain rfl | rfl := isQuote <;> exact .cons (by decide) rest

end Solid

/-- A string that is written is read as a value, in whichever form it is written. -/
theorem readValue_writeString (text : String) (fuel depth : Nat) {rest : List Char}
    (ended : rest.head? ≠ some '"' ∧ rest.head? ≠ some '\'') :
    readValue (fuel + 1) depth ((writeString text).toList ++ rest) = some (.text text, rest) := by
  obtain ⟨quote, written, isQuote, made, read⟩ := readString_writeStringAs text.toList ended
  rw [writeString, String.toList_ofList, made, List.cons_append]
  rw [String.ofList_toList] at read
  obtain rfl | rfl := isQuote <;> rw [readValue, read] <;> rfl

theorem head_writeString (text : String) :
    ∃ quote written, (writeString text).toList = quote :: written ∧ (quote = '"' ∨ quote = '\'') := by
  have ended : ([] : List Char).head? ≠ some '"' ∧ ([] : List Char).head? ≠ some '\'' :=
    ⟨nofun, nofun⟩
  obtain ⟨quote, written, isQuote, made, _⟩ := readString_writeStringAs text.toList ended
  exact ⟨quote, written, by rw [writeString, String.toList_ofList, made], isQuote⟩

theorem toList_writeItems (item next : Value) (items : List Value) :
    (writeItems (item :: next :: items)).toList =
      (writeValue item).toList ++ ',' :: ' ' :: (writeItems (next :: items)).toList := by
  simp [writeItems]

theorem solid_writeItems (item : String) (items : List Value) (rest : List Char) :
    Solid ((writeItems (.text item :: items)).toList ++ rest) := by
  obtain ⟨quote, written, made, isQuote⟩ := head_writeString item
  cases items with
  | nil =>
    rw [writeItems, writeValue, made]
    exact .of_quote _ isQuote
  | cons next items =>
    rw [toList_writeItems, writeValue, made]
    exact .of_quote _ isQuote

theorem readItems_writeString (item : String) (fuel depth : Nat) (read : List Value)
    {rest : List Char} (ended : rest.head? ≠ some '"' ∧ rest.head? ≠ some '\'') :
    readItems (fuel + 2) depth read ((writeString item).toList ++ rest) =
      match skipLines (rest.length + 1) rest with
      | ',' :: rest =>
        readItems (fuel + 1) depth (.text item :: read) (skipLines (rest.length + 1) rest)
      | ']' :: rest => some (.list (.text item :: read).reverse, rest)
      | _ => none := by
  have value := readValue_writeString item fuel depth ended
  obtain ⟨quote, written, made, isQuote⟩ := head_writeString item
  rw [made, List.cons_append] at value ⊢
  rw [readItems, value]
  · rfl
  · rintro _ same
    cases same
    obtain same | same := isQuote <;> cases same

theorem readItems_writeItems {items : List String} (some_item : items ≠ []) (fuel depth : Nat)
    (read : List Value) (rest : List Char) (enough : items.length < fuel) :
    readItems fuel depth read ((writeItems (items.map .text)).toList ++ ']' :: rest) =
      some (.list (read.reverse ++ items.map .text), rest) := by
  induction items generalizing fuel read with
  | nil => exact absurd rfl some_item
  | cons item items ih =>
    rw [List.length_cons] at enough
    obtain ⟨less, rfl⟩ := Nat.exists_eq_add_of_le' (show 2 ≤ fuel by omega)
    cases items with
    | nil =>
      have solid : Solid (']' :: rest) := .cons (by decide) _
      rw [List.map_singleton, writeItems, writeValue,
        readItems_writeString item less depth read ⟨by simp, by simp⟩, solid.skipLines]
      simp
    | cons next items =>
      have later := ih (List.cons_ne_nil _ _) (less + 1) (.text item :: read) (by omega)
      have comma (text : List Char) : Solid (',' :: text) :=
        .cons (by decide) _
      have solid := solid_writeItems next (items.map .text) (']' :: rest)
      rw [List.map_cons] at later
      rw [List.map_cons, List.map_cons, toList_writeItems, writeValue, List.append_assoc,
        List.cons_append, List.cons_append,
        readItems_writeString item less depth read ⟨by simp, by simp⟩, (comma _).skipLines]
      simp only
      rw [solid.skipLines_blank, later]
      simp

/-- Values that stand behind an equals sign. Numbers are none of them, as no definition holds
one. -/
inductive Simple : Value → Prop
  | flag (value : Bool) : Simple (.flag value)
  | text (value : String) : Simple (.text value)
  | texts (items : List String) : Simple (.texts items)

theorem Simple.solid {value : Value} (simple : Simple value) : Solid (writeValue value).toList := by
  cases simple with
  | flag value => cases value <;> exact .cons (by decide) _
  | text value =>
    obtain ⟨quote, written, made, isQuote⟩ := head_writeString value
    rw [writeValue, made]
    exact .of_quote written isQuote
  | texts items =>
    rw [Value.texts, writeValue, String.toList_append, String.toList_append]
    exact .cons (by decide) _

theorem length_le_writeItems (items : List String) :
    items.length ≤ (writeItems (items.map .text)).toList.length := by
  induction items with
  | nil => exact Nat.zero_le _
  | cons item items ih =>
    cases items with
    | nil =>
      obtain ⟨quote, written, made, _⟩ := head_writeString item
      rw [List.map_singleton, writeItems, writeValue, made]
      simp
    | cons next items =>
      simp only [List.map_cons, toList_writeItems, List.length_append, List.length_cons] at ih ⊢
      omega

/-- A value is read up to the end of its line, which is left for the next statement. -/
theorem readValue_writeValue {value : Value} (simple : Simple value) {fuel : Nat}
    (rest : List Char) (enough : (writeValue value).toList.length < fuel) :
    readValue fuel 0 ((writeValue value).toList ++ '\n' :: rest) = some (value, '\n' :: rest) := by
  obtain ⟨fuel, rfl⟩ := Nat.exists_eq_add_of_le' (Nat.one_le_of_lt enough)
  cases simple with
  | flag value => cases value <;> rfl
  | text value =>
    rw [writeValue]
    exact readValue_writeString value fuel 0 ⟨by simp, by simp⟩
  | texts items =>
    have brackets : (writeValue (.texts items)).toList =
        '[' :: ((writeItems (items.map .text)).toList ++ [']']) := by
      simp [Value.texts, writeValue]
    have length := length_le_writeItems items
    rw [brackets, List.length_cons, List.length_append, List.length_singleton] at enough
    rw [brackets, List.cons_append, List.append_assoc, List.singleton_append, readValue,
      if_pos (by decide)]
    cases items with
    | nil =>
      have solid : Solid (']' :: '\n' :: rest) :=
        .cons (by decide) _
      obtain ⟨fuel, rfl⟩ := Nat.exists_eq_add_one_of_ne_zero (n := fuel) (by omega)
      rw [List.map_nil, writeItems, String.toList_empty, List.nil_append, solid.skipLines, readItems]
      rfl
    | cons item items =>
      have solid := solid_writeItems item (items.map .text) (']' :: '\n' :: rest)
      rw [List.map_cons, solid.skipLines, ← List.map_cons,
        readItems_writeItems (List.cons_ne_nil _ _) fuel 1 [] _ (by omega)]
      rfl

/-! ### Statements -/

/-- A name that needs no quotes. -/
def BareName (name : String) : Prop :=
  name.toList ≠ [] ∧ ∀ c ∈ name.toList, isBare c = true

instance (name : String) : Decidable (BareName name) :=
  inferInstanceAs (Decidable (_ ∧ _))

theorem BareName.head {name : String} (bare : BareName name) :
    ∃ c rest, name.toList = c :: rest ∧ isBare c = true := by
  obtain ⟨c, rest, made⟩ := List.exists_cons_of_ne_nil bare.1
  exact ⟨c, rest, made, bare.2 c (made ▸ List.mem_cons_self)⟩

theorem BareName.ne_cons {name : String} (bare : BareName name) {d : Char} (other : isBare d = false)
    (rest more : List Char) : name.toList ++ rest ≠ d :: more := by
  obtain ⟨c, inner, made, isPart⟩ := bare.head
  intro same
  rw [made, List.cons_append] at same
  rw [(List.cons.inj same).1, other] at isPart
  cases isPart

theorem BareName.solid {name : String} (bare : BareName name) (rest : List Char) :
    Solid (name.toList ++ rest) := by
  obtain ⟨c, more, made, isPart⟩ := bare.head
  refine ⟨c, more ++ rest, by rw [made, List.cons_append], ?_, ?_, ?_, ?_⟩
  · by_contra blank
    simp only [isBlank, Bool.not_eq_false, Bool.or_eq_true, beq_iff_eq] at blank
    rcases blank with rfl | rfl <;> exact absurd isPart (by decide)
  all_goals
    rintro rfl
    exact absurd isPart (by decide)

/-- A bare name is a key by itself, before anything but another part. A dot with a name behind it
would be one. -/
theorem readKey_bare {name : String} (bare : BareName name) {rest : List Char}
    (ended : ∃ c more, rest = c :: more ∧ isBare c = false)
    (single : (skipBlanks rest).head? ≠ some '.') :
    readKey maxDepth (name.toList ++ rest) = some ([name], skipBlanks rest) := by
  have part : readKeyPart (name.toList ++ rest) = some (name, rest) := by
    obtain ⟨c, more, rfl, stops⟩ := ended
    have taken : (name.toList ++ c :: more).takeWhile isBare = name.toList := by
      rw [List.takeWhile_append_of_pos bare.2, List.takeWhile_cons_of_neg (by simp [stops]),
        List.append_nil]
    have left : (name.toList ++ c :: more).dropWhile isBare = c :: more := by
      rw [List.dropWhile_append_of_pos bare.2, List.dropWhile_cons_of_neg (by simp [stops])]
    obtain ⟨first, inner, made, _⟩ := bare.head
    rw [readKeyPart, taken, left, made]
    · simp only
      rw [← made, String.ofList_toList]
    · exact fun _ same => bare.ne_cons (by decide) _ _ same
    · exact fun _ same => bare.ne_cons (by decide) _ _ same
  rw [maxDepth, readKey, (bare.solid rest).skipBlanks, part]
  simp only [Option.bind_eq_bind, Option.bind_some]
  split
  · rename_i same
    rw [same] at single
    exact absurd rfl single
  · rfl

theorem readStatement_field {name : String} {value : Value} (bare : BareName name)
    (simple : Simple value) (rest : List Char) :
    readStatement (name.toList ++ [' ', '=', ' '] ++ (writeValue value).toList ++ '\n' :: rest) =
      some (.assign [name] value, '\n' :: rest) := by
  have behind : skipBlanks (' ' :: ((writeValue value).toList ++ '\n' :: rest)) =
      (writeValue value).toList ++ '\n' :: rest := (simple.solid.append _).skipBlanks
  have key : readKey maxDepth
      (name.toList ++ ' ' :: '=' :: ' ' :: ((writeValue value).toList ++ '\n' :: rest)) =
        some ([name], '=' :: ' ' :: ((writeValue value).toList ++ '\n' :: rest)) :=
    readKey_bare bare ⟨_, _, rfl, by decide⟩ (by simp [skipBlanks, isBlank])
  have enough : (writeValue value).toList.length <
      2 * ((writeValue value).toList ++ '\n' :: rest).length + 2 := by
    rw [List.length_append]
    omega
  simp only [List.append_assoc, List.cons_append, List.nil_append]
  rw [readStatement, key]
  · simp only [Option.bind_eq_bind, Option.bind_some, after?, List.isPrefixOf, beq_self_eq_true,
      Bool.and_self, if_true, List.length_singleton, List.drop_succ_cons, List.drop_zero, behind,
      readValue_writeValue simple rest enough]
    rfl
  · exact fun _ same => bare.ne_cons (by decide) _ _ same
  · exact fun _ same => bare.ne_cons (by decide) _ _ same

theorem readStatement_header {name : String} (bare : BareName name) (rest : List Char) :
    readStatement (['['] ++ name.toList ++ [']'] ++ '\n' :: rest) =
      some (.header [name], '\n' :: rest) := by
  have key : readKey maxDepth (name.toList ++ ']' :: '\n' :: rest) =
      some ([name], ']' :: '\n' :: rest) :=
    readKey_bare bare ⟨_, _, rfl, by decide⟩ (by simp [skipBlanks, isBlank])
  simp only [List.append_assoc, List.cons_append, List.nil_append]
  rw [readStatement, key]
  · simp [after?]
  · exact fun _ same => bare.ne_cons (by decide) _ _ same

theorem readStatement_listHeader {name : String} (bare : BareName name) (rest : List Char) :
    readStatement (['[', '['] ++ name.toList ++ [']', ']'] ++ '\n' :: rest) =
      some (.listHeader [name], '\n' :: rest) := by
  have key : readKey maxDepth (name.toList ++ ']' :: ']' :: '\n' :: rest) =
      some ([name], ']' :: ']' :: '\n' :: rest) :=
    readKey_bare bare ⟨_, _, rfl, by decide⟩ (by simp [skipBlanks, isBlank])
  simp only [List.append_assoc, List.cons_append, List.nil_append]
  rw [readStatement, key]
  simp [after?]

/-- A text of whole lines that some statements are read from, whatever follows. There are no more
statements than characters, so that fuel counted by characters is enough. -/
structure Holds (text : List Char) (statements : List Statement) : Prop where
  length : statements.length ≤ text.length
  unmarked : text.head? ≠ some '\ufeff'
  reads : ∀ fuel read rest, readStatements (statements.length + fuel) read (text ++ rest) =
    readStatements fuel (statements.reverse ++ read) rest

namespace Holds

theorem nil : Holds [] [] where
  length := Nat.le_refl _
  unmarked := nofun
  reads := by
    intro fuel read rest
    rw [List.length_nil, Nat.zero_add]
    rfl

theorem append {text more : List Char} {statements others : List Statement}
    (first : Holds text statements) (second : Holds more others) :
    Holds (text ++ more) (statements ++ others) where
  length := by
    have one := first.length
    have two := second.length
    simp only [List.length_append]
    omega
  unmarked := by
    cases text with
    | nil => exact second.unmarked
    | cons c text => exact first.unmarked
  reads := by
    intro fuel read rest
    rw [List.length_append, List.append_assoc, Nat.add_assoc, first.reads, second.reads,
      List.reverse_append, List.append_assoc]

theorem flatMap {α : Type} {texts : α → List Char} {statements : α → List Statement}
    {items : List α} (each : ∀ item ∈ items, Holds (texts item) (statements item)) :
    Holds (items.flatMap texts) (items.flatMap statements) := by
  induction items with
  | nil => exact .nil
  | cons item items ih =>
    rw [List.flatMap_cons, List.flatMap_cons]
    exact (each item List.mem_cons_self).append
      (ih fun other member => each other (List.mem_cons_of_mem _ member))

/-- A statement on a line of its own, maybe behind an empty line. The line must not be one that is
passed over itself. -/
theorem line (gap : List Char) {line : List Char} {statement : Statement}
    (empty : gap = [] ∨ gap = ['\n']) (solid : Solid line)
    (unmarked : line.head? ≠ some '\ufeff')
    (reads : ∀ rest, readStatement (line ++ '\n' :: rest) = some (statement, '\n' :: rest)) :
    Holds (gap ++ line ++ ['\n']) [statement] where
  length := by
    simp only [List.length_append, List.length_cons, List.length_nil]
    omega
  unmarked := by
    obtain rfl | rfl := empty
    · cases line with
      | nil => simp
      | cons c line => exact unmarked
    · exact fun same => by cases same
  reads := by
    intro fuel read rest
    have skipped : skipLines ((gap ++ line ++ ['\n'] ++ rest).length + 1)
        (gap ++ line ++ ['\n'] ++ rest) = line ++ '\n' :: rest := by
      rw [List.append_assoc, List.append_assoc, List.singleton_append]
      obtain rfl | rfl := empty
      · exact (solid.append _).skipLines _
      · exact (solid.append _).skipLines_break _
    rw [List.length_singleton, Nat.add_comm, readStatements, skipped]
    obtain ⟨c, more, rfl, _⟩ := solid
    have read := reads rest
    rw [List.cons_append] at read ⊢
    simp only [read]
    rfl

end Holds

/-- Fields that are written on one line each. Their values may be lists, as long as these are on one
line, too. -/
structure Fields (fields : List (String × Value)) : Prop where
  distinct : (fields.map Prod.fst).Nodup
  bare : ∀ field ∈ fields, BareName field.1
  simple : ∀ field ∈ fields, Simple field.2

theorem Fields.of_forall {fields : List (String × Value)} (distinct : (fields.map Prod.fst).Nodup)
    (each : ∀ field ∈ fields, BareName field.1 ∧ Simple field.2) : Fields fields :=
  ⟨distinct, fun field member => (each field member).1, fun field member => (each field member).2⟩

/-- Values that are written under a header of their own. A list of tables has at least one, or it
would not be seen. -/
inductive Table : Value → Prop
  | record {fields : List (String × Value)} (fits : Fields fields) : Table (.record fields)
  | list {first : List (String × Value)} {others : List (List (String × Value))}
      (each : ∀ fields ∈ first :: others, Fields fields) :
      Table (.list ((first :: others).map .record))

def assigns (fields : List (String × Value)) : List Statement :=
  fields.map fun field => .assign [field.1] field.2

/-- The statements of a table: a header and an assignment for each field, or the same for each table
of a list. -/
def tableStatements (name : String) : Value → List Statement
  | .record fields => .header [name] :: assigns fields
  | .list items => items.flatMap fun
    | .record fields => .listHeader [name] :: assigns fields
    | _ => []
  | _ => []

theorem BareName.unmarked {name : String} (bare : BareName name) (rest : List Char) :
    (name.toList ++ rest).head? ≠ some '\ufeff' := by
  intro marked
  obtain ⟨more, same⟩ := List.head?_eq_some_iff.mp marked
  exact bare.ne_cons (by decide) rest more same

theorem holds_writeFields {fields : List (String × Value)} (bare : ∀ field ∈ fields, BareName field.1)
    (simple : ∀ field ∈ fields, Simple field.2) :
    Holds (writeFields fields).toList (assigns fields) := by
  have lines : (writeFields fields).toList = fields.flatMap fun field =>
      field.1.toList ++ [' ', '=', ' '] ++ (writeValue field.2).toList ++ ['\n'] := by
    rw [writeFields, String.toList_join, List.flatMap_map]
    simp only [String.toList_append]
    rfl
  have statements : assigns fields = fields.flatMap fun field => [.assign [field.1] field.2] :=
    List.map_eq_flatMap
  rw [lines, statements]
  refine .flatMap fun field member => ?_
  have own := bare field member
  have unmarked : (field.1.toList ++ [' ', '=', ' '] ++ (writeValue field.2).toList).head? ≠
      some '\ufeff' := by
    rw [List.append_assoc]
    exact own.unmarked _
  exact Holds.line [] (.inl rfl) ((own.solid _).append _) unmarked
    (readStatement_field own (simple field member))

theorem holds_writeTable {name : String} {value : Value} (bare : BareName name)
    (table : Table value) : Holds (writeTable name value).toList (tableStatements name value) := by
  cases table with
  | @record fields fits =>
    have text : (writeTable name (.record fields)).toList =
        (['\n'] ++ (['['] ++ name.toList ++ [']']) ++ ['\n']) ++ (writeFields fields).toList := by
      simp [writeTable]
    have header : Holds (['\n'] ++ (['['] ++ name.toList ++ [']']) ++ ['\n']) [.header [name]] :=
      .line ['\n'] (.inr rfl) (.cons (by decide) _) (by simp)
        (readStatement_header bare)
    rw [text, tableStatements]
    exact header.append (holds_writeFields fits.bare fits.simple)
  | @list first others each =>
    have text : (writeTable name (.list ((first :: others).map .record))).toList =
        (first :: others).flatMap fun fields =>
          (['\n'] ++ (['[', '['] ++ name.toList ++ [']', ']']) ++ ['\n']) ++
            (writeFields fields).toList := by
      rw [writeTable, String.toList_join, List.map_map, List.flatMap_map]
      simp
    have statements : tableStatements name (.list ((first :: others).map .record)) =
        (first :: others).flatMap fun fields => [.listHeader [name]] ++ assigns fields := by
      rw [tableStatements, List.flatMap_map]
      rfl
    have header : Holds (['\n'] ++ (['[', '['] ++ name.toList ++ [']', ']']) ++ ['\n'])
        [.listHeader [name]] :=
      .line ['\n'] (.inr rfl) (.cons (by decide) _) (by simp)
        (readStatement_listHeader bare)
    rw [text, statements]
    exact .flatMap fun fields member =>
      header.append (holds_writeFields (each fields member).bare (each fields member).simple)

/-! ### The tree -/

namespace Node

def entriesOf (fields : List (String × Value)) : List (String × Node) :=
  fields.map fun field => (field.1, .value field.2)

theorem entryValues_append (entries more : List (String × Node)) :
    entryValues (entries ++ more) = entryValues entries ++ entryValues more := by
  induction entries with
  | nil => rfl
  | cons entry entries ih => rw [List.cons_append, entryValues, ih, entryValues, List.cons_append]

theorem entryValues_entriesOf (fields : List (String × Value)) :
    entryValues (entriesOf fields) = fields := by
  induction fields with
  | nil => rfl
  | cons field fields ih =>
    rw [entriesOf, List.map_cons, entryValues, toValue, ← entriesOf, ih]

theorem map_fst_entriesOf (fields : List (String × Value)) :
    (entriesOf fields).map Prod.fst = fields.map Prod.fst := by
  rw [entriesOf, List.map_map]
  rfl

theorem tableValues_concat (tables : List (List (String × Node))) (last : List (String × Node)) :
    tableValues (tables ++ [last]) = tableValues tables ++ [.record (entryValues last)] := by
  induction tables with
  | nil => rfl
  | cons entries tables ih => rw [List.cons_append, tableValues, ih, tableValues, List.cons_append]

section

variable {name : String} {entries : List (String × Node)}

theorem lookup_of_fresh (fresh : name ∉ entries.map Prod.fst) : entries.lookup name = none := by
  rw [List.lookup_eq_none_iff]
  intro entry member
  have apart : name ≠ entry.1 := fun same => fresh (same ▸ List.mem_map_of_mem member)
  simpa using apart

theorem any_of_fresh (fresh : name ∉ entries.map Prod.fst) :
    entries.any (·.1 == name) = false := by
  rw [List.any_eq_false]
  intro entry member same
  exact fresh (eq_of_beq same ▸ List.mem_map_of_mem member)

theorem lookup_concat (fresh : name ∉ entries.map Prod.fst) (node : Node) :
    (entries ++ [(name, node)]).lookup name = some node := by
  rw [List.lookup_append, lookup_of_fresh fresh]
  simp

theorem setEntry_concat (fresh : name ∉ entries.map Prod.fst) (node other : Node) :
    setEntry name other (entries ++ [(name, node)]) = entries ++ [(name, other)] := by
  have kept : entries.map (fun entry => if entry.1 == name then (name, other) else entry) = entries := by
    conv => rhs; rw [← List.map_id entries]
    refine List.map_congr_left fun entry member => if_neg fun same => ?_
    exact fresh (eq_of_beq same ▸ List.mem_map_of_mem member)
  rw [setEntry, if_pos (by simp), List.map_append, kept]
  simp

end

end Node

/-- Under the headers at `current` fields end up at the end of the entries in a frame. The frame is
whatever is around the table that is being filled. -/
def Grows (current : List String) (frame : List (String × Node) → Node) : Prop :=
  ∀ entries name value, name ∉ entries.map Prod.fst →
    (frame entries).change false current (Node.assign [name] value) =
      some (frame (entries ++ [(name, .value value)]))

theorem grows_root : Grows [] (Node.table false false) := by
  intro entries name value fresh
  simp [Node.change, Node.assign, Node.put, Node.any_of_fresh fresh]

theorem grows_table {name : String} {entries : List (String × Node)}
    (fresh : name ∉ entries.map Prod.fst) :
    Grows [name] fun inner => .table false false (entries ++ [(name, .table false false inner)]) := by
  intro inner field value unset
  have grown := grows_root inner field value unset
  rw [Node.change] at grown
  simp only [Node.change, Node.lookup_concat fresh, grown, Node.setEntry_concat fresh]
  rfl

theorem grows_tables {name : String} {entries : List (String × Node)}
    (before : List (List (String × Node))) (fresh : name ∉ entries.map Prod.fst) :
    Grows [name] fun inner => .table false false (entries ++ [(name, .tables before inner)]) := by
  intro inner field value unset
  have grown := grows_root inner field value unset
  rw [Node.change] at grown
  simp only [Node.change, Node.lookup_concat fresh, grown, Node.setEntry_concat fresh]
  rfl

theorem carryOut_assigns {current : List String} {frame : List (String × Node) → Node}
    (grows : Grows current frame) {fields : List (String × Value)} {entries : List (String × Node)}
    (distinct : (entries.map Prod.fst ++ fields.map Prod.fst).Nodup) (rest : List Statement) :
    carryOut current (frame entries) (assigns fields ++ rest) =
      carryOut current (frame (entries ++ Node.entriesOf fields)) rest := by
  induction fields generalizing entries with
  | nil => simp [assigns, Node.entriesOf]
  | cons field fields ih =>
    obtain ⟨name, value⟩ := field
    have fresh : name ∉ entries.map Prod.fst := fun known =>
      (List.nodup_append.mp distinct).2.2 name known name (by simp) rfl
    have later : carryOut current (frame (entries ++ [(name, .value value)])) (assigns fields ++ rest) =
        carryOut current (frame (entries ++ [(name, .value value)] ++ Node.entriesOf fields)) rest :=
      ih (by simpa using distinct)
    rw [assigns, List.map_cons, ← assigns, List.cons_append, carryOut, grows entries name value fresh,
      Option.bind_eq_bind, Option.bind_some, later, List.append_assoc]
    rfl

section

variable {name : String} {entries : List (String × Node)} {rest : List Statement}
  {fields : List (String × Value)} {frame : List (String × Node) → Node} {node : Node}

/-- The fields behind a header fill the table that it has made, in their order. -/
theorem carryOut_filled (grows : Grows [name] frame) (distinct : (fields.map Prod.fst).Nodup)
    (rest : List Statement) :
    carryOut [name] (frame []) (assigns fields ++ rest) =
      carryOut [name] (frame (Node.entriesOf fields)) rest :=
  carryOut_assigns grows (by simpa using distinct) rest

theorem carryOut_header (grows : Grows [name] frame)
    (named : node.change false [] (Node.define name) = some (frame []))
    (distinct : (fields.map Prod.fst).Nodup) (current : List String) (rest : List Statement) :
    carryOut current node (.header [name] :: assigns fields ++ rest) =
      carryOut [name] (frame (Node.entriesOf fields)) rest := by
  rw [List.cons_append, carryOut]
  simp only [List.getLast?_singleton, List.dropLast_singleton, named, Option.bind_eq_bind,
    Option.bind_some]
  exact carryOut_filled grows distinct rest

theorem carryOut_listHeader (grows : Grows [name] frame)
    (named : node.change false [] (Node.extend name) = some (frame []))
    (distinct : (fields.map Prod.fst).Nodup) (current : List String) (rest : List Statement) :
    carryOut current node (.listHeader [name] :: assigns fields ++ rest) =
      carryOut [name] (frame (Node.entriesOf fields)) rest := by
  rw [List.cons_append, carryOut]
  simp only [List.getLast?_singleton, List.dropLast_singleton, named, Option.bind_eq_bind,
    Option.bind_some]
  exact carryOut_filled grows distinct rest

/-- Further tables of a list come behind those that are there, one for each header. -/
theorem carryOut_listHeaders (fresh : name ∉ entries.map Prod.fst)
    {others : List (List (String × Value))} (each : ∀ fields ∈ others, (fields.map Prod.fst).Nodup)
    (before : List (List (String × Node))) (last : List (String × Node)) (rest : List Statement) :
    ∃ tables final, Node.toValue (.tables tables final) =
        .list (Node.tableValues (before ++ [last]) ++ others.map .record) ∧
      carryOut [name] (.table false false (entries ++ [(name, .tables before last)]))
          ((others.flatMap fun fields => .listHeader [name] :: assigns fields) ++ rest) =
        carryOut [name] (.table false false (entries ++ [(name, .tables tables final)])) rest := by
  induction others generalizing before last with
  | nil =>
    refine ⟨before, last, ?_, rfl⟩
    rw [Node.toValue, Node.tableValues_concat, List.map_nil, List.append_nil]
  | cons fields others ih =>
    obtain ⟨tables, final, value, carried⟩ := ih
      (fun fields member => each fields (List.mem_cons_of_mem _ member)) (before ++ [last])
      (Node.entriesOf fields)
    refine ⟨tables, final, ?_, ?_⟩
    · rw [value, Node.tableValues_concat, Node.entryValues_entriesOf, List.append_assoc]
      rfl
    · rw [← carried, List.flatMap_cons, List.append_assoc]
      refine carryOut_listHeader (grows_tables (before ++ [last]) fresh) ?_
        (each fields List.mem_cons_self) [name] _
      simp only [Node.change, Node.extend, Node.lookup_concat fresh, Node.setEntry_concat fresh]

/-- A table ends up behind the entries that are there, and has the value that was written. It comes
under a name that is not there yet. -/
theorem carryOut_table {value : Value} (table : Table value) (fresh : name ∉ entries.map Prod.fst)
    (current : List String) (rest : List Statement) :
    ∃ node : Node, node.toValue = value ∧
      carryOut current (.table false false entries) (tableStatements name value ++ rest) =
        carryOut [name] (.table false false (entries ++ [(name, node)])) rest := by
  cases table with
  | @record fields fits =>
    refine ⟨.table false false (Node.entriesOf fields), ?_, ?_⟩
    · rw [Node.toValue, Node.entryValues_entriesOf]
    · refine carryOut_header (grows_table fresh) ?_ fits.distinct current rest
      simp only [Node.change, Node.define, Node.lookup_of_fresh fresh]
  | @list first others each =>
    obtain ⟨tables, final, value, carried⟩ := carryOut_listHeaders fresh
      (fun fields member => (each fields (List.mem_cons_of_mem _ member)).distinct) []
      (Node.entriesOf first) rest
    refine ⟨.tables tables final, ?_, ?_⟩
    · rw [value, List.nil_append, Node.tableValues, Node.tableValues, Node.entryValues_entriesOf]
      rfl
    · rw [← carried, tableStatements, List.map_cons, List.flatMap_cons, List.append_assoc,
        List.flatMap_map]
      refine carryOut_listHeader (grows_tables [] fresh) ?_ (each first List.mem_cons_self).distinct
        current _
      simp only [Node.change, Node.extend, Node.lookup_of_fresh fresh]

theorem carryOut_tables {tables : List (String × Value)}
    (each : ∀ table ∈ tables, Table table.2)
    (distinct : (entries.map Prod.fst ++ tables.map Prod.fst).Nodup) (current : List String) :
    ∃ nodes, Node.entryValues nodes = tables ∧
      carryOut current (.table false false entries)
          (tables.flatMap fun table => tableStatements table.1 table.2) =
        some (.table false false (entries ++ nodes)) := by
  induction tables generalizing entries current with
  | nil => exact ⟨[], rfl, by simp [carryOut]⟩
  | cons table tables ih =>
    obtain ⟨name, value⟩ := table
    have fresh : name ∉ entries.map Prod.fst := fun known =>
      (List.nodup_append.mp distinct).2.2 name known name (by simp) rfl
    obtain ⟨node, own, carried⟩ := carryOut_table (each (name, value) List.mem_cons_self) fresh
      current (tables.flatMap fun table => tableStatements table.1 table.2)
    obtain ⟨nodes, values, later⟩ := @ih (entries ++ [(name, node)])
      (fun table member => each table (List.mem_cons_of_mem _ member)) (by simpa using distinct) [name]
    refine ⟨(name, node) :: nodes, ?_, ?_⟩
    · rw [Node.entryValues, own, values]
    · rw [List.flatMap_cons, carried, later, List.append_assoc]
      rfl

end

/-! ### Documents -/

/-- Fields that a text holds: plain values, tables and lists of tables. Tables are not nested any
further. -/
structure Document (fields : List (String × Value)) : Prop where
  distinct : (fields.map Prod.fst).Nodup
  bare : ∀ field ∈ fields, BareName field.1
  each : ∀ field ∈ fields, Simple field.2 ∨ Table field.2

theorem Document.of_forall {fields : List (String × Value)} (distinct : (fields.map Prod.fst).Nodup)
    (each : ∀ field ∈ fields, BareName field.1 ∧ (Simple field.2 ∨ Table field.2)) :
    Document fields :=
  ⟨distinct, fun field member => (each field member).1, fun field member => (each field member).2⟩

/-- A codec writes every document and reads it back with the same fields, in an order of its own.
Nothing is asked of it for other values, nor for texts that it did not write. -/
structure Faithful (codec : Value.Codec) : Prop where
  readsBack : ∀ {fields : List (String × Value)}, Document fields →
    ∃ text others, codec.write? (.record fields) = some text ∧
      codec.read? text = some (.record others) ∧ others.Perm fields

theorem isTable_of_simple {value : Value} (simple : Simple value) : isTable value = false := by
  cases simple with
  | flag | text => rfl
  | texts items => cases items <;> rfl

theorem isTable_of_table {value : Value} (table : Table value) : isTable value = true := by
  cases table <;> rfl

/-- The statements of a whole text are read to its end, with fuel by the number of its
characters. -/
theorem Holds.readStatements {text : List Char} {statements : List Statement}
    (holds : Holds text statements) :
    readStatements (text.length + 1) [] text = some statements := by
  obtain ⟨spare, more⟩ := Nat.exists_eq_add_of_le holds.length
  have read := holds.reads (spare + 1) [] []
  rw [List.append_nil, List.append_nil, ← Nat.add_assoc, ← more] at read
  rw [read, Toml.readStatements]
  simp [skipLines, skipBlanks, skipComment, afterBreak?]

namespace Document

variable {fields : List (String × Value)}

theorem simple_of_not_isTable (document : Document fields) :
    ∀ field ∈ fields.filter (!isTable ·.2), Simple field.2 := by
  intro field member
  obtain ⟨listed, plain⟩ := List.mem_filter.mp member
  refine (document.each field listed).resolve_right fun table => ?_
  rw [isTable_of_table table] at plain
  cases plain

theorem table_of_isTable (document : Document fields) :
    ∀ field ∈ fields.filter (isTable ·.2), Table field.2 := by
  intro field member
  obtain ⟨listed, header⟩ := List.mem_filter.mp member
  refine (document.each field listed).resolve_left fun simple => ?_
  rw [isTable_of_simple simple] at header
  cases header

theorem holds_write (document : Document fields) :
    Holds (write fields).toList (assigns (fields.filter (!isTable ·.2)) ++
      (fields.filter (isTable ·.2)).flatMap fun table => tableStatements table.1 table.2) := by
  have text : (write fields).toList = (writeFields (fields.filter (!isTable ·.2))).toList ++
      (fields.filter (isTable ·.2)).flatMap fun table => (writeTable table.1 table.2).toList := by
    rw [write, String.toList_append, String.toList_join, List.flatMap_map]
  rw [text]
  have bare : ∀ {test : String × Value → Bool}, ∀ field ∈ fields.filter test, BareName field.1 :=
    fun field member => document.bare field (List.mem_of_mem_filter member)
  exact (holds_writeFields bare document.simple_of_not_isTable).append (.flatMap fun field member =>
    holds_writeTable (bare field member) (document.table_of_isTable field member))

theorem carryOut_root (document : Document fields) :
    ∃ entries, Node.entryValues entries =
        fields.filter (!isTable ·.2) ++ fields.filter (isTable ·.2) ∧
      carryOut [] Node.root (assigns (fields.filter (!isTable ·.2)) ++
          (fields.filter (isTable ·.2)).flatMap fun table => tableStatements table.1 table.2) =
        some (.table false false entries) := by
  let plain := fields.filter (!isTable ·.2)
  let tables := fields.filter (isTable ·.2)
  have apart : (plain.map Prod.fst ++ tables.map Prod.fst).Nodup := by
    rw [← List.map_append]
    have whole := (List.filter_append_perm (fun field => !isTable field.2) fields).map Prod.fst
    simp only [Bool.not_not] at whole
    exact whole.nodup_iff.mpr document.distinct
  have grown : carryOut [] (.table false false []) (assigns plain ++
        tables.flatMap fun table => tableStatements table.1 table.2) =
      carryOut [] (.table false false ([] ++ Node.entriesOf plain))
        (tables.flatMap fun table => tableStatements table.1 table.2) :=
    carryOut_assigns grows_root (by simpa using (List.nodup_append.mp apart).1) _
  have fresh : ((Node.entriesOf plain).map Prod.fst ++ tables.map Prod.fst).Nodup := by
    rw [Node.map_fst_entriesOf]
    exact apart
  obtain ⟨nodes, values, carried⟩ := carryOut_tables document.table_of_isTable fresh []
  refine ⟨Node.entriesOf plain ++ nodes, ?_, grown.trans carried⟩
  rw [Node.entryValues_append, Node.entryValues_entriesOf, values]

/-- A text that is written is read back, with the plain fields in front of the tables. So the order
changes where a table was in front of a plain field. -/
theorem read?_write (document : Document fields) :
    read? (write fields) =
      some (.record (fields.filter (!isTable ·.2) ++ fields.filter (isTable ·.2))) := by
  have holds := document.holds_write
  obtain ⟨entries, values, carried⟩ := document.carryOut_root
  rw [read?]
  split
  · rename_i marked
    exact absurd (by rw [marked]; rfl) holds.unmarked
  · simp only [holds.readStatements, carried, Option.bind_eq_bind, Option.bind_some, Node.toValue,
      values]
    rfl

end Document

end ProfileLexer.Toml
