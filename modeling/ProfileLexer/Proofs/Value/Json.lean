import Mathlib.Data.List.Nodup
import ProfileLexer.Value.JsonReader
import ProfileLexer.Value.JsonWriter
import ProfileLexer.Word

/-!
JSON texts hold what is written into them: a value on one line is read back as it was. So writing on
one line is one of the codecs that are exact on plain values, which is all that is asked of a codec
where values are kept as JSON.
-/

namespace ProfileLexer.Value

/-- Values that a JSON text holds: whole numbers that fit into a word, and no name twice in a
record. Any characters may stand in texts and in names. -/
inductive Plain : Value → Prop
  | null : Plain .null
  | flag (value : Bool) : Plain (.flag value)
  | nat {n : Nat} (fits : n < wordLimit) : Plain (.nat n)
  | text (value : String) : Plain (.text value)
  | list {items : List Value} (each : ∀ item ∈ items, Plain item) : Plain (.list items)
  | record {fields : List (String × Value)} (distinct : (fields.map Prod.fst).Nodup)
      (each : ∀ field ∈ fields, Plain field.2) : Plain (.record fields)

/-- A codec writes every plain value and reads it back as it was. Nothing is asked of it for other
values, nor for texts that it did not write. -/
structure Codec.Exact (codec : Codec) : Prop where
  readsBack : ∀ {value : Value}, value.Plain →
    ∃ text, codec.write? value = some text ∧ codec.read? text = some value

/-! ### Strings -/

theorem readHex_append (rest : List Char) {digits value code : Nat} {text left : List Char}
    (read : readHex digits value text = some (code, left)) :
    readHex digits value (text ++ rest) = some (code, left ++ rest) := by
  induction digits generalizing value text with
  | zero =>
    cases read
    rfl
  | succ digits ih =>
    cases text with
    | nil => cases read
    | cons c text =>
      rw [readHex, Option.bind_eq_bind, Option.bind_eq_some_iff] at read
      obtain ⟨digit, found, read⟩ := read
      rw [List.cons_append, readHex, found]
      exact ih read

theorem charOf?_toNat (c : Char) : charOf? c.toNat = some c := by
  have code : c.toNat.isValidChar := c.valid
  rw [charOf?, if_pos code, Char.ofNat_toNat]

theorem readUnicode_of_control {c : Char} (control : c.toNat < 32) (rest : List Char) :
    ∃ digits, unicodeEscape c = '\\' :: 'u' :: digits ∧
      readUnicode (digits ++ rest) = some (c, rest) := by
  have read : ∀ n < 32, readHex 4 0 (List.replicate (4 - (Text.hexDigits n).length) '0' ++
      Text.hexDigits n) = some (n, []) := by decide
  have small : ¬(0xd800 ≤ c.toNat ∧ c.toNat < 0xdc00) := by omega
  refine ⟨_, rfl, ?_⟩
  rw [readUnicode, readHex_append rest (read c.toNat control)]
  simp only [Option.bind_eq_bind, Option.bind_some, List.nil_append, if_neg small, charOf?_toNat]
  rfl

theorem readString_jsonChar (c : Char) (fuel : Nat) (read rest : List Char) :
    readString (fuel + 1) read (jsonChar c ++ rest) = readString fuel (c :: read) rest := by
  rw [jsonChar]
  split_ifs with quote backslash feed back tab bell page control
  · rw [eq_of_beq quote]; rfl
  · rw [eq_of_beq backslash]; rfl
  · rw [eq_of_beq feed]; rfl
  · rw [eq_of_beq back]; rfl
  · rw [eq_of_beq tab]; rfl
  · rw [eq_of_beq bell]; rfl
  · rw [eq_of_beq page]; rfl
  · obtain ⟨digits, escape, escaped⟩ := readUnicode_of_control control rest
    rw [escape, List.cons_append, List.cons_append, readString, escaped]
    rfl
  · have apart : c ≠ '"' ∧ c ≠ '\\' := ⟨by simpa using quote, by simpa using backslash⟩
    rw [List.singleton_append, readString, if_neg control]
    · exact fun same => apart.1 same
    · exact fun _ same => absurd same apart.2
    · exact fun _ _ same => absurd same apart.2

/-- The rest of a string is read up to its closing quote. The fuel has to last for its characters,
not for what they are written as. -/
theorem readString_flatMap (text : List Char) {fuel : Nat} (read rest : List Char)
    (enough : text.length < fuel) :
    readString fuel read (text.flatMap jsonChar ++ '"' :: rest) =
      some (String.ofList (read.reverse ++ text), rest) := by
  induction text generalizing fuel read with
  | nil =>
    obtain ⟨fuel, rfl⟩ := Nat.exists_eq_add_of_le' (Nat.one_le_of_lt enough)
    simp [readString]
  | cons c text ih =>
    obtain ⟨fuel, rfl⟩ := Nat.exists_eq_add_of_le' (Nat.one_le_of_lt enough)
    rw [List.flatMap_cons, List.append_assoc, readString_jsonChar,
      ih _ (Nat.lt_of_succ_lt_succ enough), List.reverse_cons, List.append_assoc]
    rfl

theorem jsonChar_ne_nil (c : Char) : jsonChar c ≠ [] := by
  rw [jsonChar, unicodeEscape]
  split_ifs <;> simp

theorem length_le_flatMap (text : List Char) : text.length ≤ (text.flatMap jsonChar).length := by
  induction text with
  | nil => exact Nat.zero_le _
  | cons c text ih =>
    have some_char := List.length_pos_iff.mpr (jsonChar_ne_nil c)
    rw [List.flatMap_cons, List.length_append, List.length_cons]
    omega

theorem readString_jsonString (text : String) (rest : List Char) :
    readString ((text.toList.flatMap jsonChar ++ '"' :: rest).length + 1) []
      (text.toList.flatMap jsonChar ++ '"' :: rest) = some (text, rest) := by
  have length := length_le_flatMap text.toList
  rw [readString_flatMap _ _ _ (by rw [List.length_append]; omega), List.reverse_nil,
    List.nil_append, String.ofList_toList]

/-! ### Numbers -/

/-- A number ends before a text: neither digits nor a fraction nor a power of ten go on there. -/
def EndsNumber (rest : List Char) : Prop :=
  ∀ c ∈ rest.head?, c.isDigit = false ∧ c ≠ '.' ∧ c ≠ 'e' ∧ c ≠ 'E'

theorem head_toDigits {n : Nat} (zero : (Nat.toDigits 10 n).head? = some '0') : n = 0 := by
  induction n using Nat.strongRecOn with
  | ind n ih =>
    by_cases small : n < 10
    · rw [Nat.toDigits_of_lt_base small, List.head?_cons] at zero
      have digits : ∀ m < 10, m.digitChar = '0' → m = 0 := by decide
      exact digits n small (Option.some.inj zero)
    · rw [Nat.toDigits_of_base_le (by decide) (by omega), List.head?_append_of_ne_nil _
        Nat.toDigits_ne_nil] at zero
      have front := ih (n / 10) (by omega) zero
      omega

theorem readDigits_toDigits (n : Nat) {rest : List Char} (ended : EndsNumber rest) :
    readDigits (Nat.toDigits 10 n ++ rest) = some (Nat.toDigits 10 n, rest) := by
  have digits : ∀ c ∈ Nat.toDigits 10 n, c.isDigit = true := fun c member =>
    Nat.isDigit_of_mem_toDigits (by decide) (by decide) member
  have stops : rest.takeWhile Char.isDigit = [] ∧ rest.dropWhile Char.isDigit = rest := by
    cases rest with
    | nil => exact ⟨rfl, rfl⟩
    | cons c rest =>
      have noDigit := (ended c rfl).1
      simp [noDigit]
  rw [readDigits, List.takeWhile_append_of_pos digits, List.dropWhile_append_of_pos digits, stops.1,
    stops.2, List.append_nil]
  cases made : Nat.toDigits 10 n with
  | nil => exact absurd made Nat.toDigits_ne_nil
  | cons c rest => rfl

theorem readUnsigned_toDigits (n : Nat) {rest : List Char} (ended : EndsNumber rest) :
    readUnsigned (Nat.toDigits 10 n ++ rest) = some (Nat.toDigits 10 n, rest) := by
  have plain : ((Nat.toDigits 10 n).length > 1 && (Nat.toDigits 10 n).head? == some '0') = false := by
    by_contra long
    simp only [Bool.not_eq_false, Bool.and_eq_true, decide_eq_true_eq, beq_iff_eq] at long
    rw [head_toDigits long.2] at long
    exact absurd long.1 (by decide)
  rw [readUnsigned, readDigits_toDigits n ended]
  simp only [Option.bind_eq_bind, Option.bind_some, plain]
  cases rest with
  | nil => simp
  | cons c rest =>
    obtain ⟨_, noPoint, noMark, noMark'⟩ := ended c rfl
    simp [noPoint, noMark, noMark']

theorem toList_toString (n : Nat) : (toString n).toList = Nat.toDigits 10 n :=
  Nat.toList_repr

theorem exists_digit (n : Nat) :
    ∃ c digits, Nat.toDigits 10 n = c :: digits ∧ c.isDigit = true := by
  obtain ⟨c, digits, made⟩ := List.exists_cons_of_ne_nil (Nat.toDigits_ne_nil (n := n) (b := 10))
  have member : c ∈ Nat.toDigits 10 n := made ▸ List.mem_cons_self
  exact ⟨c, digits, made, Nat.isDigit_of_mem_toDigits (by decide) (by decide) member⟩

theorem ne_of_isDigit {c d : Char} (digit : c.isDigit = true) (other : d.isDigit = false) : c ≠ d := by
  rintro rfl
  rw [digit] at other
  cases other

theorem isJsonBlank_of_isDigit {c : Char} (digit : c.isDigit = true) : isJsonBlank c = false := by
  simp [isJsonBlank, ne_of_isDigit digit]

theorem readNumber_nat (n : Nat) {rest : List Char} (ended : EndsNumber rest) :
    readNumber ((toString n).toList ++ rest) = some (.nat n, rest) := by
  obtain ⟨c, digits, made, digit⟩ := exists_digit n
  have unsigned := readUnsigned_toDigits n ended
  rw [toList_toString]
  rw [made] at unsigned ⊢
  rw [List.cons_append] at unsigned ⊢
  rw [readNumber, unsigned]
  · rw [Option.map_some, ← made, nat, Nat.toString_eq_ofList_toDigits]
  · exact fun _ same => ne_of_isDigit digit (by decide) (List.cons.inj same).1

theorem readJson_nat (n fuel : Nat) {rest : List Char} (ended : EndsNumber rest) :
    readJson (fuel + 1) ((toString n).toList ++ rest) = some (.nat n, rest) := by
  obtain ⟨c, digits, made, digit⟩ := exists_digit n
  have read := readNumber_nat n ended
  rw [toList_toString, made, List.cons_append] at read ⊢
  rw [readJson, List.dropWhile_cons_of_neg (by simp [isJsonBlank_of_isDigit digit])]
  split
  · exact absurd ‹_› (by simp)
  all_goals first
    | exact absurd (List.cons.inj ‹c :: _ = _›).1 (ne_of_isDigit digit (by decide))
    | exact read

/-! ### Values -/

theorem endsNumber_cons {c : Char} (rest : List Char)
    (mark : c = ',' ∨ c = ']' ∨ c = '\x7d') : EndsNumber (c :: rest) := by
  rintro d same
  cases same
  obtain rfl | rfl | rfl := mark <;> decide

/-- A value is read back with enough fuel, whatever follows it, unless that goes on with a
number. -/
def ReadsBack (value : Value) : Prop :=
  ∀ (fuel : Nat) (rest : List Char), 2 * (compact value).toList.length ≤ fuel → EndsNumber rest →
    readJson fuel ((compact value).toList ++ rest) = some (value, rest)

/-- No value starts like a blank or a closing bracket, so a list can be told from an empty one. -/
theorem head_compact {value : Value} (plain : value.Plain) :
    ∃ c text, (compact value).toList = c :: text ∧ isJsonBlank c = false ∧ c ≠ ']' := by
  cases plain with
  | null => exact ⟨_, _, rfl, by decide, by decide⟩
  | flag value => cases value <;> exact ⟨_, _, rfl, by decide, by decide⟩
  | @nat n _ =>
    obtain ⟨c, digits, made, digit⟩ := exists_digit n
    exact ⟨c, digits, (toList_toString n).trans made, isJsonBlank_of_isDigit digit,
      ne_of_isDigit digit (by decide)⟩
  | text value => exact ⟨_, _, by rw [compact, jsonString, String.toList_ofList], by decide, by decide⟩
  | list each =>
    exact ⟨_, _, by rw [compact, String.toList_append, String.toList_append]; rfl, by decide, by decide⟩
  | record distinct each =>
    exact ⟨_, _, by rw [compact, String.toList_append, String.toList_append]; rfl, by decide, by decide⟩

theorem toList_compactItems (item next : Value) (items : List Value) :
    (compactItems (item :: next :: items)).toList =
      (compact item).toList ++ ',' :: (compactItems (next :: items)).toList := by
  simp [compactItems]

theorem readItems_compactItems {items : List Value} (some_item : items ≠ [])
    (each : ∀ item ∈ items, ReadsBack item) (fuel : Nat) (read : List Value) (rest : List Char)
    (enough : 2 * (compactItems items).toList.length < fuel) :
    readItems fuel read ((compactItems items).toList ++ ']' :: rest) =
      some (.list (read.reverse ++ items), rest) := by
  induction items generalizing fuel read with
  | nil => exact absurd rfl some_item
  | cons item items ih =>
    obtain ⟨fuel, rfl⟩ := Nat.exists_eq_add_of_le' (Nat.one_le_of_lt enough)
    have own := each item List.mem_cons_self fuel
    cases items with
    | nil =>
      rw [compactItems] at enough ⊢
      rw [readItems, own _ (by omega) (endsNumber_cons rest (.inr (.inl rfl)))]
      simp [isJsonBlank]
    | cons next items =>
      rw [toList_compactItems, List.length_append, List.length_cons] at enough
      have later := ih (List.cons_ne_nil _ _)
        (fun item member => each item (List.mem_cons_of_mem _ member)) fuel (item :: read)
        (by omega)
      rw [toList_compactItems, List.append_assoc, List.cons_append, readItems,
        own _ (by omega) (endsNumber_cons _ (.inl rfl))]
      simpa [isJsonBlank] using later

theorem toList_compactFields (name : String) (value : Value) (next : String × Value)
    (fields : List (String × Value)) :
    (compactFields ((name, value) :: next :: fields)).toList =
      (jsonString name).toList ++ ':' :: ((compact value).toList ++
        ',' :: (compactFields (next :: fields)).toList) := by
  simp [compactFields]

/-- The name of a field is read, then its value. -/
theorem readFields_name (name : String) (fuel : Nat) (read : List (String × Value))
    (text : List Char) :
    readFields (fuel + 1) read ((jsonString name).toList ++ ':' :: text) =
      (readJson fuel text).bind fun (value, rest) =>
        match rest.dropWhile isJsonBlank with
        | ',' :: rest => readFields fuel (setField name value read) rest
        | '\x7d' :: rest => some (.record (setField name value read), rest)
        | _ => none := by
  have readName := readString_jsonString name (':' :: text)
  simp only [jsonString, String.toList_ofList, List.cons_append, List.append_assoc, List.nil_append]
  rw [readFields, List.dropWhile_cons_of_neg (by decide)]
  simp only [readName, Option.bind_eq_bind, Option.bind_some]
  rfl

theorem setField_of_fresh {name : String} (value : Value) {fields : List (String × Value)}
    (fresh : name ∉ fields.map Prod.fst) : setField name value fields = fields ++ [(name, value)] := by
  rw [setField, if_neg]
  intro known
  obtain ⟨field, member, same⟩ := List.any_eq_true.mp known
  exact fresh (eq_of_beq same ▸ List.mem_map_of_mem member)

/-- Fields are read behind those that have been read before. A name that is there already would be
set in its place, so names have to be distinct. -/
theorem readFields_compactFields {fields : List (String × Value)} (some_field : fields ≠ [])
    (each : ∀ field ∈ fields, ReadsBack field.2)
    (fuel : Nat) (read : List (String × Value)) (rest : List Char)
    (distinct : ((read ++ fields).map Prod.fst).Nodup)
    (enough : 2 * (compactFields fields).toList.length < fuel) :
    readFields fuel read ((compactFields fields).toList ++ '\x7d' :: rest) =
      some (.record (read ++ fields), rest) := by
  induction fields generalizing fuel read with
  | nil => exact absurd rfl some_field
  | cons field fields ih =>
    obtain ⟨name, value⟩ := field
    obtain ⟨fuel, rfl⟩ := Nat.exists_eq_add_of_le' (Nat.one_le_of_lt enough)
    have own := each (name, value) List.mem_cons_self fuel
    have fresh : name ∉ read.map Prod.fst := by
      rw [List.map_append, List.nodup_append] at distinct
      exact fun known => distinct.2.2 name known name (by simp) rfl
    cases fields with
    | nil =>
      simp only [compactFields, String.toList_append, List.length_append] at enough ⊢
      have colon : ":".toList = [':'] := rfl
      rw [colon, List.append_assoc, List.append_assoc, List.singleton_append, readFields_name,
        own _ (by dsimp only; omega) (endsNumber_cons rest (.inr (.inr rfl)))]
      simp [isJsonBlank, setField_of_fresh value fresh]
    | cons next fields =>
      rw [toList_compactFields, List.length_append, List.length_cons, List.length_append,
        List.length_cons] at enough
      have later := ih (List.cons_ne_nil _ _)
        (fun field member => each field (List.mem_cons_of_mem _ member)) fuel
        (read ++ [(name, value)]) (by simpa using distinct) (by omega)
      rw [toList_compactFields, List.append_assoc, List.cons_append, List.append_assoc,
        List.cons_append, readFields_name,
        own _ (by dsimp only; omega) (endsNumber_cons _ (.inl rfl))]
      simpa [isJsonBlank, setField_of_fresh value fresh] using later

theorem exists_fuel {value : Value} (plain : value.Plain) {fuel : Nat}
    (enough : 2 * (compact value).toList.length ≤ fuel) : ∃ less, fuel = less + 1 := by
  obtain ⟨c, text, made, _⟩ := head_compact plain
  rw [made, List.length_cons] at enough
  exact Nat.exists_eq_add_one_of_ne_zero (by omega)

theorem head_compactItems {item : Value} (plain : item.Plain) (items : List Value)
    (rest : List Char) :
    ∃ c text, (compactItems (item :: items)).toList ++ rest = c :: text ∧ isJsonBlank c = false ∧
      c ≠ ']' := by
  obtain ⟨c, text, made, noBlank, noClose⟩ := head_compact plain
  cases items with
  | nil => exact ⟨c, text ++ rest, by rw [compactItems, made, List.cons_append], noBlank, noClose⟩
  | cons next items =>
    exact ⟨c, _, by rw [toList_compactItems, made, List.append_assoc, List.cons_append], noBlank,
      noClose⟩

theorem head_compactFields (field : String × Value) (fields : List (String × Value)) :
    ∃ text, (compactFields (field :: fields)).toList = '"' :: text := by
  obtain ⟨name, value⟩ := field
  cases fields <;> simp [compactFields, jsonString]

theorem readsBack_list {items : List Value} (plain : ∀ item ∈ items, item.Plain)
    (each : ∀ item ∈ items, ReadsBack item) : ReadsBack (.list items) := by
  intro fuel rest enough _
  obtain ⟨fuel, rfl⟩ := exists_fuel (.list plain) enough
  have text : (compact (.list items)).toList = '[' :: ((compactItems items).toList ++ [']']) := by
    simp [compact]
  rw [text, List.length_cons, List.length_append] at enough
  rw [text, List.cons_append, List.append_assoc, List.singleton_append, readJson,
    List.dropWhile_cons_of_neg (by decide)]
  cases items with
  | nil => rfl
  | cons item items =>
    have read := readItems_compactItems (List.cons_ne_nil item items) each fuel [] rest
      (by omega)
    obtain ⟨c, after, made, noBlank, noClose⟩ :=
      head_compactItems (plain item List.mem_cons_self) items (']' :: rest)
    rw [made] at read ⊢
    simp only
    rw [List.dropWhile_cons_of_neg (by simp [noBlank])]
    split
    · exact absurd (List.cons.inj ‹_›).1 noClose
    · exact read

theorem readsBack_record {fields : List (String × Value)} (distinct : (fields.map Prod.fst).Nodup)
    (plain : ∀ field ∈ fields, field.2.Plain) (each : ∀ field ∈ fields, ReadsBack field.2) :
    ReadsBack (.record fields) := by
  intro fuel rest enough _
  obtain ⟨fuel, rfl⟩ := exists_fuel (.record distinct plain) enough
  have text : (compact (.record fields)).toList =
      '\x7b' :: ((compactFields fields).toList ++ ['\x7d']) := by
    simp [compact]
  rw [text, List.length_cons, List.length_append] at enough
  rw [text, List.cons_append, List.append_assoc, List.singleton_append, readJson,
    List.dropWhile_cons_of_neg (by decide)]
  cases fields with
  | nil => rfl
  | cons field fields =>
    have read := readFields_compactFields (List.cons_ne_nil field fields) each fuel [] rest
      distinct (by omega)
    obtain ⟨after, made⟩ := head_compactFields field fields
    rw [made] at read ⊢
    exact read

theorem readsBack_of_plain {value : Value} (plain : value.Plain) : ReadsBack value := by
  induction plain with
  | null =>
    intro fuel rest enough _
    obtain ⟨fuel, rfl⟩ := exists_fuel .null enough
    simp [compact, readJson, isJsonBlank, afterWord?]
  | flag value =>
    intro fuel rest enough _
    obtain ⟨fuel, rfl⟩ := exists_fuel (.flag value) enough
    cases value <;> simp [compact, readJson, isJsonBlank, afterWord?]
  | @nat n fits =>
    intro fuel rest enough ended
    obtain ⟨fuel, rfl⟩ := exists_fuel (.nat fits) enough
    exact readJson_nat n fuel ended
  | text value =>
    intro fuel rest enough ended
    obtain ⟨fuel, rfl⟩ := exists_fuel (.text value) enough
    have read := readString_jsonString value rest
    simp only [compact, jsonString, String.toList_ofList, List.cons_append, List.append_assoc,
      List.nil_append]
    rw [readJson, List.dropWhile_cons_of_neg (by decide)]
    simp only [read, Option.map_some]
  | list each ih => exact readsBack_list each ih
  | record distinct each ih => exact readsBack_record distinct each ih

/-- A value written on one line is the value of that text, and nothing is left of it. -/
theorem ofJson?_compact {value : Value} (plain : value.Plain) :
    ofJson? (compact value) = some value := by
  have read := readsBack_of_plain plain (2 * (compact value).toList.length + 2) [] (by omega)
    fun c none_there => nomatch none_there
  rw [List.append_nil] at read
  rw [ofJson?]
  simp only [read]
  rfl

/-- Values as JSON texts on one line. Every value has a text, though only plain ones are read back
as they were. -/
def json : Codec where
  write? value := some value.compact
  read? := ofJson?

theorem write?_json (value : Value) : json.write? value = some value.compact := rfl

theorem read?_json (text : String) : json.read? text = ofJson? text := rfl

/-- The library's own JSON is exact: it gives back every plain value, not only the records of
tokens. -/
theorem exact_json : json.Exact :=
  ⟨fun plain => ⟨_, rfl, ofJson?_compact plain⟩⟩

end ProfileLexer.Value
