import ProfileLexer.Text.CaseTable
import ProfileLexer.Text.CasedTable

/-!
Upper and lower case of whole texts with the full mappings of the Unicode standard, where one
character may become several.
-/

namespace ProfileLexer.Text

/-- The image of a code point under a table of runs. The first run that holds it decides; a run may
hold only every second code point between its ends. -/
def mapByRuns (runs : Array (Nat × Nat × Nat × Int)) (code : Nat) : Option Nat :=
  runs.findSome? fun (first, last, step, shift) =>
    if first ≤ code && code ≤ last && (code - first) % step == 0 then
      some ((code : Int) + shift).toNat
    else none

/-- The image of a character beyond ASCII: an expansion, a run, or the character itself. A character
that the tables do not list stays as it is. -/
def mapByTables (expansions : Array (Nat × List Nat)) (runs : Array (Nat × Nat × Nat × Int))
    (c : Char) : List Char :=
  match expansions.find? (fun entry => entry.1 == c.toNat) with
  | some entry => entry.2.map Char.ofNat
  | none =>
    match mapByRuns runs c.toNat with
    | some code => [Char.ofNat code]
    | none => [c]

def upperChar (c : Char) : List Char :=
  if c.toNat < 128 then [c.toUpper] else mapByTables upperExpansions upperRuns c

/-- The lower case of one character outside its word. Only a capital sigma depends on its
neighbours, and that is left to `lowerAfter`. -/
def lowerChar (c : Char) : List Char :=
  if c.toNat < 128 then [c.toLower] else mapByTables lowerExpansions lowerRuns c

def upper (text : List Char) : List Char :=
  text.flatMap upperChar

def inRanges (ranges : Array (Nat × Nat)) (code : Nat) : Bool :=
  ranges.any fun (first, last) => first ≤ code && code ≤ last

def isCased (c : Char) : Bool :=
  if c.toNat < 128 then c.isAlpha else inRanges casedRanges c.toNat

/-- Whether a character is passed over when the end of a word is looked for. -/
def isCaseIgnorable (c : Char) : Bool :=
  if c.toNat < 128 then "'.:^\x60".contains c else inRanges caseIgnorableRanges c.toNat

def meetsCased (text : List Char) : Bool :=
  ((text.dropWhile isCaseIgnorable).head?.map isCased).getD false

/-- The lower case of a text whose part before `rest` is `before`, last character first: a capital
sigma that ends a word takes its final form. -/
def lowerAfter (before : List Char) : List Char → List Char
  | [] => []
  | c :: rest =>
    let image :=
      if c == 'Σ' then
        if meetsCased before && !meetsCased rest then ['ς'] else ['σ']
      else lowerChar c
    image ++ lowerAfter (c :: before) rest

def lower (text : List Char) : List Char :=
  lowerAfter [] text

end ProfileLexer.Text
