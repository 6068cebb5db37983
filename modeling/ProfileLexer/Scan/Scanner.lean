import ProfileLexer.Scan.Rule
import ProfileLexer.Settings.Basic
import ProfileLexer.Token.Basic

/-!
Scanning: a source is cut from left to right into lexemes. Nothing in the content of a source makes
a scan fail; only its size can.
-/

namespace ProfileLexer

/-- Why a source is not scanned. Both reasons are limits of the build; no character and no form is
ever refused. -/
inductive ScanError where
  | sourceTooLarge (size : Nat)
  | tooManyLexemes (offset : Nat)
  deriving DecidableEq, Repr, Inhabited

namespace ScanError

def name : ScanError → String
  | sourceTooLarge _ => "SourceTooLarge"
  | tooManyLexemes _ => "TooManyLexemes"

def code : ScanError → Code
  | sourceTooLarge _ => .sourceTooLarge
  | tooManyLexemes _ => .lexemeLimitExceeded

def message : ScanError → String
  | sourceTooLarge size =>
    "Source too large: " ++ toString size ++ " bytes (max " ++ toString Limits.maxSourceBytes ++ ")"
  | tooManyLexemes offset =>
    "Too many lexemes: more than " ++ toString Limits.maxLexemes ++ " before offset " ++
      toString offset

end ScanError

/-- A lexeme with the rule that bounded it. The rule is kept for counting; a lexeme is classified by
its text alone. -/
structure Bounded where
  rule : Rule
  lexeme : Lexeme
  deriving DecidableEq, Repr, Inhabited

namespace Profile

/-- The rule that bounds the next lexeme of a text, and its length in characters. For the empty text
there is an answer as well, which no scan asks for. -/
def boundary (profile : Profile) (text : List Char) : Rule × Nat :=
  (Rule.all.findSome? fun rule =>
    match rule.claim? profile text with
    | some (length + 1) => some (rule, length + 1)
    | _ => none).getD (.fallback, 1)

theorem boundary_pos (profile : Profile) (text : List Char) : 0 < (profile.boundary text).2 := by
  unfold boundary
  cases found : Rule.all.findSome? (fun rule =>
      match rule.claim? profile text with
      | some (length + 1) => some (rule, length + 1)
      | _ => none) with
  | none => exact Nat.one_pos
  | some result =>
    obtain ⟨rule, _, claimed⟩ := List.exists_of_findSome?_eq_some found
    split at claimed
    · simp only [Option.some.injEq] at claimed
      simp [← claimed]
    · simp at claimed

/-- The lexemes of a text that starts at a byte offset, behind those that are bounded already; the
offset alone when there are more lexemes than allowed. Every step takes at least one character, by
`boundary_pos`. -/
def cut (profile : Profile) (allowed : Nat) (bounded : Array Bounded) (offset : Nat)
    (text : List Char) : Except Nat (Array Bounded) :=
  if text.isEmpty then .ok bounded
  else if bounded.size ≥ allowed then .error offset
  else
    let boundary := profile.boundary text
    let lexeme : Lexeme := ⟨String.ofList (text.take boundary.2), offset⟩
    cut profile allowed (bounded.push ⟨boundary.1, lexeme⟩) lexeme.stop (text.drop boundary.2)
termination_by text.length
decreasing_by
  have := profile.boundary_pos text
  have : text ≠ [] := by simp_all
  have : 0 < text.length := List.length_pos_iff.2 this
  simp only [List.length_drop]
  omega

end Profile

/-- The lexemes of a source with what a scan counts. That they tile the source holds of what
`Profile.scan` returns. -/
structure Scan where
  sourceBytes : Nat
  bounded : List Bounded
  /-- The number of lines, if lines are counted. -/
  lineCount : Option Nat
  deriving DecidableEq, Repr, Inhabited

namespace Scan

def lexemes (scan : Scan) : List Lexeme :=
  scan.bounded.map (·.lexeme)

def hits (scan : Scan) (rule : Rule) : Nat :=
  scan.bounded.countP (·.rule == rule)

/-- The hits of every rule that has some, in the order of the rules. -/
def ruleHits (scan : Scan) : List (Rule × Nat) :=
  (Rule.all.map fun rule => (rule, scan.hits rule)).filter (0 < ·.2)

def longest (scan : Scan) : Nat :=
  scan.bounded.foldl (fun longest bounded => max longest bounded.lexeme.text.utf8ByteSize) 0

end Scan

namespace Profile

/-- Cuts a source into its lexemes. The preferences decide what is counted and logged and leave the
lexemes as they are. -/
def scan (profile : Profile) (preferences : ScanPreferences) (source : String) :
    Logged ScanError Scan := do
  let size := source.utf8ByteSize
  if size > Limits.maxSourceBytes then
    Logged.log <| (Event.error .sourceTooLarge "Source exceeds scanner limit").withDetails
      [("size", toString size), ("limit", toString Limits.maxSourceBytes), ("profile", profile.id)]
    Logged.fail (.sourceTooLarge size)
  else
    Logged.log <| (Event.debug "Starting scan").withDetails
      [("profile", profile.id), ("bytes", toString size)]
    let text := source.toList
    match profile.cut Limits.maxLexemes #[] 0 text with
    | .error offset =>
      Logged.log <| (Event.error .lexemeLimitExceeded "Lexeme limit exceeded").withDetails
        [("offset", toString offset), ("limit", toString Limits.maxLexemes)]
      Logged.fail (.tooManyLexemes offset)
    | .ok bounded =>
      let scan : Scan := {
        sourceBytes := size
        bounded := bounded.toList
        lineCount := if preferences.trackLines then some (text.count '\n' + 1) else none }
      if preferences.logSummary then
        Logged.logTimed <| (Event.success .scanComplete "Scan complete").withDetails
          [("profile", profile.id), ("lexemes", toString scan.bounded.length),
            ("fallback_chars", toString (scan.hits .fallback))]
      return scan

end Profile

end ProfileLexer
