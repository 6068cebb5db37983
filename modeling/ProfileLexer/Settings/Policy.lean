import ProfileLexer.Text.Blank
import ProfileLexer.Text.Case

/-!
What a failed chunk does to a run.
-/

namespace ProfileLexer

inductive FailurePolicy where
  /-- The run fails. -/
  | abortRun
  /-- One invalid token takes the place of the chunk. -/
  | degradeChunk
  deriving DecidableEq, Repr, Inhabited

namespace FailurePolicy

def word : FailurePolicy → String
  | abortRun => "abort"
  | degradeChunk => "degrade"

def name : FailurePolicy → String
  | abortRun => "abort_run"
  | degradeChunk => "degrade_chunk"

/-- The policy that a user names by its word or its name, in any case and between blanks. The
complaint about any other text quotes it as it was understood, not as it was given. -/
def parse (text : String) : Except String FailurePolicy :=
  let wanted := String.ofList (Text.lower (Text.trim text.toList))
  if wanted = "abort" ∨ wanted = "abort_run" then .ok abortRun
  else if wanted = "degrade" ∨ wanted = "degrade_chunk" then .ok degradeChunk
  else .error ("unknown failure policy '" ++ wanted ++ "' (expected abort or degrade)")

end FailurePolicy

end ProfileLexer
