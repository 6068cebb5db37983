import ProfileLexer.Chunk.Reassembler
import ProfileLexer.Profile.Error
import ProfileLexer.Scan.Scanner

/-!
Why a run fails.
-/

namespace ProfileLexer

inductive RunError where
  | profile (error : ProfileError)
  | scan (error : ScanError)
  | scheduler (error : SchedulerError)
  /-- The tokens do not cover the source. -/
  | stream (violation : StreamViolation)
  | other (message : String)
  deriving DecidableEq, Repr, Inhabited

namespace RunError

def name : RunError → String
  | profile _ => "Profile"
  | scan _ => "Scan"
  | scheduler _ => "Scheduler"
  | stream _ => "Stream"
  | other _ => "Pipeline"

/-- The name of what is behind an error, where it comes from a part of the run that has errors of
its own. -/
def cause? : RunError → Option String
  | profile error => some error.name
  | scan error => some error.name
  | scheduler error => some error.name
  | stream violation => some violation.name
  | other _ => none

def code : RunError → Code
  | profile error => error.code
  | scan error => error.code
  | scheduler error => error.code
  | stream _ | other _ => .internalError

def message : RunError → String
  | profile error => "Profile error: " ++ error.message
  | scan error => "Scan failed: " ++ error.message
  | scheduler error => "Classification run failed: " ++ error.message
  | stream violation => "Token stream check failed: " ++ violation.message
  | other message => "Pipeline error: " ++ message

end RunError

end ProfileLexer
