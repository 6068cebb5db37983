import ProfileLexer.Profile.Basic

/-!
Why a profile can not be had.
-/

namespace ProfileLexer

inductive ProfileError where
  /-- Something is wrong with the definition. -/
  | definition (problem : DefinitionProblem)
  /-- No built-in profile has the name. -/
  | unknown (name : String) (available : String)
  /-- The file can not be read. -/
  | file (path : String) (reason : String)
  /-- The text is no definition. -/
  | parse (reason : String)
  /-- The definition can not be written. -/
  | serialize (reason : String)
  deriving DecidableEq, Repr, Inhabited

namespace ProfileError

def name : ProfileError → String
  | definition problem => problem.name
  | unknown _ _ => "UnknownProfile"
  | file _ _ => "Io"
  | parse _ => "Parse"
  | serialize _ => "Serialize"

def code : ProfileError → Code
  | definition _ => .invalidProfile
  | unknown _ _ => .unknownProfile
  | file _ _ | parse _ | serialize _ => .profileParseFailure

def message : ProfileError → String
  | definition problem => problem.message
  | unknown name available => "Unknown profile '" ++ name ++ "' (available: " ++ available ++ ")"
  | file path reason => "Failed to read profile file '" ++ path ++ "': " ++ reason
  | parse reason => "Profile TOML parse failed: " ++ reason
  | serialize reason => "Profile TOML serialization failed: " ++ reason

end ProfileError

/-- The profile of a definition, with what is logged when it is made. Nothing is logged about a
definition that is refused. -/
def Profile.load (definition : Definition) : Logged ProfileError Profile :=
  match Profile.ofDefinition definition with
  | .error problem => Logged.fail (.definition problem)
  | .ok profile => ⟨profile.entries, .ok profile⟩

end ProfileLexer
