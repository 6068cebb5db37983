import ProfileLexer.Profile.DefinitionValue
import ProfileLexer.Profile.Error
import ProfileLexer.Value.TomlReader
import ProfileLexer.Value.TomlWriter

/-!
Profiles as TOML texts. What a definition is as data is told apart from the format of the text,
which any codec may set.
-/

namespace ProfileLexer

/-- Values as TOML texts. Only a record is a whole text, so that no other value is written. -/
def Toml.codec : Value.Codec where
  write?
    | .record fields => some (Toml.write fields)
    | _ => none
  read? := Toml.read?

/-- A definition as a text of a codec, unless the codec refuses it. Nothing is asked of the
codec. -/
def Definition.toTextWith? (codec : Value.Codec) (definition : Definition) : Option String :=
  codec.write? definition.toValue

/-- The definition that a text of a codec holds. It may be one of which no profile can be made. -/
def Definition.ofTextWith? (codec : Value.Codec) (text : String) : Option Definition :=
  (codec.read? text).bind Definition.ofValue?

def Definition.toToml (definition : Definition) : String :=
  Toml.write definition.fields

/-- The profile that a text of a codec defines. A text that holds no definition and a definition
that is refused are different errors. -/
def Profile.ofTextWith (codec : Value.Codec) (text : String) : Logged ProfileError Profile :=
  match Definition.ofTextWith? codec text with
  | none => Logged.fail (.parse "no profile definition")
  | some definition => do
    let profile ← Profile.load definition
    Logged.log <| (Event.success .profileLoaded "Profile loaded from TOML").withDetails
      [("profile", profile.id), ("keywords", toString profile.keywords.eraseDups.length),
        ("operators", toString profile.operatorCount)]
    return profile

def Profile.ofToml (text : String) : Logged ProfileError Profile :=
  Profile.ofTextWith Toml.codec text

end ProfileLexer
