import ProfileLexer.Profile.Builtin
import ProfileLexer.Settings.Host

/-!
Reports on the tokenizer itself: its limits, the machine it is on, and its built-in profiles.
-/

namespace ProfileLexer

structure ProfileSummary where
  id : String
  aliases : List String
  description : String
  reservedWords : Nat
  operators : Nat
  deriving DecidableEq, Repr, Inhabited

namespace ProfileSummary

def ofProfile (profile : Profile) : ProfileSummary where
  id := profile.id
  aliases := profile.definition.aliases
  description := profile.definition.description
  reservedWords := profile.reservedWordCount
  operators := profile.operatorCount

def line (summary : ProfileSummary) : String :=
  "    " ++ summary.id ++ " (" ++ ", ".intercalate summary.aliases ++ "): " ++
    toString summary.reservedWords ++ " reserved words, " ++ toString summary.operators ++
    " operators"

def toValue (summary : ProfileSummary) : Value :=
  .record [
    ("id", .text summary.id),
    ("aliases", .texts summary.aliases),
    ("description", .text summary.description),
    ("reserved_words", .nat summary.reservedWords),
    ("operators", .nat summary.operators)]

end ProfileSummary

/-- What the tokenizer tells about itself. The cores and the number of workers follow from the
machine, the limits from the build. -/
structure SystemInfo where
  cores : Nat
  defaultWorkers : Nat
  maxSourceBytes : Nat
  profiles : List ProfileSummary
  /-- Events are recorded. -/
  logging : Bool
  deriving DecidableEq, Repr, Inhabited

namespace SystemInfo

def onHost (host : Host) (profiles : List Profile) : SystemInfo where
  cores := host.cores
  defaultWorkers := host.defaultWorkers
  maxSourceBytes := Limits.maxSourceBytes
  profiles := profiles.map .ofProfile
  logging := true

def report (info : SystemInfo) : String :=
  Text.lines <|
    ["Tokenization Pipeline:",
      "- Detected Cores: " ++ toString info.cores,
      "- Default Workers: " ++ toString info.defaultWorkers,
      "- Max Worker Threads: " ++ toString Limits.maxWorkers,
      "- Min Chunk Size: " ++ toString Limits.minChunkSize ++ " lexemes",
      "- Parallel Threshold: " ++ toString Limits.parallelThreshold ++ " lexemes",
      "- Max Source Size: " ++ toString (info.maxSourceBytes / (1024 * 1024)) ++ " MB",
      "- Max Lexemes: " ++ toString Limits.maxLexemes,
      "- Build Profile: " ++ Limits.buildName,
      "- Config Source: " ++ Limits.buildSource,
      "- Global Logging: " ++ toString info.logging,
      "- Profiles:"] ++
    info.profiles.map (·.line)

def summary (info : SystemInfo) : String :=
  toString info.profiles.length ++ "-profile tokenizer, " ++ toString info.defaultWorkers ++
    " default workers on " ++ toString info.cores ++ " cores (" ++ Limits.buildName ++ " build)"

def toValue (info : SystemInfo) : Value :=
  .record [
    ("detected_cores", .nat info.cores),
    ("default_workers", .nat info.defaultWorkers),
    ("max_worker_threads", .nat Limits.maxWorkers),
    ("min_chunk_size", .nat Limits.minChunkSize),
    ("parallel_threshold", .nat Limits.parallelThreshold),
    ("max_source_bytes", .nat info.maxSourceBytes),
    ("max_lexeme_count", .nat Limits.maxLexemes),
    ("build_profile", .text Limits.buildName),
    ("config_source", .text Limits.buildSource),
    ("profiles", .list (info.profiles.map (·.toValue))),
    ("global_logging_enabled", .flag info.logging)]

end SystemInfo

end ProfileLexer
