/-!
The registry of event codes. Every code that the tokenizer logs is listed with its severity, with
what it means for the run, and with the action it calls for.
-/

namespace ProfileLexer

/-- A code of an event. Codes outside the registry are allowed and have default properties: of
medium severity, recoverable, and no reason to halt. -/
structure Code where
  name : String
  deriving DecidableEq, Repr, Inhabited

inductive Severity where
  | critical
  | high
  | medium
  | low
  deriving DecidableEq, Repr, Inhabited

def Severity.word : Severity → String
  | critical => "Critical"
  | high => "High"
  | medium => "Medium"
  | low => "Low"

structure CodeInfo where
  code : Code
  category : String
  severity : Severity
  /-- The run can go on. -/
  recoverable : Bool
  /-- The run has to stop. -/
  halts : Bool
  description : String
  action : String

namespace Code

def internalError : Code := ⟨"ERR001"⟩

def initializationFailure : Code := ⟨"ERR002"⟩

def invalidProfile : Code := ⟨"E010"⟩

def profileParseFailure : Code := ⟨"E011"⟩

def unknownProfile : Code := ⟨"E012"⟩

def unreachableOperator : Code := ⟨"W010"⟩

def invalidCharacter : Code := ⟨"E020"⟩

def unterminatedLiteral : Code := ⟨"E021"⟩

def unclassifiableLexeme : Code := ⟨"E022"⟩

def sourceTooLarge : Code := ⟨"E023"⟩

def lexemeLimitExceeded : Code := ⟨"E024"⟩

def pathDisagreement : Code := ⟨"W020"⟩

def workerFailure : Code := ⟨"E040"⟩

def chunkMissing : Code := ⟨"E041"⟩

def invalidWorkerCount : Code := ⟨"E042"⟩

def channelClosed : Code := ⟨"E043"⟩

def chunkDegraded : Code := ⟨"W040"⟩

def systemReady : Code := ⟨"I004"⟩

def profileLoaded : Code := ⟨"I010"⟩

def scanComplete : Code := ⟨"I020"⟩

def classificationComplete : Code := ⟨"I021"⟩

def chunkComplete : Code := ⟨"I030"⟩

def reassemblyComplete : Code := ⟨"I031"⟩

def pipelineComplete : Code := ⟨"I040"⟩

def benchmarkComplete : Code := ⟨"I041"⟩

def plainWarning : Code := ⟨"W000"⟩

def plainInfo : Code := ⟨"I000"⟩

def plainDebug : Code := ⟨"D000"⟩

def all : List Code := [
  internalError, initializationFailure, invalidProfile, profileParseFailure, unknownProfile,
  unreachableOperator, invalidCharacter, unterminatedLiteral, unclassifiableLexeme,
  sourceTooLarge, lexemeLimitExceeded, pathDisagreement, workerFailure, chunkMissing,
  invalidWorkerCount, channelClosed, chunkDegraded, systemReady, profileLoaded, scanComplete,
  classificationComplete, chunkComplete, reassemblyComplete, pipelineComplete, benchmarkComplete]

def registry : List CodeInfo := [
  { code := internalError, category := "System", severity := .critical,
    recoverable := false, halts := true,
    description := "Critical internal error",
    action := "File a bug report with the input that triggered it" },
  { code := initializationFailure, category := "System", severity := .critical,
    recoverable := false, halts := true,
    description := "Logging or configuration initialization failure",
    action := "Check TURING_* environment variables and the build profile" },
  { code := invalidProfile, category := "Profile", severity := .high,
    recoverable := false, halts := true,
    description := "Lexicon profile failed validation",
    action := "Fix the reported table or marker in the profile definition" },
  { code := profileParseFailure, category := "Profile", severity := .high,
    recoverable := false, halts := true,
    description := "Lexicon profile definition could not be parsed",
    action := "Check the profile TOML against the documented layout" },
  { code := unknownProfile, category := "Profile", severity := .medium,
    recoverable := false, halts := true,
    description := "No built-in profile with the requested name",
    action := "Use one of: imperative, symbolic, query" },
  { code := unreachableOperator, category := "Profile", severity := .low,
    recoverable := true, halts := false,
    description := "Operator can never match because its first character is a delimiter",
    action := "Remove the operator or the delimiter from the profile" },
  { code := invalidCharacter, category := "Lexical", severity := .low,
    recoverable := true, halts := false,
    description := "Character outside the profile alphabet",
    action := "Token is emitted as UNKNOWN and flagged invalid" },
  { code := unterminatedLiteral, category := "Lexical", severity := .low,
    recoverable := true, halts := false,
    description := "String, comment or quoted list reaches end of input without a closer",
    action := "Token keeps its best-guess kind and is flagged invalid" },
  { code := unclassifiableLexeme, category := "Lexical", severity := .low,
    recoverable := true, halts := false,
    description := "Lexeme rejected by the fallback state machine",
    action := "Token is emitted as UNKNOWN and flagged invalid" },
  { code := sourceTooLarge, category := "Lexical", severity := .high,
    recoverable := false, halts := true,
    description := "Source exceeds the configured maximum size",
    action := "Split the input or raise scanner.max_source_bytes" },
  { code := lexemeLimitExceeded, category := "Lexical", severity := .high,
    recoverable := false, halts := true,
    description := "Lexeme count or lexeme size exceeds the configured maximum",
    action := "Raise scanner.max_lexeme_count" },
  { code := pathDisagreement, category := "Lexical", severity := .low,
    recoverable := true, halts := false,
    description := "Fast-path classification and fallback state machine disagree",
    action := "Fast path result kept; review the lexeme against the profile" },
  { code := workerFailure, category := "Scheduler", severity := .critical,
    recoverable := false, halts := true,
    description := "Classification worker failed",
    action := "Run aborted; retry or use the degrade failure policy" },
  { code := chunkMissing, category := "Scheduler", severity := .critical,
    recoverable := false, halts := true,
    description := "Chunk result missing at reassembly",
    action := "Run aborted; file a bug report" },
  { code := invalidWorkerCount, category := "Scheduler", severity := .medium,
    recoverable := false, halts := true,
    description := "Requested worker count is not usable",
    action := "Request between 1 and scheduler.max_worker_threads workers" },
  { code := channelClosed, category := "Scheduler", severity := .critical,
    recoverable := false, halts := true,
    description := "Result channel closed before every chunk reported",
    action := "Run aborted; check for worker panics in the log" },
  { code := chunkDegraded, category := "Scheduler", severity := .medium,
    recoverable := true, halts := false,
    description := "Chunk replaced by an invalid placeholder token",
    action := "Inspect the worker failure logged for this chunk" },
  { code := systemReady, category := "Success", severity := .low,
    recoverable := true, halts := false,
    description := "Logging system initialized",
    action := "None" },
  { code := profileLoaded, category := "Success", severity := .low,
    recoverable := true, halts := false,
    description := "Lexicon profile loaded and validated",
    action := "None" },
  { code := scanComplete, category := "Success", severity := .low,
    recoverable := true, halts := false,
    description := "Scanning completed",
    action := "None" },
  { code := classificationComplete, category := "Success", severity := .low,
    recoverable := true, halts := false,
    description := "Classification completed",
    action := "None" },
  { code := chunkComplete, category := "Success", severity := .low,
    recoverable := true, halts := false,
    description := "Chunk classified",
    action := "None" },
  { code := reassemblyComplete, category := "Success", severity := .low,
    recoverable := true, halts := false,
    description := "Chunk results reassembled in order",
    action := "None" },
  { code := pipelineComplete, category := "Success", severity := .low,
    recoverable := true, halts := false,
    description := "Tokenization pipeline completed",
    action := "None" },
  { code := benchmarkComplete, category := "Success", severity := .low,
    recoverable := true, halts := false,
    description := "Worker-count benchmark completed",
    action := "None" } ]

def info? (code : Code) : Option CodeInfo :=
  registry.find? (·.code == code)

def isRegistered (code : Code) : Bool :=
  code.info?.isSome

def severity (code : Code) : Severity :=
  (code.info?.map (·.severity)).getD .medium

def isRecoverable (code : Code) : Bool :=
  (code.info?.map (·.recoverable)).getD true

def halts (code : Code) : Bool :=
  (code.info?.map (·.halts)).getD false

def description (code : Code) : String :=
  (code.info?.map (·.description)).getD "Unknown error"

def action (code : Code) : String :=
  (code.info?.map (·.action)).getD "No specific action available"

def category (code : Code) : String :=
  (code.info?.map (·.category)).getD "Unknown"

end Code

end ProfileLexer
