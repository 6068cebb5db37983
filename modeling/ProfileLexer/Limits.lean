import ProfileLexer.Log.Event

/-!
The fixed limits of this build.
-/

namespace ProfileLexer.Limits

def buildName : String := "development"

def buildSource : String := "Generated from config/development.toml"

def version : String := "0.1.0"

def maxSourceBytes : Nat := 104857600

def maxLexemes : Nat := 20000000

/-- How many disagreements between the two classifiers are kept as samples. -/
def maxDisagreementSamples : Nat := 64

/-- How many invalid tokens are kept as samples. -/
def maxInvalidSamples : Nat := 10000

/-- The fewest lexemes in a chunk when nothing else is asked for. -/
def minChunkSize : Nat := 100

def maxWorkers : Nat := 64

/-- The number of lexemes below which one worker does everything when nothing else is asked for. -/
def parallelThreshold : Nat := 1000

/-- How many events a log buffer keeps when nothing else is asked for. -/
def logBufferSize : Nat := 10000

def maxMessageBytes : Nat := 4096

def levelCeiling : LogLevel := .ofNumber 3

end ProfileLexer.Limits
