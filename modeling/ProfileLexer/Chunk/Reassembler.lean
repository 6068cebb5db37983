import ProfileLexer.Chunk.Report

/-!
Reassembly: reports on chunks arrive in any order, and their tokens are put back into the order of
the chunks. Under the degrading policy a failed chunk becomes one invalid token over its place in
the source.
-/

namespace ProfileLexer

/-- Why the chunks of a run can not be put together. Reports that contradict each other are no
error; the later one takes the place of the earlier. -/
inductive SchedulerError where
  | workerFault (fault : WorkerFault)
  /-- A worker broke down outside its chunks. -/
  | workerPanic (worker : Nat) (message : String)
  | chunkMissing (chunk : Nat)
  | invalidWorkerCount (requested most : Nat)
  /-- All workers are done, but not every chunk has been reported on. -/
  | channelClosed (received expected : Nat)
  deriving DecidableEq, Repr, Inhabited

namespace SchedulerError

def name : SchedulerError → String
  | workerFault _ => "WorkerFault"
  | workerPanic _ _ => "WorkerPanic"
  | chunkMissing _ => "ChunkMissing"
  | invalidWorkerCount _ _ => "InvalidWorkerCount"
  | channelClosed _ _ => "ChannelClosed"

def code : SchedulerError → Code
  | workerFault _ | workerPanic _ _ => .workerFailure
  | chunkMissing _ => .chunkMissing
  | invalidWorkerCount _ _ => .invalidWorkerCount
  | channelClosed _ _ => .channelClosed

def message : SchedulerError → String
  | workerFault fault => fault.text
  | workerPanic worker message =>
    "worker " ++ toString worker ++ " panicked outside a chunk: " ++ message
  | chunkMissing chunk => "no result for chunk " ++ toString chunk
  | invalidWorkerCount requested most =>
    "invalid worker count " ++ toString requested ++ " (allowed 1..=" ++ toString most ++ ")"
  | channelClosed received expected =>
    "result channel closed after " ++ toString received ++ " of " ++ toString expected ++ " chunks"

end SchedulerError

/-- What has arrived for the chunk at one place. A result and a fault may both be there, and nothing
ties the chunk that they name to the place. -/
structure Slot where
  range : ChunkRange
  result : Option WorkerResult
  fault : Option WorkerFault
  deriving DecidableEq, Repr, Inhabited

/-- What has arrived so far. The number of a chunk is the index of its slot, and the count of
reports is kept beside the slots, not computed from them. -/
structure Reassembler where
  policy : FailurePolicy
  slots : List Slot
  /-- How many reports have filled an empty place. -/
  received : Nat
  deriving DecidableEq, Repr, Inhabited

/-- All tokens in order, with what is kept about each chunk. It lists the faults that the run has
survived; under the aborting policy there are none. -/
structure Reassembly where
  tokens : List Token
  chunks : List ChunkRecord
  /-- The chunks that were given up. -/
  degraded : List Nat
  faults : List WorkerFault
  deriving DecidableEq, Repr, Inhabited

/-- What one slot contributes to a reassembly: the tokens of a chunk, or the one token that stands
for them, with the record and the fault. -/
structure Piece where
  tokens : List Token
  record : ChunkRecord
  fault : Option WorkerFault
  deriving DecidableEq, Repr, Inhabited

namespace Slot

/-- The slot with a result, which takes the place of an earlier one. A fault that is there already
stays. -/
def putResult (slot : Slot) (result : WorkerResult) : Slot :=
  { slot with result := some result }

/-- The slot with a fault, which takes the place of an earlier one. A result that is there already
stays, and will be preferred. -/
def putFault (slot : Slot) (fault : WorkerFault) : Slot :=
  { slot with fault := some fault }

/-- The invalid token that stands for a chunk which was given up. It is given the whole text of the
chunk, so that no character of the source is lost. -/
def degradedToken (slot : Slot) (text : String) : Token :=
  .invalid .unknown ⟨text, slot.range.start⟩ .degradedChunk

/-- The piece for a chunk that was given up after a fault. -/
def degradedPiece (slot : Slot) (fault : WorkerFault) (text : String) : Piece where
  tokens := [slot.degradedToken text]
  record := { ChunkRecord.ofTokens slot.range.id fault.worker slot.range.lexemes
      [slot.degradedToken text] with degraded := true }
  fault := some fault

/-- What a slot contributes: its result if there is one, else the place of its chunk in the source
if there is a fault. An empty slot is an error, and so is a place that the source does not have. -/
def piece (slot : Slot) (source : List Char) : Logged SchedulerError Piece :=
  match slot.result, slot.fault with
  | some result, _ => return ⟨result.tokens, result.record, none⟩
  | none, some fault =>
    match Text.slice? source slot.range.start slot.range.stop with
    | none => Logged.fail (.chunkMissing slot.range.id)
    | some text => do
      Logged.log <| (Event.codedWarning .chunkDegraded
        "Chunk replaced by a degraded token").withDetails
          [("chunk", toString slot.range.id), ("start", toString slot.range.start),
            ("end", toString slot.range.stop)]
      return slot.degradedPiece fault (String.ofList text)
  | none, none => Logged.fail (.chunkMissing slot.range.id)

end Slot

/-- What is logged when a report arrives. Faults are logged as they arrive, under either policy and
before they are accepted or refused. -/
def ChunkReport.entries : ChunkReport → List Entry
  | result _ => []
  | fault failed =>
    [.plain <| (Event.error .workerFailure "Worker fault").withDetails
      [("chunk", toString failed.chunk), ("worker", toString failed.worker),
        ("panicked", toString failed.panicked), ("message", failed.message)]]

namespace Reassembler

def ofRanges (policy : FailurePolicy) (ranges : List ChunkRange) : Reassembler where
  policy := policy
  slots := ranges.map fun range => ⟨range, none, none⟩
  received := 0

def expected (reassembler : Reassembler) : Nat :=
  reassembler.slots.length

def isComplete (reassembler : Reassembler) : Bool :=
  reassembler.received == reassembler.expected

/-- Puts a changed slot back, and counts it if it has been `filled`. Whether that is so is decided
by the caller. -/
def update (reassembler : Reassembler) (chunk : Nat) (slot : Slot) (filled : Bool) :
    Reassembler :=
  { reassembler with
    slots := reassembler.slots.set chunk slot
    received := if filled then reassembler.received + 1 else reassembler.received }

/-- The reassembler after one report, and why the report is refused, if it is. A result counts
unless there was a result before; a fault counts unless there was a result or a fault before. Under
the aborting policy every fault is refused. -/
def receive (reassembler : Reassembler) : ChunkReport → Reassembler × Option SchedulerError
  | .result result =>
    match reassembler.slots[result.chunk]? with
    | none => (reassembler, some (.chunkMissing result.chunk))
    | some slot =>
      (reassembler.update result.chunk (slot.putResult result) slot.result.isNone, none)
  | .fault fault =>
    match reassembler.policy with
    | .abortRun => (reassembler, some (.workerFault fault))
    | .degradeChunk =>
      match reassembler.slots[fault.chunk]? with
      | none => (reassembler, some (.chunkMissing fault.chunk))
      | some slot =>
        (reassembler.update fault.chunk (slot.putFault fault)
          (slot.fault.isNone && slot.result.isNone), none)

/-- The reassembler after one report, unless the report is refused. An error leaves no reassembler
behind; the collector stops with it. -/
def accept (reassembler : Reassembler) (report : ChunkReport) :
    Except SchedulerError Reassembler :=
  match reassembler.receive report with
  | (next, none) => .ok next
  | (_, some error) => .error error

end Reassembler

/-- The pieces of all chunks put together in the order in which they are given. A chunk is listed as
degraded under the number in its record. -/
def Reassembly.ofPieces (pieces : List Piece) : Reassembly where
  tokens := pieces.flatMap (·.tokens)
  chunks := pieces.map (·.record)
  degraded := (pieces.filter (·.fault.isSome)).map (·.record.chunk)
  faults := pieces.filterMap (·.fault)

/-- Puts everything together in the order of the slots, whatever the order of arrival. The first
slot that contributes nothing decides the error. -/
def Reassembler.finish (reassembler : Reassembler) (source : String) :
    Logged SchedulerError Reassembly := do
  let text := source.toList
  return .ofPieces (← reassembler.slots.mapM (Slot.piece · text))

end ProfileLexer
