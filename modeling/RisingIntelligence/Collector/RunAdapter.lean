import RisingIntelligence.Async.Program

/-!
# Collector poll cycles

The `try` block of `runAdapter` in `apps/collector/src/index.ts`: drain the record stream of
an adapter into the ingestion, store a checkpoint, clean the seen cache up and report.  The
stream is the list of records the adapter yields in the cycle; asking for the next one, like
every other call, may throw instead.
-/

namespace RisingIntelligence.Collector

open Async

/-- `CollectorIngestionRecord` -/
structure CollectorIngestionRecord (Content : Type) where
  content : Content
  checkpointKey : String
  checkpointValue : String

/-- `CollectorEventProcessResult["status"]` -/
inductive IngestionStatus : Type
  | ingested
  | duplicate
  | invalid
  deriving DecidableEq

structure CollectorHeartbeat where
  source : String
  itemsFetched : Nat
  status : String

/-- The adapter whose cycle it is. -/
structure Adapter where
  name : String
  source : String

/-- The calls of a poll cycle: the record stream, the ingestion, the checkpoint store, the
heartbeat publisher and the collector's own flags and clock. -/
inductive CollectorCall (Content : Type) : Type
  | nextRecord
  | closeStream
  | shutdownRequested
  | ingest (content : Content)
  | setCheckpoint (source checkpointKey checkpointValue : String)
  | now
  | lastSeenCleanupAt
  | cleanupSeen (olderThan : String)
  | publishSourceHeartbeat (heartbeat : CollectorHeartbeat)

@[reducible] def CollectorCall.Reply {Content : Type} : CollectorCall Content → Type
  | .shutdownRequested => Bool
  | .ingest _ => IngestionStatus
  | .now | .lastSeenCleanupAt => Nat
  | _ => Unit

abbrev collector (Content E : Type) : Interface where
  Call := CollectorCall Content
  Reply := CollectorCall.Reply
  Error := E

variable {Content E : Type}

abbrev CollectorProgram (Content E α : Type) : Type := Program (collector Content E) E α

def await (c : CollectorCall Content) : CollectorProgram Content E c.Reply :=
  Program.call (I := collector Content E) c

/-- The variables of a cycle. -/
structure PollProgress where
  batchCount : Nat
  lastCheckpointKey : Option String
  lastCheckpointValue : Option String

/-- The `for await` loop; `break` closes the stream. -/
def drain : List (CollectorIngestionRecord Content) → PollProgress →
    CollectorProgram Content E PollProgress
  | [], progress => do
      await .nextRecord
      pure progress
  | record :: rest, progress => do
      await .nextRecord
      let stop ← await .shutdownRequested
      if stop then do
        await .closeStream
        pure progress
      else do
        let status ← await (.ingest record.content)
        drain rest {
          batchCount := if status = .ingested then progress.batchCount + 1 else progress.batchCount
          lastCheckpointKey := some record.checkpointKey
          lastCheckpointValue := some record.checkpointValue }

/-- `if (lastCheckpointKey && lastCheckpointValue)`: an empty string counts as absent. -/
def storeLastCheckpoint (adapter : Adapter) (progress : PollProgress) :
    CollectorProgram Content E Unit :=
  match progress.lastCheckpointKey, progress.lastCheckpointValue with
  | some key, some value =>
      if key ≠ "" ∧ value ≠ "" then await (.setCheckpoint adapter.name key value) else pure ()
  | _, _ => pure ()

/-- The seen cache is cleaned up once an hour. -/
def cleanupSeenWhenDue : CollectorProgram Content E Unit := do
  let now ← await .now
  let last ← await .lastSeenCleanupAt
  if last + 60 * 60 * 1000 < now then await (.cleanupSeen "-7 days") else pure ()

/-- One poll cycle of `runAdapter`; it answers the number of ingested items. -/
def pollCycle (adapter : Adapter) (records : List (CollectorIngestionRecord Content)) :
    CollectorProgram Content E Nat := do
  let progress ← drain records ⟨0, none, none⟩
  storeLastCheckpoint adapter progress
  cleanupSeenWhenDue
  await (.publishSourceHeartbeat ⟨adapter.source, progress.batchCount, "healthy"⟩)
  pure progress.batchCount

end RisingIntelligence.Collector
