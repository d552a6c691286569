import RisingIntelligence.Shared.JsString
import RisingIntelligence.Pipeline.Transport

/-!
# Persister batches

`processBatch` of `apps/persister/src/process.ts`: the eight steps a batch goes through,
with the per-source inserts of `persistBatch` and the seen-marks of `markEventsSeen`.
Health flags, metrics and log lines are left out; no step reads them.

The decoder and the row mapper are an `EventCodec`, so that what is proved of a batch holds
for whatever they accept.
-/

namespace RisingIntelligence.Persister

open Async

/-! ## What a batch calls -/

/-- How a message value becomes an event and an event a `raw_events` row. -/
structure EventCodec (Event Source Row E : Type) where
  deserialize : Buffer → Except E Event
  source : Event → Source
  sourceName : Source → String
  eventId : Event → String
  toCreateManyInput : Event → Row
  rowId : Row → String
  rowId_toCreateManyInput : ∀ event, rowId (toCreateManyInput event) = eventId event

structure ConsumerLagUpdate where
  consumerGroup : String
  topic : String
  partition : Nat
  currentOffset : Int
  latestOffset : Int
  lagMessages : Int
  observedAt : Nat

/-- The calls of a batch: the delivered batch, the circuit breaker, timers, Postgres, Redis and
the table of lag writes. -/
inductive PersisterCall (Row : Type) : Type
  | isActive
  | keepAlive
  | acknowledge (position : String)
  | commit
  | pause
  | resume
  | sleep (ms : Nat)
  | circuitIsOpen
  | timeUntilClose
  | recordSuccess
  | recordFailure
  | createMany (data : List Row)
  | setSeen (keys : List String) (ttlSeconds : Nat)
  | now
  | lastLagWrite (partitionKey : String)
  | upsertConsumerLag (update : ConsumerLagUpdate)
  | setLagWrite (partitionKey : String) (now : Nat)

/-- `createMany` answers the number of inserted rows, the Redis pipeline one entry for each
command or null. -/
@[reducible] def PersisterCall.Reply {Row : Type} (E : Type) : PersisterCall Row → Type
  | .isActive | .circuitIsOpen | .recordFailure => Bool
  | .timeUntilClose | .createMany _ | .now => Nat
  | .setSeen .. => Option (List (Option E))
  | .lastLagWrite _ => Option Nat
  | _ => Unit

abbrev persister (Row E : Type) : Interface where
  Call := PersisterCall Row
  Reply := PersisterCall.Reply E
  Error := E

/-- What `markEventsSeen` throws. -/
inductive MarkSeenError (E : Type) : Type
  | nullResult
  | thrown (error : E)

/-- What a batch throws. -/
inductive ProcessError (E : Type) : Type
  | redisWriteFailure (cause : MarkSeenError E)
  | reachedPersistenceWithoutEvents
  | thrown (error : E)

structure Config where
  seenTtlSeconds : Nat
  consumerLagUpdateIntervalMs : Nat
  kafkaConsumerGroup : String

def circuitPauseHeartbeatIntervalMs : Nat := 2000

def loopHeartbeatIntervalMessages : Nat := 50

variable {Event Source Row E : Type}

/-- A program of the persister over its calls. -/
abbrev PersisterProgram (Row E ε α : Type) : Type := Program (persister Row E) ε α

/-- `await call`, with what it throws passed on. -/
def await (c : PersisterCall Row) : PersisterProgram Row E (ProcessError E) (c.Reply E) :=
  (Program.call (I := persister Row E) c).mapError .thrown

/-! ## Circuit pause -/

/-- `waitWithHeartbeats` -/
def waitWithHeartbeats (remainingMs : Nat) : PersisterProgram Row E (ProcessError E) Unit :=
  if 0 < remainingMs then do
    let sleepMs := min remainingMs circuitPauseHeartbeatIntervalMs
    await (.sleep sleepMs)
    await .keepAlive
    waitWithHeartbeats (remainingMs - sleepMs)
  else pure ()
termination_by remainingMs
decreasing_by simp only [circuitPauseHeartbeatIntervalMs]; omega

/-- `pausePartitionWhenCircuitOpen`; `resume` runs in a `finally`. -/
def pausePartitionWhenCircuitOpen : PersisterProgram Row E (ProcessError E) Bool := do
  let circuitOpen ← await .circuitIsOpen
  if circuitOpen then
    let waitMs ← await .timeUntilClose
    await .pause
    (waitWithHeartbeats waitMs).settle fun outcome => do
      await .resume
      Program.done outcome
    pure true
  else
    pure false

/-! ## Collecting the messages -/

/-- A heartbeat after every fiftieth handled message. -/
def heartbeatLoop (handledMessages : Nat) : PersisterProgram Row E (ProcessError E) Unit :=
  if handledMessages % loopHeartbeatIntervalMessages = 0 then await .keepAlive else pure ()

/-- `collectMessagesWithStrategy`: empty and undecodable messages are skipped; `none` when the
batch went inactive. -/
def collectMessages (codec : EventCodec Event Source Row E) :
    List PipelineMessage → List Event → Nat →
      PersisterProgram Row E (ProcessError E) (Option (List Event))
  | [], events, _ => do
      let active ← await .isActive
      pure (if active then some events else none)
  | message :: rest, events, handledMessages => do
      let active ← await .isActive
      if active then
        match message.value with
        | none => do
            heartbeatLoop (handledMessages + 1)
            collectMessages codec rest events (handledMessages + 1)
        | some value =>
            match codec.deserialize value with
            | .error _ => do
                heartbeatLoop (handledMessages + 1)
                collectMessages codec rest events (handledMessages + 1)
            | .ok decoded => do
                heartbeatLoop (handledMessages + 1)
                collectMessages codec rest (events ++ [decoded]) (handledMessages + 1)
      else
        pure none

/-! ## Persisting the events -/

/-- Append an event to the group of its source, or open that group at the end. -/
def addToGroups [DecidableEq Source] (codec : EventCodec Event Source Row E) :
    List (Source × List Event) → Event → List (Source × List Event)
  | [], event => [(codec.source event, [event])]
  | (source, group) :: groups, event =>
      if source = codec.source event then (source, group ++ [event]) :: groups
      else (source, group) :: addToGroups codec groups event

/-- `groupBySource`: the groups in the order in which their sources first occur. -/
def groupBySource [DecidableEq Source] (codec : EventCodec Event Source Row E)
    (events : List Event) : List (Source × List Event) :=
  events.foldl (addToGroups codec) []

structure PersistBatchResult (Source : Type) where
  attempted : Nat
  inserted : Nat
  duplicates : Int
  insertedBySource : List (Source × Nat)

/-- One `createMany` for each source. -/
def insertGroups (codec : EventCodec Event Source Row E) :
    List (Source × List Event) → PersisterProgram Row E (ProcessError E) (List (Source × Nat))
  | [] => pure []
  | (source, group) :: groups => do
      let count ← await (.createMany (group.map codec.toCreateManyInput))
      let counts ← insertGroups codec groups
      pure ((source, count) :: counts)

/-- `persistBatch` -/
def persistBatch [DecidableEq Source] (codec : EventCodec Event Source Row E)
    (events : List Event) : PersisterProgram Row E (ProcessError E) (PersistBatchResult Source) :=
  if events.isEmpty then
    pure { attempted := 0, inserted := 0, duplicates := 0, insertedBySource := [] }
  else do
    let insertedBySource ← insertGroups codec (groupBySource codec events)
    let inserted := insertedBySource.foldl (fun inserted entry => inserted + entry.2) 0
    pure {
      attempted := events.length
      inserted := inserted
      duplicates := (events.length : Int) - inserted
      insertedBySource := insertedBySource }

/-- `seen:${source}:${eventId}` -/
def seenKey (codec : EventCodec Event Source Row E) (event : Event) : String :=
  "seen:" ++ codec.sourceName (codec.source event) ++ ":" ++ codec.eventId event

/-- `markEventsSeen`: one pipelined `SET .. EX .. NX` for each event, the first error thrown. -/
def markEventsSeen (codec : EventCodec Event Source Row E) (config : Config)
    (events : List Event) : PersisterProgram Row E (MarkSeenError E) Unit :=
  if events.isEmpty then pure ()
  else do
    let results ← (Program.call (I := persister Row E)
      (PersisterCall.setSeen (events.map (seenKey codec)) config.seenTtlSeconds)).mapError .thrown
    match results with
    | none => Program.throw .nullResult
    | some results =>
        match results.findSome? id with
        | some error => Program.throw (.thrown error)
        | none => pure ()

/-- `persistAndMarkSeen` -/
def persistAndMarkSeen [DecidableEq Source] (codec : EventCodec Event Source Row E)
    (config : Config) (events : List Event) : PersisterProgram Row E (ProcessError E) Unit := do
  let _ ← persistBatch codec events
  (markEventsSeen codec config events).mapError .redisWriteFailure

/-- The body of the `try` below when there are events. -/
def persistEvents [DecidableEq Source] (codec : EventCodec Event Source Row E)
    (config : Config) (events : List Event) : PersisterProgram Row E (ProcessError E) Unit :=
  if events.isEmpty then pure ()
  else do
    persistAndMarkSeen codec config events
    await .recordSuccess

/-- `persistEventsWithCircuitHandling` -/
def persistEventsWithCircuitHandling [DecidableEq Source]
    (codec : EventCodec Event Source Row E) (config : Config) (events : List Event) :
    PersisterProgram Row E (ProcessError E) Unit :=
  Program.tryCatch
    (do
      persistEvents codec config events
      let _ ← await .circuitIsOpen
      pure ())
    fun error =>
      match error with
      | .redisWriteFailure cause => do
          await .recordSuccess
          let _ ← await .circuitIsOpen
          Program.throw (.redisWriteFailure cause)
      | error => do
          let _ ← await .recordFailure
          let _ ← await .circuitIsOpen
          Program.throw error

/-! ## The steps of a batch -/

structure ProcessBatchContext (Event Source Row E : Type) where
  codec : EventCodec Event Source Row E
  config : Config
  batch : BatchContext
  messages : List PipelineMessage

/-- `ProcessBatchState`; a step hands it on to the next one. -/
structure ProcessBatchState (Event : Type) where
  events : Option (List Event)

/-- A step runs code around the rest of the chain. -/
abbrev ProcessBatchStep (Event Source Row E : Type) : Type :=
  ProcessBatchContext Event Source Row E → ProcessBatchState Event →
    (ProcessBatchState Event → PersisterProgram Row E (ProcessError E) Unit) →
      PersisterProgram Row E (ProcessError E) Unit

def batchLifecycleGateStep : ProcessBatchStep Event Source Row E := fun _ state next => do
  let active ← await .isActive
  if active then next state else pure ()

def circuitPauseStep : ProcessBatchStep Event Source Row E := fun _ state next => do
  let paused ← pausePartitionWhenCircuitOpen
  if paused then pure () else next state

/-- The batch size goes to a metric only. -/
def observeBatchSizeStep : ProcessBatchStep Event Source Row E := fun _ state next => next state

def collectMessagesStep : ProcessBatchStep Event Source Row E := fun context _ next => do
  let events ← collectMessages context.codec context.messages [] 0
  match events with
  | none => pure ()
  | some events => next { events := some events }

def persistEventsStep [DecidableEq Source] : ProcessBatchStep Event Source Row E :=
  fun context state next =>
    match state.events with
    | none => Program.throw .reachedPersistenceWithoutEvents
    | some events => do
        persistEventsWithCircuitHandling context.codec context.config events
        next state

/-- Acknowledge the positions one after the other. -/
def resolveOffsets : List PipelineMessage → PersisterProgram Row E (ProcessError E) Unit
  | [] => pure ()
  | message :: rest => do
      await (.acknowledge message.position)
      resolveOffsets rest

def resolveOffsetsStep : ProcessBatchStep Event Source Row E := fun context state next => do
  resolveOffsets context.messages
  next state

def commitAndHeartbeatStep : ProcessBatchStep Event Source Row E := fun _ state next => do
  await .commit
  let active ← await .isActive
  if active then
    await .keepAlive
    next state
  else pure ()

/-- `toBigInt` -/
def toBigInt (value : String) (fallback : Int) : Int := (Js.bigInt value).getD fallback

/-- `updateLag`; answers whether the lag was written. -/
def updateLag (config : Config) (batch : BatchContext) (currentOffset latestOffset lag : Int) :
    PersisterProgram Row E (ProcessError E) Bool := do
  let partitionKey := batch.topic ++ ":" ++ toString batch.partition
  let lastWrite ← await (.lastLagWrite partitionKey)
  let now ← await .now
  if now < lastWrite.getD 0 + config.consumerLagUpdateIntervalMs then
    pure false
  else do
    await (.upsertConsumerLag {
      consumerGroup := config.kafkaConsumerGroup
      topic := batch.topic
      partition := batch.partition
      currentOffset := currentOffset
      latestOffset := latestOffset
      lagMessages := lag
      observedAt := now })
    await (.setLagWrite partitionKey now)
    pure true

/-- A failed lag write is only logged. -/
def lagUpdateStep : ProcessBatchStep Event Source Row E := fun context state next =>
  match context.messages.getLast? with
  | none => next state
  | some lastMessage => do
      let currentOffset := toBigInt lastMessage.position 0 + 1
      let latestOffset := toBigInt context.batch.highWatermark currentOffset
      let lag := if latestOffset > currentOffset then latestOffset - currentOffset else 0
      Program.tryCatch
        (do
          let _ ← updateLag context.config context.batch currentOffset latestOffset lag
          pure ())
        fun (_ : ProcessError E) => pure ()
      next state

/-- `PROCESS_BATCH_STEPS` -/
def processBatchSteps [DecidableEq Source] : List (ProcessBatchStep Event Source Row E) :=
  [batchLifecycleGateStep, circuitPauseStep, observeBatchSizeStep, collectMessagesStep,
    persistEventsStep, resolveOffsetsStep, commitAndHeartbeatStep, lagUpdateStep]

/-- `runAsyncChain`: every step is given the rest of the chain; no step calls it twice. -/
def runAsyncChain (context : ProcessBatchContext Event Source Row E) :
    List (ProcessBatchStep Event Source Row E) → ProcessBatchState Event →
      PersisterProgram Row E (ProcessError E) Unit
  | [], _ => pure ()
  | step :: steps, state => step context state (runAsyncChain context steps)

/-- `PERSISTER_BATCH_STRATEGY.processBatch` -/
def processBatch [DecidableEq Source] (codec : EventCodec Event Source Row E) (config : Config)
    (batch : BatchContext) (messages : List PipelineMessage) :
    PersisterProgram Row E (ProcessError E) Unit :=
  runAsyncChain ⟨codec, config, batch, messages⟩ processBatchSteps ⟨none⟩

end RisingIntelligence.Persister
