import RisingIntelligence.Async.Program
import Mathlib.Algebra.Order.Ring.Unbundled.Rat

/-!
# Consumer transport

The broker-neutral consumer types of `packages/pipeline/src/transport/index.ts` and the
batch strategy every service builds with `createMessageBatchStrategy`.  What the strategy
awaits is a `TransportCall`: the five operations of the delivered batch and the four
callbacks the service supplies.  The callbacks are arbitrary code, so a reply is any value
or any thrown error.
-/

namespace RisingIntelligence

open Async

abbrev Buffer : Type := ByteArray

structure PipelineMessage where
  value : Option Buffer
  position : String

structure BatchContext where
  topic : String
  partition : Nat
  highWatermark : String

structure MessageContext where
  topic : String
  partition : Nat
  position : String

namespace Transport

/-- What a thrown value can be here: the check of the options, or whatever a call threw. -/
inductive TransportError (E : Type) : Type
  | notPositiveInteger (fieldName : String) (received : ℚ)
  | thrown (error : E)

/-- The calls of a batch strategy; `acknowledge` and `isActive` are synchronous. -/
inductive TransportCall (Ctx Message E : Type) : Type
  | isActive
  | keepAlive
  | acknowledge (position : String)
  | commit
  | onEmptyValue (ctx : Ctx) (messageContext : MessageContext)
  | onDeserializeFailure (ctx : Ctx) (messageContext : MessageContext) (error : E)
  | onMessage (ctx : Ctx) (messageContext : MessageContext) (decoded : Message)
  | onBatchCompleted (ctx : Ctx)

/-- `isActive` answers a boolean, every other call only returns. -/
@[reducible] def TransportCall.Reply {Ctx Message E : Type} : TransportCall Ctx Message E → Type
  | .isActive => Bool
  | _ => Unit

/-- The calls of a batch strategy as an interface. -/
abbrev transport (Ctx Message E : Type) : Interface where
  Call := TransportCall Ctx Message E
  Reply := TransportCall.Reply
  Error := E

/-- `MessageStrategy`: the optional callbacks are recorded as present or not. -/
structure MessageStrategy (Message E : Type) where
  deserialize : Buffer → Except E Message
  onEmptyValue : Bool
  onDeserializeFailure : Bool

structure CreateMessageBatchStrategyOptions (Message E : Type) where
  strategy : MessageStrategy Message E
  progressInterval : Option ℚ
  acknowledge : Option Bool
  onBatchCompleted : Bool

/-- The values `createMessageBatchStrategy` closes over once the options are checked. -/
structure BatchStrategy (Message E : Type) where
  strategy : MessageStrategy Message E
  progressInterval : Nat
  progressInterval_pos : 0 < progressInterval
  acknowledge : Bool
  onBatchCompleted : Bool

variable {Ctx Message E : Type}

/-- A batch program over the transport calls. -/
abbrev BatchProgram (Ctx Message E α : Type) : Type := Program (transport Ctx Message E) E α

def isActive : BatchProgram Ctx Message E Bool :=
  Program.call (I := transport Ctx Message E) TransportCall.isActive

def keepAlive : BatchProgram Ctx Message E Unit :=
  Program.call (I := transport Ctx Message E) TransportCall.keepAlive

def acknowledgePosition (position : String) : BatchProgram Ctx Message E Unit :=
  Program.call (I := transport Ctx Message E) (TransportCall.acknowledge position)

def commit : BatchProgram Ctx Message E Unit :=
  Program.call (I := transport Ctx Message E) TransportCall.commit

/-- `runMessageCallback`: an absent callback does nothing. -/
def runMessageCallback (present : Bool) (callback : BatchProgram Ctx Message E Unit) :
    BatchProgram Ctx Message E Unit :=
  if present then callback else pure ()

def assertPositiveInteger (value : ℚ) (fieldName : String) : Except (TransportError E) Unit :=
  if value.den ≠ 1 ∨ value ≤ 0 then .error (.notPositiveInteger fieldName value) else .ok ()

def messageContext (batch : BatchContext) (message : PipelineMessage) : MessageContext where
  topic := batch.topic
  partition := batch.partition
  position := message.position

/-- What becomes of one message: its callback, as its value decides. -/
def handleMessage (options : BatchStrategy Message E) (ctx : Ctx) (batch : BatchContext)
    (message : PipelineMessage) : BatchProgram Ctx Message E Unit :=
  match message.value with
  | none =>
      runMessageCallback options.strategy.onEmptyValue
        (Program.call (I := transport Ctx Message E)
          (TransportCall.onEmptyValue ctx (messageContext batch message)))
  | some value =>
      match options.strategy.deserialize value with
      | .error error =>
          runMessageCallback options.strategy.onDeserializeFailure
            (Program.call (I := transport Ctx Message E)
              (TransportCall.onDeserializeFailure ctx (messageContext batch message) error))
      | .ok decoded =>
          Program.call (I := transport Ctx Message E)
            (TransportCall.onMessage ctx (messageContext batch message) decoded)

/-- The end of every iteration: acknowledge, count, and every so often keep the session alive. -/
def finishMessage (options : BatchStrategy Message E) (message : PipelineMessage)
    (handledCount : Nat) : BatchProgram Ctx Message E Unit := do
  if options.acknowledge then acknowledgePosition message.position else pure ()
  if handledCount % options.progressInterval = 0 then keepAlive else pure ()

/-- The message loop; the result is the source's `completed`. -/
def handleMessages (options : BatchStrategy Message E) (ctx : Ctx) (batch : BatchContext) :
    List PipelineMessage → Nat → BatchProgram Ctx Message E Bool
  | [], _ => pure true
  | message :: rest, handledCount => do
      let active ← isActive
      if active then
        handleMessage options ctx batch message
        finishMessage options message (handledCount + 1)
        handleMessages options ctx batch rest (handledCount + 1)
      else
        pure false

/-- `processBatch` of the strategy. -/
def BatchStrategy.processBatch (options : BatchStrategy Message E) (ctx : Ctx)
    (batch : BatchContext) (messages : List PipelineMessage) :
    BatchProgram Ctx Message E Unit := do
  let active ← isActive
  if active then
    let completed ← handleMessages options ctx batch messages 0
    commit
    if completed then
      let stillActive ← isActive
      if stillActive then
        keepAlive
        runMessageCallback options.onBatchCompleted
          (Program.call (I := transport Ctx Message E) (TransportCall.onBatchCompleted ctx))
      else pure ()
    else pure ()
  else pure ()

theorem toNat_pos_of_assertPositiveInteger {value : ℚ} {fieldName : String}
    (accepted : assertPositiveInteger (E := E) value fieldName = .ok ()) : 0 < value.num.toNat := by
  unfold assertPositiveInteger at accepted
  split at accepted
  · cases accepted
  · rename_i integral
    have positive : 0 < value := Rat.not_le.mp fun le => integral (Or.inr le)
    have := Rat.num_pos.mpr positive
    omega

/-- `createMessageBatchStrategy`: fifty messages a heartbeat and acknowledgement by default. -/
def createMessageBatchStrategy (options : CreateMessageBatchStrategyOptions Message E) :
    Except (TransportError E) (BatchStrategy Message E) :=
  let progressInterval := options.progressInterval.getD 50
  match accepted : assertPositiveInteger (E := E) progressInterval "progressInterval" with
  | .error error => .error error
  | .ok () => .ok {
      strategy := options.strategy
      progressInterval := progressInterval.num.toNat
      progressInterval_pos := toNat_pos_of_assertPositiveInteger accepted
      acknowledge := options.acknowledge.getD true
      onBatchCompleted := options.onBatchCompleted }

end Transport

end RisingIntelligence
