import IdAgents.Library.Dict
import IdAgents.Library.Program
import IdAgents.Library.Table

namespace IdAgents.LocalSearch
open KeyedTable AtomicProgram JsMap

inductive ActorType where
  | user | agent | manager
deriving DecidableEq, Repr

def ActorType.text : ActorType → String
  | user => "user"
  | agent => "agent"
  | manager => "manager"

structure LocalReadMutationActor where
  type : ActorType
  id : String
deriving DecidableEq, Repr

inductive EntityType where
  | artifact | project | task | dispatch
deriving DecidableEq, Repr

def EntityType.text : EntityType → String
  | artifact => "artifact"
  | project => "project"
  | task => "task"
  | dispatch => "dispatch"

structure LocalReadMutationEntity where
  type : EntityType
  id : String
deriving DecidableEq, Repr

inductive DesiredState where
  | readState | unread
deriving DecidableEq, Repr

structure LocalReadMutationRequest where
  actor : LocalReadMutationActor
  teamId : String
  entity : LocalReadMutationEntity
  desiredReadState : DesiredState
  clientMutationId : String
  baseVersion : Int
deriving DecidableEq

/-- A row of `local_read_state`. -/
structure LocalReadMutationRecord where
  teamId : String
  entity : LocalReadMutationEntity
  readState : DesiredState
  version : Int
  updatedAt : String
  updatedBy : LocalReadMutationActor
deriving DecidableEq

instance : Schema LocalReadMutationRecord (String × LocalReadMutationEntity) Unit where
  key record := (record.teamId, record.entity)
  entry _ := none

inductive AckStatus where
  | acked | conflict | failed
deriving DecidableEq, Repr

structure LocalReadMutationConflict where
  code : String := "stale_base_version"
  message : String
  baseVersion : Int
  currentVersion : Int
  currentReadState : DesiredState
deriving DecidableEq

structure LocalReadMutationFailure where
  code : String
  message : String
  retryable : Bool
deriving DecidableEq

structure LocalReadMutationAck where
  ok : Bool
  schemaVersion : String := "read_model.read_state_mutation.v1"
  status : AckStatus
  actor : LocalReadMutationActor
  teamId : String
  entity : LocalReadMutationEntity
  desiredReadState : DesiredState
  clientMutationId : String
  baseVersion : Int
  ackVersion : Option Int
  record : Option LocalReadMutationRecord
  conflict : Option LocalReadMutationConflict
  failure : Option LocalReadMutationFailure
deriving DecidableEq

/-- What `local_read_mutation_acks` is keyed by. -/
structure MutationKey where
  teamId : String
  actor : LocalReadMutationActor
  clientMutationId : String
deriving DecidableEq

/-- A row of `local_read_mutation_acks`, its ack parsed. -/
structure AckRow where
  mutation : MutationKey
  ack : LocalReadMutationAck
  createdAt : String
deriving DecidableEq

instance : Schema AckRow MutationKey Unit where
  key row := row.mutation
  entry _ := none

namespace LocalReadMutationRequest

def mutation (input : LocalReadMutationRequest) : MutationKey :=
  ⟨input.teamId, input.actor, input.clientMutationId⟩

def recordKey (input : LocalReadMutationRequest) : String × LocalReadMutationEntity :=
  (input.teamId, input.entity)

end LocalReadMutationRequest

def maxSafeInteger : Int := 9007199254740991

variable (input : LocalReadMutationRequest)

def assertValidLocalReadMutation : Option String :=
  if input.teamId = "" then some "team_id is required"
  else if input.actor.id = "" then some "actor is required"
  else if input.entity.id = "" then some "entity is required"
  else if input.clientMutationId = "" then some "clientMutationId is required"
  else if input.baseVersion < 0 || maxSafeInteger < input.baseVersion then
    some "baseVersion must be a non-negative integer"
  else none

namespace LocalReadMutationRequest

variable (input : LocalReadMutationRequest)

def acked (record : LocalReadMutationRecord) : LocalReadMutationAck where
  ok := true
  status := .acked
  actor := input.actor
  teamId := input.teamId
  entity := input.entity
  desiredReadState := input.desiredReadState
  clientMutationId := input.clientMutationId
  baseVersion := input.baseVersion
  ackVersion := some record.version
  record := some record
  conflict := none
  failure := none

def conflictAck (current : LocalReadMutationRecord) : LocalReadMutationAck where
  ok := false
  status := .conflict
  actor := input.actor
  teamId := input.teamId
  entity := input.entity
  desiredReadState := input.desiredReadState
  clientMutationId := input.clientMutationId
  baseVersion := input.baseVersion
  ackVersion := some current.version
  record := some current
  conflict := some {
    message :=
      s!"baseVersion {input.baseVersion} is stale; current version is {current.version}"
    baseVersion := input.baseVersion
    currentVersion := current.version
    currentReadState := current.readState }
  failure := none

def failedAck (failure : LocalReadMutationFailure) : LocalReadMutationAck where
  ok := false
  status := .failed
  actor := input.actor
  teamId := input.teamId
  entity := input.entity
  desiredReadState := input.desiredReadState
  clientMutationId := input.clientMutationId
  baseVersion := input.baseVersion
  ackVersion := none
  record := none
  conflict := none
  failure := some failure

def notFoundAck : LocalReadMutationAck :=
  input.failedAck {
    code := "not_found"
    message := s!"read-state entity not found: {input.entity.type.text}:{input.entity.id}"
    retryable := false }

def next (current : LocalReadMutationRecord) (nowIso : String) : LocalReadMutationRecord :=
  { current with
    readState := input.desiredReadState
    version := current.version + 1
    updatedAt := nowIso
    updatedBy := input.actor }

def firstRecord (nowIso : String) : LocalReadMutationRecord where
  teamId := input.teamId
  entity := input.entity
  readState := .unread
  version := 0
  updatedAt := nowIso
  updatedBy := ⟨.manager, "local-read-state"⟩

end LocalReadMutationRequest

inductive Stmt where
  | now
  | getDurableAck (key : MutationKey)
  | getDurableRecord (key : String × LocalReadMutationEntity)
  | durableEntityExists (key : String × LocalReadMutationEntity)
  | insertDurableRecord (record : LocalReadMutationRecord)
  | update (input : LocalReadMutationRequest) (current : LocalReadMutationRecord)
      (nowIso : String)
  | saveDurableAck (key : MutationKey) (ack : LocalReadMutationAck)

structure Env where
  now : Nat → String
  exists_ : Nat → String × LocalReadMutationEntity → Bool

structure World where
  records : Table LocalReadMutationRecord := .ofRows []
  acks : Table AckRow := .ofRows []
  step : Nat := 0
  env : Env

/-- `WHERE team_id = ? AND entity_type = ? AND entity_id = ? AND version = ?` -/
def readUpdate (current : LocalReadMutationRecord)
    (nowIso : String) : Update LocalReadMutationRecord where
  at_ := input.recordKey
  guard row := row.version = current.version
  set row :=
    let next := input.next current nowIso
    { row with
      readState := next.readState
      version := next.version
      updatedAt := next.updatedAt
      updatedBy := next.updatedBy }
  key_set _ := rfl

namespace Stmt

def Ans : Stmt → Type
  | now => String
  | getDurableAck _ => Option LocalReadMutationAck
  | getDurableRecord _ => Option LocalReadMutationRecord
  | durableEntityExists _ => Bool
  | insertDurableRecord _ => Except String Unit
  | _ => Unit

def answer : (c : Stmt) → World → c.Ans
  | now, w => w.env.now w.step
  | getDurableAck key, w => (w.acks.get? key).map (·.ack)
  | getDurableRecord key, w => w.records.get? key
  | durableEntityExists key, w => w.env.exists_ w.step key
  | insertDurableRecord record, w =>
    if (w.records.get? (record.teamId, record.entity)).isSome then
      .error ("UNIQUE constraint failed: local_read_state.team_id, " ++
        "local_read_state.entity_type, local_read_state.entity_id")
    else .ok ()
  | update .., _ => ()
  | saveDurableAck .., _ => ()

/-- The saved ack of a key stays: `ON CONFLICT … DO NOTHING`. -/
def effect (c : Stmt) (w : World) : World :=
  { w with
    step := w.step + 1
    records := match c with
      | insertDurableRecord record => w.records.insert record
      | update input current nowIso => w.records.update (readUpdate input current nowIso)
      | _ => w.records
    acks := match c with
      | saveDurableAck key ack =>
        w.acks.insert { mutation := key, ack, createdAt := w.env.now w.step }
      | _ => w.acks }

end Stmt

abbrev sql : Signature := ⟨Stmt, Stmt.Ans⟩

instance : Store sql World where
  answer := Stmt.answer
  effect := Stmt.effect

abbrev Prog (α : Type) := Program sql String α

def issue (c : Stmt) : Prog c.Ans := Program.stmt (S := sql) c

namespace LocalReadMutationRequest

variable (input : LocalReadMutationRequest)

def save (ack : LocalReadMutationAck) : Prog LocalReadMutationAck :=
  (issue (.saveDurableAck input.mutation ack)).bind fun _ => .ret ack

def insertFirst (nowIso : String) : Prog (Option LocalReadMutationRecord) :=
  (issue (.insertDurableRecord (input.firstRecord nowIso))).bind fun inserted =>
    match (inserted : Except String Unit) with
    | .error why => .throw why
    | .ok () => .ret (some (input.firstRecord nowIso))

def makeRecord : Prog (Option LocalReadMutationRecord) :=
  (issue (.durableEntityExists input.recordKey)).bind fun (known : Bool) =>
    if !known then .ret none
    else (issue .now).bind fun (nowIso : String) => input.insertFirst nowIso

def currentRecord : Prog (Option LocalReadMutationRecord) :=
  (issue (.getDurableRecord input.recordKey)).bind fun found =>
    match (found : Option LocalReadMutationRecord) with
    | some current => .ret (some current)
    | none => input.makeRecord

def settle : Option LocalReadMutationRecord → Prog LocalReadMutationAck
  | none => input.save input.notFoundAck
  | some current =>
    if current.version ≠ input.baseVersion then input.save (input.conflictAck current)
    else (issue .now).bind fun (nowIso : String) =>
      (issue (.update input current nowIso)).bind fun _ =>
        input.save (input.acked (input.next current nowIso))

end LocalReadMutationRequest

/-- `applyReadMutation` of the SQLite store. -/
def applyReadMutation : Prog LocalReadMutationAck :=
  match assertValidLocalReadMutation input with
  | some message => .throw message
  | none => (issue (.getDurableAck input.mutation)).bind fun replay =>
    match (replay : Option LocalReadMutationAck) with
    | some replay => .ret replay
    | none => input.currentRecord.bind input.settle

def recordKey (key : String × LocalReadMutationEntity) : String :=
  s!"{key.1}:{key.2.type.text}:{key.2.id}"

def replayKey (key : MutationKey) : String :=
  s!"{key.teamId}:{key.actor.type.text}:{key.actor.id}:{key.clientMutationId}"

structure MemoryStore where
  records : Dict String LocalReadMutationRecord
  acks : Dict String LocalReadMutationAck

namespace MemoryStore

def save (store : MemoryStore) (input : LocalReadMutationRequest) (ack : LocalReadMutationAck) :
    LocalReadMutationAck × MemoryStore :=
  (ack, { store with acks := store.acks.set (replayKey input.mutation) ack })

/-- `applyReadMutation` of the in-memory store. -/
def applyReadMutation (store : MemoryStore) (input : LocalReadMutationRequest) (nowIso : String) :
    Except String (LocalReadMutationAck × MemoryStore) :=
  match assertValidLocalReadMutation input with
  | some message => .error message
  | none => match store.acks.get? (replayKey input.mutation) with
    | some replay => .ok (replay, store)
    | none => match store.records.get? (recordKey input.recordKey) with
      | none => .ok (store.save input input.notFoundAck)
      | some current =>
        if current.version ≠ input.baseVersion then
          .ok (store.save input (input.conflictAck current))
        else
          let next := input.next current nowIso
          let written :=
            { store with records := store.records.set (recordKey input.recordKey) next }
          .ok (written.save input (input.acked next))

end MemoryStore

end IdAgents.LocalSearch
