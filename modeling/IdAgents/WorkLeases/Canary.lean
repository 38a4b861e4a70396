import Mathlib.Algebra.Group.Int.Defs
import Mathlib.Data.List.Sort
import IdAgents.Library.Dict
import IdAgents.Library.Table

namespace IdAgents.WorkLeases
open JsMap KeyedTable

inductive WorkLeaseState where
  | acquired | renewed | released | expired
deriving DecidableEq, Repr

/-- `state IN ('acquired','renewed')` -/
def WorkLeaseState.isLive (s : WorkLeaseState) : Bool := s = .acquired || s = .renewed

/-- A row of `work_leases`. -/
structure WorkLease where
  leaseId : String
  resource : String
  dispatchId : String
  ownerId : String
  fencingToken : Int
  state : WorkLeaseState
  acquiredAtMs : Int
  renewedAtMs : Int
  expiresAtMs : Int
  releasedAtMs : Option Int
deriving DecidableEq, Repr

instance : Schema WorkLease String Empty where
  key l := l.leaseId
  entry _ := none

def WorkLease.isLive (l : WorkLease) : Bool := l.state.isLive

inductive ConflictCode where
  | leaseHeld | staleFence | leaseInactive
deriving DecidableEq, Repr

inductive WorkLeaseError where
  | conflict (code : ConflictCode) (message : String)
  | range (message : String)
  | constraint (message : String)
deriving DecidableEq, Repr

/-- A row of `work_lease_operations`. -/
structure LeaseOperation where
  leaseId : String
  resource : String
  operation : WorkLeaseState
  fencingToken : Int
  occurredAtMs : Int
deriving DecidableEq, Repr

structure WorkLeaseStore where
  leases : Table WorkLease
  nextTokens : Dict String Int
  operations : List LeaseOperation

inductive LeaseUpdate where
  | expire
  | renew (now expiresAtMs : Int)
  | release (now : Int)

namespace LeaseUpdate

def set : LeaseUpdate → WorkLease → WorkLease
  | expire, l => { l with state := .expired }
  | renew now expiresAtMs, l => { l with state := .renewed, renewedAtMs := now, expiresAtMs }
  | release now, l => { l with state := .released, releasedAtMs := some now }

def state : LeaseUpdate → WorkLeaseState
  | expire => .expired
  | renew .. => .renewed
  | release _ => .released

variable (u : LeaseUpdate)

variable (l : WorkLease)

theorem set_leaseId : (u.set l).leaseId = l.leaseId := by
  cases u <;> rfl

@[simp] theorem set_resource : (u.set l).resource = l.resource := by
  cases u <;> rfl

@[simp] theorem set_fencingToken : (u.set l).fencingToken = l.fencingToken := by
  cases u <;> rfl

@[simp] theorem set_state : (u.set l).state = u.state := by
  cases u <;> rfl

def at_ (leaseId : String) (u : LeaseUpdate) : Update WorkLease where
  at_ := leaseId
  guard _ := true
  set := u.set
  key_set := u.set_leaseId

end LeaseUpdate

namespace WorkLeaseStore

def empty : WorkLeaseStore := ⟨.ofRows [], .empty, []⟩

/-- `db.transaction(body)()`: a body that throws leaves nothing behind. -/
def transaction (body : WorkLeaseStore → Except WorkLeaseError α × WorkLeaseStore)
    (db : WorkLeaseStore) : Except WorkLeaseError α × WorkLeaseStore :=
  match body db with
  | (.ok a, db') => (.ok a, db')
  | (.error e, _) => (.error e, db)

def validateTtl (ttl : Int) : Except WorkLeaseError Unit :=
  if ttl ≤ 0 ∨ 2 ^ 53 - 1 < ttl then .error (.range "ttl_ms must be a positive safe integer")
  else .ok ()

variable (db : WorkLeaseStore)

def byId (leaseId : String) : Option WorkLease := db.leases.get? leaseId

def current (resource : String) : Option WorkLease :=
  ((db.leases.rows.filter fun l => l.resource = resource && l.isLive).insertionSort
    fun a b => b.fencingToken ≤ a.fencingToken).head?

def record (l : WorkLease) (operation : WorkLeaseState) (at_ : Int) : WorkLeaseStore :=
  { db with operations := db.operations ++
      [{ leaseId := l.leaseId, resource := l.resource, operation, fencingToken := l.fencingToken,
         occurredAtMs := at_ }] }

def execUpdate (leaseId : String) (u : LeaseUpdate) : WorkLeaseStore :=
  { db with leases := db.leases.update (u.at_ leaseId) }

def expire (now : Int) (db : WorkLeaseStore) (l : WorkLease) : WorkLeaseStore :=
  (db.execUpdate l.leaseId .expire).record { l with state := .expired } .expired now

def isElapsed (resource : String) (now : Int) (l : WorkLease) : Bool :=
  l.resource = resource && l.isLive && l.expiresAtMs ≤ now

def expireResource (resource : String) (now : Int) : WorkLeaseStore :=
  (db.leases.rows.filter (isElapsed resource now)).foldl (expire now) db

def takeToken (resource : String) : Int × WorkLeaseStore :=
  let next := match db.nextTokens.get? resource with
    | some n => n + 1
    | none => 2
  (next - 1, { db with nextTokens := db.nextTokens.set resource next })

def insertLease (l : WorkLease) (db : WorkLeaseStore) : Except WorkLeaseError Unit × WorkLeaseStore :=
  if db.leases.insertRefused l then
    (.error (.constraint "UNIQUE constraint failed: work_leases.lease_id"), db)
  else (.ok (), { db with leases := db.leases.insert l })

structure AcquireInput where
  resource : String
  dispatchId : String
  ownerId : String
  ttlMs : Int
  nowMs : Int

variable (input : AcquireInput)

section
variable (uuid : String)

/-- The lease an input asks for; `uuid` is what `randomUUID()` returns. -/
def AcquireInput.lease (token : Int) : WorkLease where
  leaseId := "wkl_" ++ uuid
  resource := input.resource
  dispatchId := input.dispatchId
  ownerId := input.ownerId
  fencingToken := token
  state := .acquired
  acquiredAtMs := input.nowMs
  renewedAtMs := input.nowMs
  expiresAtMs := input.nowMs + input.ttlMs
  releasedAtMs := none
section
variable (db : WorkLeaseStore)

def grantLease : Except WorkLeaseError WorkLease × WorkLeaseStore :=
  let (token, db) := db.takeToken input.resource
  let lease := input.lease uuid token
  match insertLease lease db with
  | (.ok _, db) => (.ok lease, db.record lease .acquired input.nowMs)
  | (.error e, db) => (.error e, db)

/-- The body of the transaction of `acquire`. -/
def acquireLive : Except WorkLeaseError WorkLease × WorkLeaseStore :=
  let db := db.expireResource input.resource input.nowMs
  match db.current input.resource with
  | none => grantLease input uuid db
  | some live =>
    if input.nowMs < live.expiresAtMs then
      if live.dispatchId = input.dispatchId ∧ live.ownerId = input.ownerId then (.ok live, db)
      else (.error (.conflict .leaseHeld s!"resource {input.resource} is held by {live.ownerId}"), db)
    else grantLease input uuid db

def acquire : Except WorkLeaseError WorkLease × WorkLeaseStore :=
  match validateTtl input.ttlMs with
  | .error e => (.error e, db)
  | .ok _ => transaction (acquireLive input uuid) db

end

end

def assertFence (resource leaseId : String) (fencingToken now : Int) (db : WorkLeaseStore) :
    Except WorkLeaseError WorkLease × WorkLeaseStore :=
  let db := db.expireResource resource now
  let stale := WorkLeaseError.conflict .staleFence
    s!"fencing token {fencingToken} is stale for {resource}"
  match db.byId leaseId with
  | none => (.error stale, db)
  | some lease =>
    if lease.fencingToken ≠ fencingToken ∨ (db.current resource).map (·.leaseId) ≠ some leaseId then
      (.error stale, db)
    else if !lease.isLive ∨ lease.expiresAtMs ≤ now then
      (.error (.conflict .leaseInactive s!"lease {leaseId} is not active"), db)
    else (.ok lease, db)

variable (leaseId : String)

def requireFence (token now : Int) (db : WorkLeaseStore) :
    Except WorkLeaseError WorkLease × WorkLeaseStore :=
  let stale := WorkLeaseError.conflict .staleFence s!"stale fence for {leaseId}"
  match db.byId leaseId with
  | none => (.error stale, db)
  | some lease =>
    if lease.fencingToken ≠ token then (.error stale, db)
    else assertFence lease.resource leaseId token now db

def fencedUpdate (token now : Int) (u : LeaseUpdate) (db : WorkLeaseStore) :
    Except WorkLeaseError WorkLease × WorkLeaseStore :=
  match requireFence leaseId token now db with
  | (.error e, db) => (.error e, db)
  | (.ok lease, db) =>
    let db := db.execUpdate leaseId u
    let updated := (db.byId leaseId).getD lease
    (.ok updated, db.record updated u.state now)

def renew (fencingToken ttlMs now : Int) (db : WorkLeaseStore) :
    Except WorkLeaseError WorkLease × WorkLeaseStore :=
  match validateTtl ttlMs with
  | .error e => (.error e, db)
  | .ok _ => transaction (fencedUpdate leaseId fencingToken now (.renew now (now + ttlMs))) db

def release (fencingToken now : Int) (db : WorkLeaseStore) :
    Except WorkLeaseError WorkLease × WorkLeaseStore :=
  transaction (fencedUpdate leaseId fencingToken now (.release now)) db

def recover (now : Int) (db : WorkLeaseStore) : List WorkLease × WorkLeaseStore :=
  let resources := (db.leases.rows.map (·.resource)).dedup
  let db := resources.foldl (fun db resource => db.expireResource resource now) db
  (db.leases.rows.filter fun l => l.isLive && now < l.expiresAtMs, db)

end WorkLeaseStore

/-- A call of the store, with what its clock and its `randomUUID()` return. -/
inductive Call where
  | acquire (input : WorkLeaseStore.AcquireInput) (uuid : String)
  | renew (leaseId : String) (fencingToken ttlMs now : Int)
  | release (leaseId : String) (fencingToken now : Int)
  | assertFence (resource leaseId : String) (fencingToken now : Int)
  | recover (now : Int)
  | current (resource : String)

def Call.apply (db : WorkLeaseStore) : Call → WorkLeaseStore
  | acquire input uuid => (WorkLeaseStore.acquire input uuid db).2
  | renew leaseId fencingToken ttlMs now => (WorkLeaseStore.renew leaseId fencingToken ttlMs now db).2
  | release leaseId fencingToken now => (WorkLeaseStore.release leaseId fencingToken now db).2
  | assertFence resource leaseId fencingToken now =>
    (WorkLeaseStore.assertFence resource leaseId fencingToken now db).2
  | recover now => (WorkLeaseStore.recover now db).2
  | current _ => db

def WorkLeaseStore.after (calls : List Call) : WorkLeaseStore :=
  calls.foldl Call.apply .empty

end IdAgents.WorkLeases
