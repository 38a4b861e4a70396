import IdAgents.Library.Json
import IdAgents.Library.Pool
import IdAgents.Library.Text

namespace IdAgents.AgentSharing
open JsText AtomicProgram

inductive MondayActorRef where
  | chris
  | liz
deriving DecidableEq

def MondayActorRef.text : MondayActorRef → String
  | chris => "user:chris"
  | liz => "user:liz"

/-- An entry of `ALIASES`; the names an object inherits are found too, and are no actor. -/
def aliasOf (name : String) : Option (Option MondayActorRef) :=
  if name = "user:chris" || name = "chris" || name = "human:chris" then some (some .chris)
  else if name = "user:liz" || name = "liz" || name = "human:liz" then some (some .liz)
  else if name = "constructor" || name = "__proto__" then some none
  else none

def normalizeActorRef (input : Option Json) : Except String (Option MondayActorRef) :=
  match input with
  | none | some .null => .error "actor is required (user:chris or user:liz)"
  | some (.str ref) =>
    if trim ref = "" then .error "actor is required (user:chris or user:liz)"
    else match aliasOf (toLowerCase (trim ref)) with
      | some actor => .ok actor
      | none =>
        .error ("unknown actor \"" ++ ref ++ "\" — only user:chris and user:liz are accepted")
  | some _ => .error "actor must be a string ref (user:chris or user:liz)"

inductive GrantKind where
  | share
  | delegate
deriving DecidableEq

inductive GranteeKind where
  | user
  | agent
deriving DecidableEq

inductive GrantScope where
  | view
  | collaborate
deriving DecidableEq

def GrantKind.text : GrantKind → String
  | share => "share"
  | delegate => "delegate"

def GranteeKind.text : GranteeKind → String
  | user => "user"
  | agent => "agent"

structure GrantTuple where
  kind : GrantKind
  actorRef : MondayActorRef
  subjectKind : String
  subjectRef : String
  granteeKind : GranteeKind
  granteeRef : String
deriving DecidableEq

structure Grant extends GrantTuple where
  grantId : String
  scope : GrantScope
  createdAt : Instant
  revokedAt : Option Instant
  revokedBy : Option String
deriving DecidableEq

structure BuildGrantInput where
  kind : Option Json
  actorRef : Option Json
  subjectKind : Option Json
  subjectRef : Option Json
  granteeRef : Option Json
  scope : Option Json := none

inductive GrantError where
  | invalid (error : String)
  | typeError
deriving DecidableEq

def asTrimmed : Option Json → String
  | some (.str s) => trim s
  | _ => ""

def parseKind : Option Json → Except GrantError GrantKind
  | some (.str "share") => .ok .share
  | some (.str "delegate") => .ok .delegate
  | _ => .error (.invalid "kind must be \"share\" or \"delegate\"")

def parseScope : Option Json → Except GrantError GrantScope
  | none | some .null | some (.str "") => .ok .collaborate
  | some (.str "view") => .ok .view
  | some (.str "collaborate") => .ok .collaborate
  | _ => .error (.invalid "scope must be one of: view, collaborate")

def actorOf (field : String) (ref : Option Json) : Except GrantError MondayActorRef :=
  match normalizeActorRef ref with
  | .error error => .error (.invalid (field ++ ": " ++ error))
  | .ok none => .error .typeError
  | .ok (some actor) => .ok actor

/-- `text.replace(/^agent:/, "")` -/
def dropAgentPrefix (text : String) : String :=
  if "agent:".toList.isPrefixOf text.toList then String.ofList (text.toList.drop 6) else text

def granteeOf (kind : GrantKind) (actor : MondayActorRef) (ref : Option Json) :
    Except GrantError (GranteeKind × String) :=
  if asTrimmed ref = "" then .error (.invalid "grantee_ref is required")
  else match kind with
    | .share => do
      let grantee ← actorOf "grantee_ref (share target)" ref
      if grantee = actor then .error (.invalid "cannot share with yourself")
      else .ok (.user, grantee.text)
    | .delegate =>
      match normalizeActorRef (some (.str (asTrimmed ref))) with
      | .ok _ => .error (.invalid
          ("delegate grantee must be an agent name, not a Monday user " ++
            "(use share for people)"))
      | .error _ => .ok (.agent, dropAgentPrefix (asTrimmed ref))

def buildGrant (input : BuildGrantInput) (nowIso : Instant) (id : String) :
    Except GrantError Grant := do
  let kind ← parseKind input.kind
  let actor ← actorOf "actor_ref" input.actorRef
  let subjectKind := asTrimmed input.subjectKind
  let subjectRef := asTrimmed input.subjectRef
  if subjectKind = "" || subjectRef = "" then
    .error (.invalid "subject_kind and subject_ref are required")
  else
    let scope ← parseScope input.scope
    let grantee ← granteeOf kind actor input.granteeRef
    .ok ⟨⟨kind, actor, subjectKind, subjectRef, grantee.1, grantee.2⟩, id, scope, nowIso, none,
      none⟩

def grantIdentityKey (g : GrantTuple) : String :=
  "|".intercalate [g.kind.text, g.actorRef.text, g.subjectKind, g.subjectRef, g.granteeKind.text,
    g.granteeRef]

/-- A grant that `buildGrant` has built. -/
structure BuiltGrant where
  grant : Grant
  built : ∃ input nowIso id, buildGrant input nowIso id = .ok grant

theorem buildGrant_fresh (h : buildGrant input nowIso grantId = .ok grant) :
    grant.grantId = grantId ∧ grant.revokedAt = none ∧ grant.revokedBy = none := by
  rw [buildGrant] at h
  cases hkind : parseKind input.kind with
  | error e => simp [hkind, bind, Except.bind] at h
  | ok kind =>
  cases hactor : actorOf "actor_ref" input.actorRef with
  | error e => simp [hkind, hactor, bind, Except.bind] at h
  | ok actor =>
  cases hscope : parseScope input.scope with
  | error e =>
    simp only [hkind, hactor, hscope, bind, Except.bind] at h
    split at h <;> cases h
  | ok scope =>
  cases hgrantee : granteeOf kind actor input.granteeRef with
  | error e =>
    simp only [hkind, hactor, hscope, hgrantee, bind, Except.bind] at h
    split at h <;> cases h
  | ok grantee =>
    simp only [hkind, hactor, hscope, hgrantee, bind, Except.bind] at h
    split at h
    · cases h
    · cases h
      exact ⟨rfl, rfl, rfl⟩

structure GrantRow extends Grant where
  identityKey : String
deriving DecidableEq

def GrantRow.isActive (row : GrantRow) : Bool := row.revokedAt.isNone

inductive Stmt where
  | selectActive (identity : String)
  | selectById (grantId : String)
  | insert (row : GrantRow)
  | updateScope (scope : GrantScope) (grantId : String)
  | updateRevoked (revokedAt : Instant) (revokedBy : String) (grantId : String)

abbrev Stmt.Ans : Stmt → Type
  | .selectActive _ | .selectById _ => Option Grant
  | .insert _ => Except String Unit
  | _ => Unit

abbrev sql : Signature := ⟨Stmt, Stmt.Ans⟩

abbrev Prog (α : Type) := Program sql String α

def setWhere (grantId : String) (set : GrantRow → GrantRow) (rows : List GrantRow) :
    List GrantRow :=
  rows.map fun row => if row.grantId = grantId then set row else row

def insertAnswer (rows : List GrantRow) (row : GrantRow) : Except String Unit :=
  if rows.any fun r => r.grantId = row.grantId then
    .error "UNIQUE constraint failed: agent_grants.grant_id"
  else if row.isActive && rows.any fun r => r.isActive && r.identityKey = row.identityKey then
    .error "UNIQUE constraint failed: agent_grants.identity_key"
  else .ok ()

instance : Store sql (List GrantRow) where
  answer
    | .selectActive identity, rows =>
      (rows.find? fun row => row.identityKey = identity && row.isActive).map (·.toGrant)
    | .selectById grantId, rows => (rows.find? (·.grantId = grantId)).map (·.toGrant)
    | .insert row, rows => insertAnswer rows row
    | .updateScope .., _ => ()
    | .updateRevoked .., _ => ()
  effect
    | .insert row, rows =>
      match insertAnswer rows row with
      | .ok _ => rows ++ [row]
      | .error _ => rows
    | .updateScope scope grantId, rows =>
      setWhere grantId (fun row => { row with scope := scope }) rows
    | .updateRevoked revokedAt revokedBy grantId, rows =>
      setWhere grantId (fun row =>
        { row with revokedAt := some revokedAt, revokedBy := some revokedBy }) rows
    | _, rows => rows

structure InsertGrantResult where
  grant : Grant
  created : Bool

inductive RevokeResult where
  | revoked (grant : Grant)
  | notFound
  | alreadyRevoked (grant : Grant)

def grantRow (grant : Grant) : GrantRow :=
  { grant with
    revokedAt := none
    revokedBy := none
    identityKey := grantIdentityKey grant.toGrantTuple }

def createGrant (grant : Grant) : Prog InsertGrantResult :=
  .issue (.insert (grantRow grant)) fun inserted => match inserted with
    | .error message => .throw message
    | .ok _ => .ret ⟨grant, true⟩

def reuseGrant (grant existing : Grant) : Prog InsertGrantResult :=
  if existing.scope ≠ grant.scope ∧ grant.scope = .collaborate then
    .issue (.updateScope grant.scope existing.grantId) fun _ =>
      .ret ⟨{ existing with scope := grant.scope }, false⟩
  else .ret ⟨existing, false⟩

def insertGrant (grant : Grant) : Prog InsertGrantResult :=
  .issue (.selectActive (grantIdentityKey grant.toGrantTuple)) fun existing => match existing with
    | some existing => reuseGrant grant existing
    | none => createGrant grant

def revokeFound (grantId revokedBy : String) (nowIso : Instant) (current : Grant) :
    Prog RevokeResult :=
  match current.revokedAt with
  | some _ => .ret (.alreadyRevoked current)
  | none =>
    .issue (.updateRevoked nowIso revokedBy grantId) fun _ =>
      .ret (.revoked { current with revokedAt := some nowIso, revokedBy := some revokedBy })

def revokeGrant (grantId revokedBy : String) (nowIso : Instant) : Prog RevokeResult :=
  .issue (.selectById grantId) fun current => match current with
    | none => .ret .notFound
    | some current => revokeFound grantId revokedBy nowIso current

end IdAgents.AgentSharing
