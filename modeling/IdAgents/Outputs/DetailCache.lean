import IdAgents.Library.Dict
import IdAgents.Outputs.DetailProjection

namespace IdAgents.Outputs.Detail
open JsMap

structure Origin where
  ref : ArtifactDetailRef
  now : String
  teamId : String
  consulted : Bool

inductive BuildPhase where
  | running
  | returned (r : Option ArtifactDetailResponse)
  | failed (e : String)

structure DetailBuild (δ : Type) extends Origin where
  prog : Build δ
  firstRead : Option Nat
  phase : BuildPhase

inductive ReadPhase where
  | waiting (build : Nat)
  | answered (r : Option ArtifactDetailResponse) (origin : Origin)
  | failed (e : String)

/-- A call of `getArtifactDetailCached`, a request's own or a prefetch. Beside it is kept which version
of the database the artifact was last invalidated at when the call was made. -/
structure DetailRead where
  ref : ArtifactDetailRef
  teamId : String
  floor : Nat
  phase : ReadPhase

structure Cached where
  detail : ArtifactDetailResponse
  origin : Origin

/-- The database, the two maps, and what is under way. All versions of the database so far are kept with
their numbers, and for every artifact the version it was last invalidated at. -/
structure Server (δ : Type) where
  db : δ
  version : Nat
  log : List (Nat × δ)
  floors : String → Nat
  detailCache : Dict String Cached
  detailInflight : Dict String Nat
  builds : List (DetailBuild δ)
  reads : List DetailRead

/-- What can happen next: the database changes; a route invalidates; a detail is looked up; a read of a
build is answered, a round of it goes on, it is told its team, it ends, or a query of it fails; a call
that waits for a build is answered. -/
inductive Label (δ : Type) where
  | write (x : δ)
  | invalidate (artifactId : String)
  | clear
  | lookup (ref : ArtifactDetailRef) (teamId now : String)
  | answer (build i : Nat)
  | settle (build : Nat)
  | tell (build : Nat)
  | finish (build : Nat)
  | fail (build : Nat) (e : String)
  | resume (i : Nat)

def DetailBuild.running (b : DetailBuild δ) : Bool :=
  match b.phase with
  | .running => true
  | _ => false

namespace Server
variable {δ : Type}

def start (x : δ) : Server δ := ⟨x, 0, [(0, x)], fun _ => 0, .empty, .empty, [], []⟩
section
variable (s : Server δ)

def write (x : δ) : Server δ :=
  { s with db := x, version := s.version + 1, log := s.log ++ [(s.version + 1, x)] }

def invalidateArtifactDetail (artifactId : String) : Server δ :=
  { s with
    floors := fun a => if a = artifactId then s.version else s.floors a
    detailCache := s.detailCache.delete artifactId
    detailInflight := s.detailInflight.delete artifactId }

def clearArtifactDetailCache : Server δ :=
  { s with floors := fun _ => s.version, detailCache := .empty, detailInflight := .empty }

def detailCacheMax : Nat := 100

def rememberArtifactDetail (c : Cached) : Server δ :=
  let newest := (s.detailCache.delete c.detail.artifactId).set c.detail.artifactId c
  { s with detailCache := newest.keepNewest (· = "") detailCacheMax }

def addRead (ref : ArtifactDetailRef) (teamId : String) (phase : ReadPhase) : Server δ :=
  { s with reads := s.reads ++ [⟨ref, teamId, s.floors ref.artifactId, phase⟩] }

end

variable (q : DetailQueries δ)
section
variable (s : Server δ)

def addBuild (ref : ArtifactDetailRef) (teamId now : String) : Server δ :=
  let build := ⟨⟨ref, now, teamId, false⟩, buildArtifactDetail q ref now, none, .running⟩
  { s with
    builds := s.builds ++ [build]
    detailInflight := s.detailInflight.set ref.artifactId s.builds.length }

/-- `getArtifactDetailCached` up to its first `await`. -/
def getArtifactDetailCached (ref : ArtifactDetailRef) (teamId now : String) : Server δ :=
  match s.detailCache.get? ref.artifactId with
  | some hit => s.addRead ref teamId (.answered (some hit.detail) hit.origin)
  | none => match s.detailInflight.get? ref.artifactId with
    | some existing => s.addRead ref teamId (.waiting existing)
    | none => (s.addBuild q ref teamId now).addRead ref teamId (.waiting s.builds.length)
section
variable (i : Nat)

def setBuild (f : DetailBuild δ → Option (DetailBuild δ)) : Server δ :=
  match s.builds[i]? with
  | some b => match b.running, f b with
    | true, some b' => { s with builds := s.builds.set i b' }
    | _, _ => s
  | none => s

/-- The `finally` of a build takes the entry of its artifact, whoever has it by now. -/
def endBuild (b : DetailBuild δ) (phase : BuildPhase) : Server δ :=
  { s with
    builds := s.builds.set i { b with phase }
    detailInflight := s.detailInflight.delete b.ref.artifactId }

def finish : Server δ :=
  match s.builds[i]? with
  | some b => match b.running, b.prog with
    | true, .done (some detail) =>
      (s.endBuild i b (.returned (some detail))).rememberArtifactDetail ⟨detail, b.toOrigin⟩
    | true, .done none => s.endBuild i b (.returned none)
    | _, _ => s
  | none => s

def fail (e : String) : Server δ :=
  match s.builds[i]? with
  | some b => if b.running then s.endBuild i b (.failed e) else s
  | none => s

def setPhase (r : DetailRead) (phase : ReadPhase) : Server δ :=
  { s with reads := s.reads.set i { r with phase } }

def resume : Server δ :=
  match s.reads[i]? with
  | some r => match r.phase with
    | .waiting j => match s.builds[j]? with
      | some b => match b.phase with
        | .running => s
        | .returned d => s.setPhase i r (.answered d b.toOrigin)
        | .failed e => s.setPhase i r (.failed e)
      | none => s
    | _ => s
  | none => s

end

def step : Label δ → Server δ
  | .write x => s.write x
  | .invalidate artifactId => s.invalidateArtifactDetail artifactId
  | .clear => s.clearArtifactDetailCache
  | .lookup ref teamId now => s.getArtifactDetailCached q ref teamId now
  | .answer i j => s.setBuild i fun b => (b.prog.answer j s.db).map fun prog =>
      { b with prog, firstRead := b.firstRead.or (some s.version) }
  | .settle i => s.setBuild i fun b => b.prog.settle.map fun prog => { b with prog }
  | .tell i => s.setBuild i fun b => (b.prog.tell b.teamId).map fun prog =>
      { b with prog, consulted := true }
  | .finish i => s.finish i
  | .fail i e => s.fail i e
  | .resume i => s.resume i

def after (labels : List (Label δ)) : Server δ := labels.foldl (step q) s

end

end Server

end IdAgents.Outputs.Detail
