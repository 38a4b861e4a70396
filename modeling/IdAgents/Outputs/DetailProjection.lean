import IdAgents.Library.Json
import IdAgents.Library.Reads
import IdAgents.Library.Regex
import IdAgents.Library.Text

namespace IdAgents.Outputs.Detail
open JsText JsRegex

structure CatalogRow where
  absPath : Option String
  columns : Json

/-- What `readArtifactByLiveSourceId` makes of a query or a dispatch of a team. -/
structure LiveSourceRow where
  path : Option String
  columns : Json

structure DraftPayload where
  bodyMarkdown : String
  columns : Json

structure DraftRow where
  updatedAt : String
  payload : Option DraftPayload

structure BodyCacheRow where
  bodyText : Option String
  mediaType : String
  sourceSize : Option Nat
  bodyTruncated : Bool
  bodyError : Option String
  columns : Json

inductive BodyKind where
  | markdown | html | json | text | image | binary | missing | unavailable
deriving DecidableEq

inductive BodySource where
  | caneDraft | file | artifactBodyCache | none
deriving DecidableEq

structure ArtifactDetailBody where
  kind : BodyKind
  text : Option String
  bytes : Option Nat
  truncated : Bool
  source : BodySource
  error : Option String
  cache : Option Json

structure ArtifactDetailRef where
  artifactId : String
  requestedRef : String
  resolvedFrom : String
  decodedPath : Option String
deriving DecidableEq

structure ArtifactDetailResponse where
  generatedAt : String
  artifactId : String
  requestedRef : String
  resolvedFrom : String
  body : ArtifactDetailBody
  contents : Json

structure DetailParts where
  catalog : Option CatalogRow
  review : Option Json
  ops : List Json
  operationsCount : Nat
  comments : List Json
  timeline : List Json
  evidence : List Json
  draftRow : Option DraftRow

def DetailParts.draft (parts : DetailParts) : Option DraftPayload := parts.draftRow.bind (·.payload)

structure DetailQueries (δ : Type) where
  getArtifact : δ → String → Option CatalogRow
  getReviewState : δ → String → Option Json
  listOperations : δ → String → Nat → List Json
  countOperations : δ → String → Nat
  listComments : δ → String → Nat → List Json
  listTimelineEvents : δ → String → Nat → List Json
  listArtifactSourceEvidence : δ → String → List Json
  getArtifactDraft : δ → String → Option DraftRow
  catalogPaths : δ → List String
  readArtifactByLiveSourceId : δ → String → String → Option LiveSourceRow
  stat : δ → String → Except String (Bool × Nat)
  readFile : δ → String → Nat → Except String String
  getArtifactBodyCache : δ → String → Option BodyCacheRow
  artifactIdFromPath : String → String
  project : ArtifactDetailRef → String → DetailParts → Option String → Option LiveSourceRow →
    ArtifactDetailBody → Json

def maxDetailBodyBytes : Nat := 1048576

def summaryLimit : Nat := 50

abbrev Build (δ : Type) := Reads δ String (Option ArtifactDetailResponse)

def query (f : δ → α) (k : α → Build δ) : Build δ := .round 1 fun s => k (f (s 0))

/-- `path.extname`, in lower case: what follows the last dot of the last segment, unless the dot is the
segment's first character. -/
def extname (path : String) : String :=
  let name := ((splitChars '/' path.toList).getLast?).getD []
  match splitChars '.' name with
  | [] | [_] => ""
  | [[], _] => ""
  | parts => toLowerCase (String.ofList ('.' :: (parts.getLast?).getD []))

def bodyKindFromExtension (ext : String) : BodyKind :=
  if ext ∈ [".md", ".markdown", ".mdx"] then .markdown
  else if ext ∈ [".html", ".htm"] then .html
  else if ext = ".json" then .json
  else if ext ∈ [".txt", ".log", ".csv", ".tsv", ".yaml", ".yml"] then .text
  else if ext ∈ [".png", ".jpg", ".jpeg", ".gif", ".webp", ".svg"] then .image
  else .binary

def bodyKindFromMediaType (mediaType : String) : BodyKind :=
  if mediaType = "text/markdown" then .markdown
  else if mediaType = "text/html" then .html
  else if mediaType = "application/json" then .json
  else if mediaType = "text/plain" then .text
  else .unavailable

def draftBody (draft : DraftPayload) : ArtifactDetailBody :=
  ⟨.markdown, some draft.bodyMarkdown, some draft.bodyMarkdown.utf8ByteSize, false, .caneDraft, none,
    none⟩

def cachedBody (error : String) : Option BodyCacheRow → ArtifactDetailBody
  | some ⟨some text, mediaType, size, truncated, bodyError, columns⟩ =>
    ⟨bodyKindFromMediaType mediaType, some text, size, truncated, .artifactBodyCache,
      (some error).or bodyError, some columns⟩
  | _ => ⟨.missing, none, none, false, .file, some error, none⟩

section
variable {δ : Type} (q : DetailQueries δ)

def readCachedBody (artifactId error : String) (k : ArtifactDetailBody → Build δ) : Build δ :=
  query (q.getArtifactBodyCache · artifactId) fun row => k (cachedBody error row)

def readFileBody (artifactId path : String) (size : Nat) (k : ArtifactDetailBody → Build δ) :
    Build δ :=
  let kind := bodyKindFromExtension (extname path)
  if kind = .image ∨ kind = .binary then k ⟨kind, none, some size, false, .file, none, none⟩
  else query (q.readFile · path (min size maxDetailBodyBytes)) fun
    | .ok text => k ⟨kind, some text, some size, maxDetailBodyBytes < size, .file, none, none⟩
    | .error code => readCachedBody q artifactId code k
section
variable (artifactId : String)

def readDetailBody (absPath : Option String) (draft : Option DraftPayload)
    (k : ArtifactDetailBody → Build δ) : Build δ :=
  match draft, absPath.filter (· ≠ "") with
  | some draft, _ => k (draftBody draft)
  | none, none => k ⟨.unavailable, none, none, false, .none, none, none⟩
  | none, some path => query (q.stat · path) fun
    | .ok (false, size) => k ⟨.unavailable, none, some size, false, .file, some "not_file", none⟩
    | .ok (true, size) => readFileBody q artifactId path size k
    | .error code => readCachedBody q artifactId code k
section
variable (ref : ArtifactDetailRef)

def response (now : String) (parts : DetailParts) (path : Option String)
    (live : Option LiveSourceRow) (body : ArtifactDetailBody) : ArtifactDetailResponse :=
  ⟨now, ref.artifactId, ref.requestedRef, ref.resolvedFrom, body,
    q.project ref now parts path live body⟩

def buildBody (now : String) (parts : DetailParts) (path : Option String)
    (live : Option LiveSourceRow) : Build δ :=
  let unknown := parts.catalog.isNone && parts.review.isNone && parts.draft.isNone
  if unknown && path.isNone then .done none
  else
    let absPath := parts.catalog.elim path (·.absPath)
    readDetailBody q ref.artifactId absPath parts.draft fun body =>
      .done (if unknown ∧ body.kind = .missing then none
        else some (response q ref now parts path live body))

/-- `/^query:([^:]+):(.+)$/` and `/^dispatch:(.+)$/`, the ids that `readArtifactByLiveSourceId` looks
up. -/
def isLiveSourceId : Bool :=
  let rest := plus (.one fun c => !(c = '\n' || c = '\r' || c.toNat = 0x2028 || c.toNat = 0x2029))
  (seqs [lit "query:", plus (.one (· ≠ ':')), lit ":", rest]).isWhole artifactId ||
    (seqs [lit "dispatch:", rest]).isWhole artifactId

def buildLive (now : String) (parts : DetailParts) (path : Option String) : Build δ :=
  if parts.catalog.isNone && path.isNone && isLiveSourceId ref.artifactId then
    .ask fun team => query (q.readArtifactByLiveSourceId · team ref.artifactId) fun live =>
      buildBody q ref now parts ((live.bind (·.path)).filter (· ≠ "")) live
  else buildBody q ref now parts path none

end

def hexDigit (c : Char) : Bool := c.isDigit || ('a' ≤ c && c ≤ 'f')

/-- `/^art-[a-f0-9]{16}$/` -/
def isStableArtifactId : Bool :=
  (seqs [lit "art-", exactly 16 (.one hexDigit)]).isWhole artifactId

def findCatalogPathByStableArtifactId (x : δ) : Option String :=
  ((q.catalogPaths x).map trim).find? fun path => path ≠ "" && q.artifactIdFromPath path = artifactId

def detailParts (s : Fin 8 → δ) : DetailParts where
  catalog := q.getArtifact (s 0) artifactId
  review := q.getReviewState (s 1) artifactId
  ops := q.listOperations (s 2) artifactId summaryLimit
  operationsCount := q.countOperations (s 3) artifactId
  comments := q.listComments (s 4) artifactId summaryLimit
  timeline := q.listTimelineEvents (s 5) artifactId summaryLimit
  evidence := q.listArtifactSourceEvidence (s 6) artifactId
  draftRow := q.getArtifactDraft (s 7) artifactId

end

def buildArtifactDetail (ref : ArtifactDetailRef) (now : String) : Build δ :=
  .round 8 fun s =>
    let parts := detailParts q ref.artifactId s
    let path := ref.decodedPath.filter (· ≠ "")
    if parts.catalog.isNone && path.isNone && isStableArtifactId ref.artifactId then
      query (findCatalogPathByStableArtifactId q ref.artifactId) (buildLive q ref now parts)
    else buildLive q ref now parts path

variable {q}

variable {Q : Option ArtifactDetailResponse → Prop}

theorem query_ends {f : δ → α} {k : α → Build δ} (hk : ∀ a, (k a).Ends Q) : (query f k).Ends Q :=
  fun _ => hk _

variable {k : ArtifactDetailBody → Build δ}

theorem readCachedBody_ends (hk : ∀ body, (k body).Ends Q) :
    (readCachedBody q artifactId error k).Ends Q :=
  query_ends fun _ => hk _

theorem readDetailBody_ends (hk : ∀ body, (k body).Ends Q) :
    (readDetailBody q artifactId absPath draft k).Ends Q := by
  have hfile (path : String) (size : Nat) : (readFileBody q artifactId path size k).Ends Q := by
    rw [readFileBody]
    split
    · exact hk _
    · apply query_ends
      intro answer
      cases answer with
      | ok text => exact hk _
      | error code => exact readCachedBody_ends hk
  rw [readDetailBody.eq_def]
  split
  · exact hk _
  · exact hk _
  · next path _ =>
    apply query_ends
    intro answer
    rcases answer with code | ⟨isFile, size⟩
    · exact readCachedBody_ends hk
    · cases isFile with
      | false => exact hk _
      | true => exact hfile path size

theorem buildArtifactDetail_ends (ref : ArtifactDetailRef) (now : String) :
    (buildArtifactDetail q ref now).Ends fun r => ∀ d, r = some d → d.artifactId = ref.artifactId := by
  have hbody (parts : DetailParts) (path : Option String) (live : Option LiveSourceRow) :
      (buildBody q ref now parts path live).Ends fun r =>
        ∀ d, r = some d → d.artifactId = ref.artifactId := by
    rw [buildBody]
    dsimp only
    split
    · exact fun d hd => nomatch hd
    · refine readDetailBody_ends ?_
      intro body d hd
      split at hd
      · cases hd
      · cases hd
        rfl
  have hlive (parts : DetailParts) (path : Option String) :
      (buildLive q ref now parts path).Ends fun r =>
        ∀ d, r = some d → d.artifactId = ref.artifactId := by
    rw [buildLive]
    split
    · exact fun team => query_ends fun live => hbody _ _ _
    · exact hbody _ _ _
  intro s
  dsimp only
  split
  · exact query_ends fun path => hlive _ _
  · exact hlive _ _

structure Agree (q : DetailQueries δ) (team : String) (x y : δ) : Prop where
  getArtifact : q.getArtifact x = q.getArtifact y
  getReviewState : q.getReviewState x = q.getReviewState y
  listOperations : q.listOperations x = q.listOperations y
  countOperations : q.countOperations x = q.countOperations y
  listComments : q.listComments x = q.listComments y
  listTimelineEvents : q.listTimelineEvents x = q.listTimelineEvents y
  listArtifactSourceEvidence : q.listArtifactSourceEvidence x = q.listArtifactSourceEvidence y
  getArtifactDraft : q.getArtifactDraft x = q.getArtifactDraft y
  catalogPaths : q.catalogPaths x = q.catalogPaths y
  ownLiveSources : q.readArtifactByLiveSourceId x team = q.readArtifactByLiveSourceId y team
  stat : q.stat x = q.stat y
  readFile : q.readFile x = q.readFile y
  getArtifactBodyCache : q.getArtifactBodyCache x = q.getArtifactBodyCache y

theorem Agree.refl (q : DetailQueries δ) (team : String) (x : δ) : Agree q team x x :=
  ⟨rfl, rfl, rfl, rfl, rfl, rfl, rfl, rfl, rfl, rfl, rfl, rfl, rfl⟩

theorem query_blind {f : δ → α} {k : α → Build δ} (hf : ∀ x y, Agree q team x y → f x = f y)
    (hk : ∀ a, (k a).Blind (Agree q team) team) : (query f k).Blind (Agree q team) team := by
  intro s
  constructor
  · intro s' h
    exact congrArg k (hf _ _ (h 0))
  · exact hk _

theorem readCachedBody_blind (hk : ∀ body, (k body).Blind (Agree q team) team) :
    (readCachedBody q artifactId error k).Blind (Agree q team) team :=
  query_blind (fun _ _ h => congrFun h.getArtifactBodyCache artifactId) fun _ => hk _

theorem readDetailBody_blind (hk : ∀ body, (k body).Blind (Agree q team) team) :
    (readDetailBody q artifactId absPath draft k).Blind (Agree q team) team := by
  have hfile (path : String) (size : Nat) :
      (readFileBody q artifactId path size k).Blind (Agree q team) team := by
    rw [readFileBody]
    split
    · exact hk _
    · apply query_blind
      · exact fun _ _ h => congrFun (congrFun h.readFile path) _
      · intro answer
        cases answer with
        | ok text => exact hk _
        | error code => exact readCachedBody_blind hk
  rw [readDetailBody.eq_def]
  split
  · exact hk _
  · exact hk _
  · next path _ =>
    apply query_blind
    · exact fun _ _ h => congrFun h.stat path
    · intro answer
      rcases answer with code | ⟨isFile, size⟩
      · exact readCachedBody_blind hk
      · cases isFile with
        | false => exact hk _
        | true => exact hfile path size

theorem buildArtifactDetail_blind (ref : ArtifactDetailRef) (now team : String) :
    (buildArtifactDetail q ref now).Blind (Agree q team) team := by
  have hbody (parts : DetailParts) (path : Option String) (live : Option LiveSourceRow) :
      (buildBody q ref now parts path live).Blind (Agree q team) team := by
    rw [buildBody]
    dsimp only
    split
    · trivial
    · exact readDetailBody_blind fun _ => trivial
  have hlive (parts : DetailParts) (path : Option String) :
      (buildLive q ref now parts path).Blind (Agree q team) team := by
    rw [buildLive]
    split
    · rw [Reads.Blind]
      exact query_blind (fun _ _ h => congrFun h.ownLiveSources ref.artifactId) fun _ => hbody _ _ _
    · exact hbody _ _ _
  intro s
  constructor
  · intro s' h
    have hparts : detailParts q ref.artifactId s = detailParts q ref.artifactId s' := by
      rw [detailParts, detailParts, (h 0).getArtifact, (h 1).getReviewState, (h 2).listOperations,
        (h 3).countOperations, (h 4).listComments, (h 5).listTimelineEvents,
        (h 6).listArtifactSourceEvidence, (h 7).getArtifactDraft]
    dsimp only
    rw [hparts]
  · dsimp only
    split
    · apply query_blind
      · intro x y h
        rw [findCatalogPathByStableArtifactId, findCatalogPathByStableArtifactId, h.catalogPaths]
      · exact fun path => hlive _ _
    · exact hlive _ _

end

end IdAgents.Outputs.Detail
