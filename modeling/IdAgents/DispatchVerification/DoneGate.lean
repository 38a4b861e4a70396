import IdAgents.Library.Regex
import IdAgents.Library.Text

namespace IdAgents.DispatchVerification
open JsText JsRegex

structure PromotionRepoClaim where
  path : Option String := none
  base : Option String := none
  promotedSha : Option String := none

structure DeliveryEvidence where
  screenshotUrl : Option String := none
  screenshotPath : Option String := none
  evidenceUrl : Option String := none
  evidencePath : Option String := none
  productionUrl : Option String := none

/-- A field of a type that the checks do not accept is absent. -/
structure SmallSiteFixDeliveryContract extends DeliveryEvidence where
  kind : Option String := none
  project : Option String := none
  ownerAccepted : Option (Bool ⊕ String) := none
  evidence : Option DeliveryEvidence := none

structure DoneClaim where
  artifactPath : Option String := none
  repos : List PromotionRepoClaim := []
  deliveryContract : Option SmallSiteFixDeliveryContract := none
  subject : Option String := none
  bodyMarkdown : Option String := none
  resultText : Option String := none

/-- `false` where a probe throws. -/
structure DoneVerificationProbes where
  fileExists : String → Bool
  commitOnBase : String → String → String → Bool

inductive DoneVerificationKind where
  | artifact | commit | smallSiteFixContract

structure DoneVerificationCheck where
  kind : DoneVerificationKind
  target : String
  ok : Bool
  detail : Option String

structure Url where
  protocol : String
  hostname : String

/-- `new URL(text)`, `none` where it throws. -/
abbrev UrlParser := String → Option Url

def present (value : Option String) : Option String :=
  value.bind fun s => if trim s = "" then none else some (trim s)

/-- `/\b(…|…)\b/` -/
def wordsRe (words : List String) : Regex :=
  seqs [.wordBoundary, alts (words.map lit), .wordBoundary]

def dispatchText (claim : DoneClaim) : String :=
  toLowerCase (String.intercalate "\n"
    ([claim.subject, claim.bodyMarkdown, claim.resultText].filterMap fun text =>
      text.filter (trim · ≠ "")))

def managerSide (text : String) : Bool :=
  (wordsRe ["manager-side"]).test text && (wordsRe ["verifier", "contract"]).test text

def mentionsSmallSiteFix (text : String) : Bool :=
  (wordsRe ["site", "website", "page", "frontend", "ui", "graph", "chart", "pdf preview",
    "preview"]).test text &&
  (wordsRe ["fix", "change", "patch", "update", "repair", "restore", "ship", "deliver"]).test text

def mentionsProtectedProject (text : String) : Bool :=
  (wordsRe ["finance", "finances", "cleveland park"]).test text

def explicitContract (claim : DoneClaim) : Bool :=
  claim.deliveryContract.any (·.kind = some "small_site_fix")

def requiresSmallSiteFixContract (claim : DoneClaim) : Bool × String :=
  if explicitContract claim then (true, "explicit small_site_fix delivery contract")
  else
    let text := dispatchText claim
    if text = "" then (false, "no dispatch text")
    else if managerSide text then
      (false, "manager-side verifier/contract work is not a small site-fix delivery")
    else (mentionsSmallSiteFix text && mentionsProtectedProject text,
      if mentionsProtectedProject text then
        "Finance/Cleveland Park small site-fix dispatch requires owner acceptance, " ++
          "production URL, and screenshot/evidence"
      else "not a protected small site-fix dispatch")

def accepted : Option (Bool ⊕ String) → Bool
  | some (.inl b) => b
  | some (.inr s) => s = "true" || s = "accepted" || s = "approved"
  | none => false
section
variable (parse : UrlParser)

def isProductionUrl (value : Option String) : Bool :=
  match value.bind parse with
  | some u => u.protocol = "https:" && !(["localhost", "127.0.0.1", "::1"].contains u.hostname)
  | none => false

def productionUrl (c : SmallSiteFixDeliveryContract) : Option String :=
  present c.productionUrl <|> present (c.evidence.bind (·.productionUrl))

def DeliveryEvidence.item (e : DeliveryEvidence) : Option String :=
  present e.screenshotUrl <|> present e.screenshotPath <|> present e.evidenceUrl <|>
    present e.evidencePath

def evidenceItem (c : SmallSiteFixDeliveryContract) : Option String :=
  c.item <|> c.evidence.bind (·.item)

def missingParts (contract : Option SmallSiteFixDeliveryContract) : List String :=
  (if contract.any (·.kind = some "small_site_fix") then []
    else ["delivery_contract.kind=small_site_fix"]) ++
  (if accepted (contract.bind (·.ownerAccepted)) then [] else ["owner_accepted=true"]) ++
  (if isProductionUrl parse (contract.bind productionUrl) then [] else ["production_url"]) ++
  (if (contract.bind evidenceItem).isSome then [] else ["screenshot_or_evidence"])

def validateSmallSiteFixDeliveryContract
    (contract : Option SmallSiteFixDeliveryContract) (reason : String) : DoneVerificationCheck where
  kind := .smallSiteFixContract
  target := (present (contract.bind (·.project))).getD "small_site_fix"
  ok := missingParts parse contract = []
  detail := some (if missingParts parse contract = [] then reason ++ ": delivery contract verified"
    else reason ++ "; missing " ++ String.intercalate ", " (missingParts parse contract))

def artifactCheck (probes : DoneVerificationProbes) (path : String) : DoneVerificationCheck where
  kind := .artifact
  target := path
  ok := probes.fileExists path
  detail := if probes.fileExists path then none
    else some ("claimed artifact not found on disk: " ++ path)

def repoCheck (probes : DoneVerificationProbes) (repo : PromotionRepoClaim) :
    Option DoneVerificationCheck :=
  (present repo.promotedSha).map fun sha =>
    let base := (present repo.base).getD "main"
    match present repo.path with
    | none => ⟨.commit, sha, false, some ("promotion repo missing path for " ++ sha)⟩
    | some path =>
      ⟨.commit, sha ++ "@" ++ base, probes.commitOnBase path sha base,
        if probes.commitOnBase path sha base then none
        else some ("promoted commit " ++ sha ++ " is not on " ++ base ++ " in " ++ path)⟩

structure DoneVerificationResult where
  ok : Bool
  reason : Option String
  checks : List DoneVerificationCheck

def verifyDoneClaims (claim : DoneClaim) (probes : DoneVerificationProbes) :
    DoneVerificationResult :=
  let required := requiresSmallSiteFixContract claim
  let checks := ((present claim.artifactPath).map (artifactCheck probes)).toList ++
    claim.repos.filterMap (repoCheck probes) ++
    (if required.1 then
      [validateSmallSiteFixDeliveryContract parse claim.deliveryContract required.2] else [])
  let failed := checks.find? (!·.ok)
  ⟨failed.isNone, failed.bind (·.detail), checks⟩

end

/-- The constructs of the patterns above. -/
def Plain : Regex → Bool
  | .empty | .one _ | .wordBoundary => true
  | .seq r s | .alt r s => Plain r && Plain s
  | .many _ | .group _ _ => false

def appended (rest : List Char) (p : Place) : Place := { p with after := p.after ++ '\n' :: rest }

variable {r : Regex}

theorem ends_appended (hplain : Plain r) (rest : List Char)
    (h : q ∈ r.ends p) : appended rest q ∈ r.ends (appended rest p) := by
  induction r generalizing p q with
  | empty =>
    obtain rfl := List.mem_singleton.mp h
    exact List.mem_singleton_self _
  | one f =>
    obtain ⟨before, after, groups⟩ := p
    cases after with
    | nil => cases h
    | cons c cs =>
      rw [Regex.ends] at h ⊢
      dsimp only [appended, List.cons_append] at h ⊢
      split at h
      · next hf =>
        obtain rfl := List.mem_singleton.mp h
        rw [if_pos hf]
        exact List.mem_singleton_self _
      · cases h
  | seq r s ihr ihs =>
    obtain ⟨hr, hs⟩ := Bool.and_eq_true_iff.mp hplain
    obtain ⟨m, hm, hq⟩ := List.mem_flatMap.mp h
    exact List.mem_flatMap.mpr ⟨_, ihr hr hm, ihs hs hq⟩
  | alt r s ihr ihs =>
    obtain ⟨hr, hs⟩ := Bool.and_eq_true_iff.mp hplain
    exact List.mem_append.mpr ((List.mem_append.mp h).imp (ihr hr) (ihs hs))
  | many r => cases hplain
  | group n r => cases hplain
  | wordBoundary =>
    -- the line break is no more a word character than the end of the text
    have hsame : (appended rest p).atWordBoundary = p.atWordBoundary := by
      obtain ⟨before, after, groups⟩ := p
      cases after <;> rfl
    rw [Regex.ends] at h ⊢
    rw [hsame]
    split at h
    · next hb =>
      obtain rfl := List.mem_singleton.mp h
      rw [if_pos hb]
      exact List.mem_singleton_self _
    · cases h

theorem firstMatch_isSome (before cs : List Char) : (r.firstMatch before cs).isSome ↔
    ∃ done rest, cs = done ++ rest ∧ r.ends ⟨done.reverse ++ before, rest, []⟩ ≠ [] := by
  induction cs generalizing before with
  | nil =>
    simp only [Regex.firstMatch, Option.isSome_map, Regex.matchAt, List.isSome_head?]
    constructor
    · intro h
      exact ⟨[], [], rfl, by simpa using h⟩
    · rintro ⟨done, rest, hsplit, h⟩
      obtain ⟨rfl, rfl⟩ := List.append_eq_nil_iff.mp hsplit.symm
      simpa using h
  | cons c cs ih =>
    rw [Regex.firstMatch, Regex.matchAt]
    cases hhere : r.ends ⟨before, c :: cs, []⟩ with
    | cons q qs => exact iff_of_true rfl ⟨[], c :: cs, rfl, by simp [hhere]⟩
    | nil =>
      rw [List.head?_nil, ih]
      constructor
      · rintro ⟨done, rest, rfl, h⟩
        exact ⟨c :: done, rest, rfl, by simpa using h⟩
      · rintro ⟨done, rest, hsplit, h⟩
        cases done with
        | nil =>
          cases hsplit
          exact absurd hhere h
        | cons d done =>
          obtain ⟨rfl, rfl⟩ := List.cons.inj hsplit
          exact ⟨done, rest, rfl, by simpa using h⟩

theorem test_appended (hplain : Plain r) (h : r.test text)
    (rest : String) : r.test (text ++ "\n" ++ rest) := by
  rw [Regex.test, firstMatch_isSome] at h ⊢
  obtain ⟨done, after, hsplit, hends⟩ := h
  obtain ⟨q, hq⟩ := List.exists_mem_of_ne_nil _ hends
  refine ⟨done, after ++ '\n' :: rest.toList, by simp [hsplit], ?_⟩
  exact List.ne_nil_of_mem (ends_appended hplain rest.toList hq)

theorem mentions_appended (hsite : mentionsSmallSiteFix text)
    (hproject : mentionsProtectedProject text) (rest : String) :
    mentionsSmallSiteFix (text ++ "\n" ++ rest) ∧
      mentionsProtectedProject (text ++ "\n" ++ rest) := by
  obtain ⟨hplace, hwork⟩ := Bool.and_eq_true_iff.mp hsite
  exact ⟨Bool.and_eq_true_iff.mpr ⟨test_appended rfl hplace rest, test_appended rfl hwork rest⟩,
    test_appended rfl hproject rest⟩

/-- The claim without the agent's part. -/
def bare (claim : DoneClaim) : DoneClaim :=
  { claim with deliveryContract := none, resultText := none }

/-- The host names of the loopback interface, as the parser writes them: lower case, the four
numbers of an IPv4 address, and IPv6 addresses in brackets. -/
def isLoopbackHost (hostname : String) : Bool :=
  let name := if hostname.endsWith "." then (hostname.dropEnd 1).toString else hostname
  let parts := split '.' name
  name = "localhost" || name.endsWith ".localhost" || name = "[::1]" ||
    name.startsWith "[::ffff:7f" ||
    (parts.length = 4 && parts.head? = some "127" && parts.all (·.toList.all Char.isDigit))

structure Proven (parse : UrlParser) (c : SmallSiteFixDeliveryContract) : Prop where
  kind : c.kind = some "small_site_fix"
  owner : accepted c.ownerAccepted
  url : ∃ u, (productionUrl c).bind parse = some u ∧ u.protocol = "https:" ∧
    isLoopbackHost u.hostname = false
  evidence : (evidenceItem c).isSome

/-- If the manager's text alone requires the contract, then so does the claim, and whatever else
the agent claims, it passes only with the contract. -/
def GateHolds (parse : UrlParser) (claim : DoneClaim) : Prop :=
  (requiresSmallSiteFixContract (bare claim)).1 → (requiresSmallSiteFixContract claim).1 ∧
    ∀ artifactPath repos probes,
      (verifyDoneClaims parse { claim with artifactPath, repos } probes).ok →
        ∃ c, claim.deliveryContract = some c ∧ Proven parse c

/-- The text as a whole is taken for work on the manager, and no contract is named. -/
def Waived (claim : DoneClaim) : Prop :=
  explicitContract claim = false ∧ managerSide (dispatchText claim)

/-- The contract passes, and its production URL is on the loopback interface. -/
def HidesLoopback (parse : UrlParser) (contract : Option SmallSiteFixDeliveryContract) : Prop :=
  missingParts parse contract = [] ∧
    ∃ u, (contract.bind productionUrl).bind parse = some u ∧ isLoopbackHost u.hostname

theorem dispatchText_bare (h : dispatchText (bare claim) ≠ "") :
    dispatchText claim = dispatchText (bare claim) ∨
      ∃ rest, dispatchText claim = dispatchText (bare claim) ++ "\n" ++ rest := by
  have hlower (s t : String) : toLowerCase (s ++ t) = toLowerCase s ++ toLowerCase t := by
    simp [toLowerCase]
  have hbreak : toLowerCase "\n" = "\n" := by decide
  simp only [dispatchText, bare, List.filterMap_cons, List.filterMap_nil, Option.filter_none] at h ⊢
  cases claim.resultText.filter (trim · ≠ "") with
  | none => exact .inl rfl
  | some result =>
    right
    refine ⟨toLowerCase result, ?_⟩
    generalize claim.subject.filter (trim · ≠ "") = subject at h ⊢
    generalize claim.bodyMarkdown.filter (trim · ≠ "") = body at h ⊢
    cases subject <;> cases body
    · simp [toLowerCase] at h
    all_goals simp [String.intercalate_cons_cons, hlower, hbreak, String.append_assoc]

theorem requires_of_bare (h : (requiresSmallSiteFixContract (bare claim)).1) :
    (requiresSmallSiteFixContract claim).1 ↔ ¬ Waived claim := by
  rw [requiresSmallSiteFixContract, Waived]
  cases hexplicit : explicitContract claim with
  | true => simp
  | false =>
    have hplain : explicitContract (bare claim) = false := rfl
    rw [requiresSmallSiteFixContract, hplain] at h
    by_cases hempty : dispatchText (bare claim) = ""
    · simp [hempty] at h
    have hbare : mentionsSmallSiteFix (dispatchText (bare claim)) ∧
        mentionsProtectedProject (dispatchText (bare claim)) := by
      rw [if_neg Bool.false_ne_true] at h
      dsimp only at h
      rw [if_neg hempty] at h
      split at h
      · cases h
      · exact Bool.and_eq_true_iff.mp h
    have hclaim : mentionsSmallSiteFix (dispatchText claim) ∧
        mentionsProtectedProject (dispatchText claim) ∧ dispatchText claim ≠ "" := by
      obtain hsame | ⟨rest, happend⟩ := dispatchText_bare hempty
      · rw [hsame]
        exact ⟨hbare.1, hbare.2, hempty⟩
      · obtain ⟨hsite, hproject⟩ := mentions_appended hbare.1 hbare.2 rest
        rw [happend]
        exact ⟨hsite, hproject, by simp⟩
    by_cases hside : managerSide (dispatchText claim) <;> simp [hclaim, hside]

theorem missingParts_eq_nil :
    missingParts parse contract = [] ↔ ∃ c, contract = some c ∧ c.kind = some "small_site_fix" ∧
      accepted c.ownerAccepted ∧ isProductionUrl parse (productionUrl c) ∧
        (evidenceItem c).isSome := by
  cases contract with
  | none => simp [missingParts]
  | some c => simp [missingParts, Option.isSome_iff_ne_none]

theorem isProductionUrl_iff :
    isProductionUrl parse value ↔ ∃ u, value.bind parse = some u ∧ u.protocol = "https:" ∧
      u.hostname ∉ ["localhost", "127.0.0.1", "::1"] := by
  rw [isProductionUrl]
  cases value.bind parse <;> simp

def talkedOut : DoneClaim where
  subject := some "Fix the finance site"
  resultText := some "a manager-side verifier"

end IdAgents.DispatchVerification
