import IdAgents.ReportPublishing.Candidate

namespace IdAgents.ReportPublishing
open JsText List

theorem bind_ok {x : Except ε α} {f : α → Except ε β} (h : x >>= f = .ok b) :
    ∃ a, x = .ok a ∧ f a = .ok b := by
  cases x with
  | error e => cases h
  | ok a => exact ⟨a, rfl, h⟩

theorem bind_of_ok {x : Except ε α} {f : α → Except ε β} (h : x = .ok a) : x >>= f = f a := by
  rw [h]
  rfl

theorem require_of (h : ok = true) : require ok error = .ok () := by rw [require, if_pos h]

theorem require_ok (h : require ok error = .ok u) : ok = true := by
  cases ok with
  | false => cases h
  | true => rfl

section
variable {unicode : Unicode} {max : Nat} {field : String}

def Settled (unicode : Unicode) (max : Nat) (s : String) : Prop :=
  trim (unicode.nfkc s) = s ∧ plain unicode max s

theorem Settled.text (h : Settled unicode max s) (field : String) :
    text unicode (some (.str s)) field max = .ok s := by
  simp only [ReportPublishing.text, h.1, h.2, if_true]

theorem text_ok (h : text unicode value field max = .ok s) : Settled unicode max s := by
  unfold text at h
  split at h
  · next v =>
    dsimp only at h
    split at h
    · next hplain =>
      obtain rfl := Except.ok.inj h
      have hnormal : unicode.nfkc (trim (unicode.nfkc v)) = trim (unicode.nfkc v) := by
        apply unicode.nfkc_infix v
        rw [trim, String.toList_ofList]
        exact trimChars_infix _
      exact ⟨by rw [hnormal, trim_trim], hplain⟩
    · cases h
  · cases h

theorem trustedText_ok (h : trustedText unicode (some (.str v)) field max = .ok s) :
    s = v ∧ trim v = v ∧ plain unicode max v := by
  change (if trim v = v ∧ plain unicode max v then Except.ok v
    else Except.error (invalid field)) = _ at h
  split at h
  · next hv => exact ⟨(Except.ok.inj h).symm, hv⟩
  · cases h

theorem trustedText_of_plain (htrim : trim s = s) (hplain : plain unicode max s) (field : String) :
    trustedText unicode (some (.str s)) field max = .ok s := by
  simp only [trustedText, htrim, hplain, and_self, if_true]

theorem trustedContentHash_ok (h : trustedContentHash (some (.str v)) = .ok s) :
    trustedContentHash (some (.str s)) = .ok s := by
  have hv := h
  change (if isContentHash v then Except.ok v else Except.error _) = _ at h
  split at h
  · obtain rfl := Except.ok.inj h
    exact hv
  · cases h

theorem stableRef_ok (h : stableRef unicode value field max = .ok s) :
    ∀ name, stableRef unicode (some (.str s)) name max = .ok s := by
  intro name
  obtain ⟨ref, htext, h⟩ := bind_ok h
  obtain ⟨_, hcolon, h⟩ := bind_ok h
  obtain rfl := Except.ok.inj h
  rw [stableRef, (text_ok htext).text]
  simp only [bind, Except.bind, require, require_ok hcolon, if_true]
  rfl

theorem strictIso_ok (h : strictIso unicode value field = .ok s) :
    ∀ name, strictIso unicode (some (.str s)) name = .ok s := by
  intro name
  obtain ⟨candidate, htext, h⟩ := bind_ok h
  obtain ⟨_, hiso, h⟩ := bind_ok h
  obtain rfl := Except.ok.inj h
  have hname : checkIso candidate name = .ok () := by
    unfold checkIso at hiso ⊢
    split at hiso
    · cases hiso
    · next fields _ =>
      cases hdate : fields.date with
      | none =>
        rw [hdate] at hiso
        cases hiso
      | some t =>
        rw [hdate] at hiso
        simp only [require, require_ok hiso, if_true]
  rw [strictIso, (text_ok htext).text]
  simp only [bind, Except.bind, hname]
  rfl

theorem optionalText_ok (h : optionalText unicode value field max = .ok s) :
    ∀ name, optionalText unicode (some (s.elim Json.null .str)) name max = .ok s := by
  intro name
  unfold optionalText at h
  split at h
  · obtain rfl := Except.ok.inj h
    rfl
  · obtain rfl := Except.ok.inj h
    rfl
  · next v _ =>
    cases htext : text unicode (some v) field max with
    | error e =>
      rw [htext] at h
      cases h
    | ok t =>
      rw [htext] at h
      obtain rfl := Except.ok.inj h
      change (text unicode (some (.str t)) name max).map some = _
      rw [(text_ok htext).text]
      rfl

theorem optionalText_field (h : optionalText unicode value field max = .ok s) (name : String) :
    optionalText unicode (s.map Json.str) name max = .ok s := by
  cases s with
  | none => rfl
  | some t => exact optionalText_ok h name

theorem optionalIso_field (h : optionalIso unicode value field = .ok s) (name : String) :
    optionalIso unicode (s.map Json.str) name = .ok s := by
  cases s with
  | none => rfl
  | some t =>
    unfold optionalIso at h
    split at h
    · cases h
    · cases h
    · next v _ =>
      cases hiso : strictIso unicode (some v) field with
      | error e =>
        rw [hiso] at h
        cases h
      | ok u =>
        rw [hiso] at h
        obtain rfl : u = t := Option.some.inj (Except.ok.inj h)
        change (strictIso unicode (some (.str u)) name).map some = _
        rw [strictIso_ok hiso name]
        rfl

theorem whenPresent_ok
    (h : whenPresent value (optionalText unicode · field max) = .ok ref) (name : String) :
    whenPresent (ref.map fun r => r.elim Json.null .str) (optionalText unicode · name max) =
      .ok ref := by
  unfold whenPresent at h
  split at h
  · obtain rfl := Except.ok.inj h
    rfl
  · next v =>
    dsimp only at h
    cases htext : optionalText unicode (some v) field max with
    | error e =>
      rw [htext] at h
      cases h
    | ok t =>
      rw [htext] at h
      obtain rfl := Except.ok.inj h
      change (optionalText unicode (some (t.elim Json.null .str)) name max).map some = _
      rw [optionalText_ok htext name]
      rfl

theorem natOf_toString (n : Nat) : natOf (some (.num (toString n))) = some n := by
  have hdigits : Nat.ofDigitChars 10 (toString n).toList 0 = n := by
    rw [Nat.toString_eq_repr, Nat.toList_repr, Nat.ofDigitChars_ten_toDigits]
  simp only [natOf, hdigits, if_true]

theorem ofText?_ok
    (h : (ReportAttentionRequest.ofText? requestText).elim (Except.error error) Except.ok =
      .ok request) : request.text = requestText := by
  cases hfound : ReportAttentionRequest.ofText? requestText with
  | none =>
    rw [hfound] at h
    cases h
  | some found =>
    rw [hfound] at h
    obtain rfl := Except.ok.inj h
    simpa using find?_some hfound

theorem ofText?_text (request : ReportAttentionRequest) :
    ReportAttentionRequest.ofText? request.text = some request := by
  cases request <;> decide

theorem Attention.fields (a : Attention) :
    exactKeys a.toJson ["request", requestAttention.reasonCode, "reason", requestAttention.reviewBy,
        requestAttention.expiresAt] requestAttention.unknownField = .ok () ∧
      a.toJson.field? "request" = some (.str a.request.text) ∧
      a.toJson.field? requestAttention.reasonCode = a.reasonCode.map .str ∧
      a.toJson.field? "reason" = a.reason.map .str ∧
      a.toJson.field? requestAttention.reviewBy = a.reviewBy.map .str ∧
      a.toJson.field? requestAttention.expiresAt = a.expiresAt.map .str := by
  obtain ⟨request, reasonCode, reason, reviewBy, expiresAt⟩ := a
  cases reasonCode <;> cases reason <;> cases reviewBy <;> cases expiresAt <;>
    exact ⟨rfl, rfl, rfl, rfl, rfl, rfl⟩

theorem Attention.record_toJson (a : Attention) (error : String) :
    record (some a.toJson) error = .ok a.toJson := rfl

theorem parseAttention_ok {schema : AttentionSchema} {value : Option Json} {a : Attention}
    (h : parseAttention unicode schema value = .ok a) :
    parseAttention unicode requestAttention (some a.toJson) = .ok a := by
  obtain ⟨attention, _, h⟩ := bind_ok h
  obtain ⟨_, _, h⟩ := bind_ok h
  obtain ⟨requestText, htext, h⟩ := bind_ok h
  obtain ⟨request, hrequest, h⟩ := bind_ok h
  obtain ⟨reasonCode, hcode, h⟩ := bind_ok h
  obtain ⟨reason, hreason, h⟩ := bind_ok h
  obtain ⟨reviewBy, hreview, h⟩ := bind_ok h
  obtain ⟨expiresAt, hexpires, h⟩ := bind_ok h
  obtain ⟨_, hconsistent, h⟩ := bind_ok h
  obtain rfl := Except.ok.inj h
  obtain rfl := ofText?_ok hrequest
  obtain ⟨hkeys, hf₁, hf₂, hf₃, hf₄, hf₅⟩ :=
    Attention.fields ⟨request, reasonCode, reason, reviewBy, expiresAt⟩
  have hkind : (ReportAttentionRequest.ofText? request.text).elim
      (Except.error requestAttention.kindInvalid) Except.ok = .ok request := by
    rw [ofText?_text]
    rfl
  rw [parseAttention, bind_of_ok (Attention.record_toJson _ _), bind_of_ok hkeys, hf₁,
    bind_of_ok ((text_ok htext).text _),
    bind_of_ok hkind, hf₂, bind_of_ok (optionalText_field hcode _), hf₃,
    bind_of_ok (optionalText_field hreason _), hf₄, bind_of_ok (optionalIso_field hreview _), hf₅,
    bind_of_ok (optionalIso_field hexpires _)]
  rw [bind_of_ok (require_of (require_ok hconsistent))]
  rfl

structure Readable (unicode : Unicode) (c : AgentReportCandidate) : Prop where
  title : ∀ s, c.title = some s → Settled unicode MAX_TITLE_LENGTH s
  reportRef : ∀ s, c.reportRef = some s →
    ∀ name, stableRef unicode (some (.str s)) name MAX_REF_LENGTH = .ok s
  projectRef : ∀ name, whenPresent (c.projectRef.map fun r => r.elim Json.null .str)
    (optionalText unicode · name MAX_REF_LENGTH) = .ok c.projectRef
  familyRef : ∀ name, whenPresent (c.familyRef.map fun r => r.elim Json.null .str)
    (optionalText unicode · name MAX_REF_LENGTH) = .ok c.familyRef
  attention : parseAttention unicode requestAttention (some c.attention.toJson) = .ok c.attention

theorem whenPresent_some {read : Option Json → Except String α}
    (h : whenPresent value read = .ok (some a)) : ∃ v, value = some v ∧ read (some v) = .ok a := by
  cases value with
  | none => cases h
  | some v =>
    refine ⟨v, rfl, ?_⟩
    cases hread : read (some v) with
    | error e =>
      rw [whenPresent, hread] at h
      cases h
    | ok b =>
      rw [whenPresent, hread] at h
      cases h
      rfl

theorem parseAgentReportCandidate_ok {value : Json}
    (h : parseAgentReportCandidate unicode value = .ok c) :
    Readable unicode c ∧ (c.title.isSome ↔ (value.field? "title").isSome) := by
  obtain ⟨root, hroot, h⟩ := bind_ok h
  obtain ⟨_, _, h⟩ := bind_ok h
  obtain ⟨_, _, h⟩ := bind_ok h
  obtain ⟨attention, hattention, h⟩ := bind_ok h
  obtain ⟨title, htitle, h⟩ := bind_ok h
  obtain ⟨reportRef, hreport, h⟩ := bind_ok h
  obtain ⟨projectRef, hproject, h⟩ := bind_ok h
  obtain ⟨familyRef, hfamily, h⟩ := bind_ok h
  obtain rfl := Except.ok.inj h
  constructor
  · refine ⟨?_, ?_, whenPresent_ok hproject, whenPresent_ok hfamily, parseAttention_ok hattention⟩
    · rintro s rfl
      obtain ⟨v, _, htext⟩ := whenPresent_some htitle
      exact text_ok htext
    · rintro s rfl
      obtain ⟨v, _, href⟩ := whenPresent_some hreport
      exact stableRef_ok href
  · have hvalue : root = value := by
      unfold record at hroot
      split at hroot
      · next hobj => rw [← Except.ok.inj hroot, ← Option.some.inj hobj]
      · cases hroot
    subst hvalue
    cases hfield : root.field? "title" with
    | none =>
      rw [hfield] at htitle
      cases htitle
      simp
    | some v =>
      rw [hfield] at htitle
      cases htext : text unicode (some v) "title" MAX_TITLE_LENGTH with
      | error e =>
        rw [whenPresent, htext] at htitle
        cases htitle
      | ok s =>
        rw [whenPresent, htext] at htitle
        cases htitle
        simp

def isVisible (c : Char) : Bool := 33 ≤ c.toNat && c.toNat < 127

theorem isSpace_of_visible (h : isVisible c) : isSpace c = false := by
  simp only [isVisible, Bool.and_eq_true, decide_eq_true_eq] at h
  by_contra hspace
  rw [Bool.not_eq_false] at hspace
  simp only [isSpace, Bool.or_eq_true, decide_eq_true_eq, Bool.and_eq_true, Char.le_def] at hspace
  rcases hspace with
    ((((((((((((((rfl | rfl) | rfl) | rfl) | rfl) | rfl) | rfl) | rfl) | ⟨hlow, _⟩) |
      rfl) | rfl) | rfl) | rfl) | rfl) | rfl)
  all_goals first
    | (have hlow' : 8192 ≤ c.toNat := hlow; omega)
    | (revert h; decide)

theorem hexUpper_visible (h : n < 16) : isVisible (hexUpper n) := by
  revert n
  decide

theorem isUnescaped_visible (h : isUnescaped c) : isVisible c := by
  rw [isUnescaped, Bool.or_eq_true] at h
  rcases h with h | h
  · change ((decide (c.val ≥ 'A'.val ∧ c.val ≤ 'Z'.val) ||
      (decide (c.val ≥ 'a'.val) && decide (c.val ≤ 'z'.val))) ||
      (decide (c.val ≥ '0'.val) && decide (c.val ≤ '9'.val))) = true at h
    simp only [Bool.or_eq_true, Bool.and_eq_true, decide_eq_true_eq, ge_iff_le,
      UInt32.le_iff_toNat_le] at h
    change ((65 ≤ c.toNat ∧ c.toNat ≤ 90) ∨ (97 ≤ c.toNat ∧ c.toNat ≤ 122)) ∨
      (48 ≤ c.toNat ∧ c.toNat ≤ 57) at h
    simp only [isVisible, Bool.and_eq_true, decide_eq_true_eq]
    omega
  · have hmarks : "-_.!~*'()".toList.all isVisible := by decide +kernel
    exact all_eq_true.mp hmarks c (contains_iff_mem.mp h)

theorem encodeURIComponent_visible (s : String) :
    ∀ c ∈ (encodeURIComponent s).toList, isVisible c := by
  intro c hc
  rw [encodeURIComponent, String.toList_ofList, mem_flatMap] at hc
  obtain ⟨d, _, hc⟩ := hc
  split at hc
  · next hd =>
    obtain rfl := mem_singleton.mp hc
    exact isUnescaped_visible hd
  · obtain ⟨b, _, hc⟩ := mem_flatMap.mp hc
    have hb : b.toNat < 256 := b.toNat_lt
    simp only [encodeByte, mem_cons, not_mem_nil, or_false] at hc
    rcases hc with rfl | rfl | rfl
    · rfl
    · exact hexUpper_visible (by omega)
    · exact hexUpper_visible (by omega)

theorem scheme_visible : "kapelle-dispatch://".toList.all isVisible := by decide +kernel

theorem scheme_ne_empty : "kapelle-dispatch://" ≠ "" := by decide +kernel

theorem sourceRefOf_visible (dispatchId : String) :
    ∀ c ∈ (sourceRefOf dispatchId).toList, isVisible c := by
  unfold sourceRefOf
  rw [String.toList_append, forall_mem_append]
  exact ⟨all_eq_true.mp scheme_visible, encodeURIComponent_visible dispatchId⟩

theorem trim_of_visible (h : ∀ c ∈ s.toList, isVisible c) : trim s = s := by
  have hself : ∀ cs : List Char, (∀ c ∈ cs, isVisible c) → cs.dropWhile isSpace = cs := by
    intro cs hcs
    apply dropWhile_eq_self
    intro c hc
    exact isSpace_of_visible (hcs c (mem_of_mem_head? hc))
  rw [trim, trimChars, hself _ h, hself _ fun c hc => h c (mem_reverse.mp hc),
    reverse_reverse, String.ofList_toList]

theorem sourceRefOf_admitted (dispatchId field : String) :
    trustedText unicode (some (.str (sourceRefOf dispatchId))) field MAX_REF_LENGTH =
      if (sourceRefOf dispatchId).utf8ByteSize ≤ MAX_REF_LENGTH then .ok (sourceRefOf dispatchId)
      else .error (invalid field) := by
  have hvisible := sourceRefOf_visible dispatchId
  have hcontrol : (sourceRefOf dispatchId).toList.any unicode.isControl = false := by
    rw [any_eq_false]
    intro c hc
    have hc' := hvisible c hc
    simp only [isVisible, Bool.and_eq_true, decide_eq_true_eq] at hc'
    rw [unicode.printable c (by omega) hc'.2]
    exact Bool.false_ne_true
  have hne : sourceRefOf dispatchId ≠ "" := by
    unfold sourceRefOf
    rw [ne_eq, String.append_eq_empty_iff]
    exact fun h => scheme_ne_empty h.1
  have hplain : (plain unicode MAX_REF_LENGTH (sourceRefOf dispatchId) = true) ↔
      (sourceRefOf dispatchId).utf8ByteSize ≤ MAX_REF_LENGTH := by
    simp [plain, hcontrol, hne]
  simp only [trustedText, trim_of_visible hvisible, hplain, true_and]

theorem sourceRefOf_scheme (dispatchId : String) :
    "kapelle-dispatch://".toList.isPrefixOf (sourceRefOf dispatchId).toList := by
  unfold sourceRefOf
  rw [String.toList_append, isPrefixOf_iff_prefix]
  exact prefix_append _ _

theorem ReportPromotionRequest.fields (r : ReportPromotionRequest) :
    exactKeys r.toJson ["schemaVersion", "contentPath", "title", "reportRef", "sourceRef",
        "expectedContentHash", "expectedByteSize", "projectRef", "familyRef", "producer",
        "attention", "occurredAt"] "REPORT_PROMOTION_REQUEST_UNKNOWN_FIELD" = .ok () ∧
      r.toJson.field? "schemaVersion" = some REQUEST_SCHEMA_VERSION ∧
      r.toJson.field? "contentPath" = some (.str r.contentPath) ∧
      r.toJson.field? "title" = some (.str r.title) ∧
      r.toJson.field? "reportRef" = some (.str r.reportRef) ∧
      r.toJson.field? "sourceRef" = some (.str r.sourceRef) ∧
      r.toJson.field? "expectedContentHash" = some (.str r.expectedContentHash) ∧
      r.toJson.field? "expectedByteSize" = some (.num (toString r.expectedByteSize)) ∧
      r.toJson.field? "projectRef" = r.projectRef.map (fun ref => ref.elim Json.null .str) ∧
      r.toJson.field? "familyRef" = r.familyRef.map (fun ref => ref.elim Json.null .str) ∧
      r.toJson.field? "producer" = some (.obj producerFields) ∧
      r.toJson.field? "attention" = some r.attention.toJson ∧
      r.toJson.field? "occurredAt" = some (.str r.occurredAt) := by
  obtain ⟨contentPath, title, reportRef, sourceRef, hash, byteSize, projectRef, familyRef,
    attention, occurredAt⟩ := r
  cases projectRef <;> cases familyRef <;>
    exact ⟨rfl, rfl, rfl, rfl, rfl, rfl, rfl, rfl, rfl, rfl, rfl, rfl, rfl⟩

theorem ReportPromotionRequest.record_toJson (r : ReportPromotionRequest) (error : String) :
    record (some r.toJson) error = .ok r.toJson := rfl

theorem producer_ok :
    (∀ error, record (some (.obj producerFields)) error = .ok (.obj producerFields)) ∧
      (∀ error, exactKeys (.obj producerFields) ["kind", "id", "label"] error = .ok ()) ∧
      (producerFields.all fun f => (Json.obj producerFields).field? f.1 = some f.2) :=
  ⟨fun _ => rfl, fun _ => rfl, rfl⟩

theorem Survives.settled {r : ReportPromotionRequest} (h : Survives unicode r) :
    Settled unicode MAX_TITLE_LENGTH r.title ∧ r.sourceRef.utf8ByteSize ≤ MAX_REF_LENGTH := by
  obtain ⟨_, _, _, hf₃, _, hf₅, _⟩ := r.fields
  obtain ⟨root, hroot, h⟩ := bind_ok h
  obtain rfl := Except.ok.inj (hroot.symm.trans (r.record_toJson _))
  obtain ⟨_, _, h⟩ := bind_ok h
  obtain ⟨_, _, h⟩ := bind_ok h
  obtain ⟨contentPath, _, h⟩ := bind_ok h
  obtain ⟨_, _, h⟩ := bind_ok h
  obtain ⟨sourceRef, hsource, h⟩ := bind_ok h
  obtain ⟨_, _, h⟩ := bind_ok h
  obtain ⟨contentHash, _, h⟩ := bind_ok h
  obtain ⟨byteSize, _, h⟩ := bind_ok h
  obtain ⟨producer, _, h⟩ := bind_ok h
  obtain ⟨_, _, h⟩ := bind_ok h
  obtain ⟨_, _, h⟩ := bind_ok h
  obtain ⟨attention, _, h⟩ := bind_ok h
  obtain ⟨title, htitle, h⟩ := bind_ok h
  obtain ⟨reportRef, _, h⟩ := bind_ok h
  obtain ⟨projectRef, _, h⟩ := bind_ok h
  obtain ⟨familyRef, _, h⟩ := bind_ok h
  obtain ⟨occurredAt, _, h⟩ := bind_ok h
  have hr := Except.ok.inj h
  constructor
  · have hname : title = r.title := by rw [← hr]
    rw [← hname]
    exact text_ok htitle
  · rw [hf₅] at hsource
    obtain ⟨_, _, hplain⟩ := trustedText_ok hsource
    simp only [plain, Bool.and_eq_true, decide_eq_true_eq] at hplain
    exact hplain.1.2

theorem survives_of {r : ReportPromotionRequest}
    (hpath : trustedText unicode (some (.str r.contentPath)) "contentPath" 4000 = .ok r.contentPath)
    (hmarkdown : isMarkdownPath r.contentPath)
    (hsource : trustedText unicode (some (.str r.sourceRef)) "sourceRef" MAX_REF_LENGTH =
      .ok r.sourceRef) (hscheme : "kapelle-dispatch://".toList.isPrefixOf r.sourceRef.toList)
    (hhash : trustedContentHash (some (.str r.expectedContentHash)) = .ok r.expectedContentHash)
    (hsize : isByteSize r.expectedByteSize)
    (hattention : parseAttention unicode requestAttention (some r.attention.toJson) =
      .ok r.attention) (htitle : Settled unicode MAX_TITLE_LENGTH r.title)
    (href : stableRef unicode (some (.str r.reportRef)) "reportRef" MAX_REF_LENGTH =
      .ok r.reportRef) (hproject : whenPresent (r.projectRef.map fun ref => ref.elim Json.null .str)
      (optionalText unicode · "projectRef" MAX_REF_LENGTH) = .ok r.projectRef)
    (hfamily : whenPresent (r.familyRef.map fun ref => ref.elim Json.null .str)
      (optionalText unicode · "familyRef" MAX_REF_LENGTH) = .ok r.familyRef)
    (hoccurred : strictIso unicode (some (.str r.occurredAt)) "occurredAt" = .ok r.occurredAt) :
    Survives unicode r := by
  obtain ⟨hkeys, hf₁, hf₂, hf₃, hf₄, hf₅, hf₆, hf₇, hf₈, hf₉, hf₁₀, hf₁₁, hf₁₂⟩ := r.fields
  have hbytes : ((natOf (some (.num (toString r.expectedByteSize)))).filter isByteSize).elim
      (Except.error "REPORT_PROMOTION_REQUEST_CONTENT_SIZE_INVALID") Except.ok =
        .ok r.expectedByteSize := by
    rw [natOf_toString, Option.filter_some, if_pos hsize]
    rfl
  rw [Survives, parseReportPromotionRequest, bind_of_ok (r.record_toJson _), bind_of_ok hkeys, hf₁,
    bind_of_ok (require_of (by simp)), hf₂, bind_of_ok hpath, bind_of_ok (require_of hmarkdown),
    hf₅, bind_of_ok hsource, bind_of_ok (require_of hscheme), hf₆, bind_of_ok hhash, hf₇,
    bind_of_ok hbytes, hf₁₀, bind_of_ok (producer_ok.1 _), bind_of_ok (producer_ok.2.1 _),
    bind_of_ok (require_of producer_ok.2.2), hf₁₁, bind_of_ok hattention, hf₃,
    bind_of_ok (htitle.text _), hf₄, bind_of_ok href, hf₈, bind_of_ok hproject, hf₉,
    bind_of_ok hfamily, hf₁₂, bind_of_ok hoccurred]
  rfl

end

def Readmissible (unicode : Unicode) (candidate : Json) (context : CandidateContext) : Prop :=
  ((candidate.field? "title").isSome ∨
    trim (unicode.nfkc context.defaultTitle) = context.defaultTitle) ∧
  (sourceRefOf context.dispatchId).utf8ByteSize ≤ MAX_REF_LENGTH

/-- A request that was built is admitted again, as it was, exactly when it is readmissible. -/
theorem survives_iff (unicode : Unicode) (candidate : Json) (context : CandidateContext)
    (r : ReportPromotionRequest)
    (h : buildReportPromotionRequest unicode candidate context = .ok r) :
    Survives unicode r ↔ Readmissible unicode candidate context := by
  obtain ⟨c, hcandidate, h⟩ := bind_ok h
  obtain ⟨dispatchId, hdispatch, h⟩ := bind_ok h
  obtain ⟨artifactPath, hpath, h⟩ := bind_ok h
  obtain ⟨contentHash, hhash, h⟩ := bind_ok h
  obtain ⟨_, hsize, h⟩ := bind_ok h
  obtain ⟨occurredAt, hoccurred, h⟩ := bind_ok h
  obtain ⟨title, htitle, h⟩ := bind_ok h
  obtain ⟨reportRef, href, h⟩ := bind_ok h
  obtain rfl := Except.ok.inj h
  obtain ⟨hreadable, hgiven⟩ := parseAgentReportCandidate_ok hcandidate
  obtain ⟨hdispatchId, _, _⟩ := trustedText_ok hdispatch
  obtain ⟨hartifact, hpathTrim, hpathPlain⟩ := trustedText_ok hpath
  subst hdispatchId hartifact
  have hadmitted := context.artifact.admitted
  have hreport : ∀ name, stableRef unicode (some (.str reportRef)) name MAX_REF_LENGTH =
      .ok reportRef := by
    cases hc : c.reportRef with
    | none =>
      rw [hc] at href
      exact stableRef_ok href
    | some ref =>
      rw [hc] at href
      obtain rfl := Except.ok.inj href
      exact hreadable.reportRef ref hc
  have hdefault : Settled unicode MAX_TITLE_LENGTH title ↔ (candidate.field? "title").isSome ∨
      trim (unicode.nfkc context.defaultTitle) = context.defaultTitle := by
    rw [← hgiven]
    cases hc : c.title with
    | none =>
      rw [hc] at htitle
      obtain ⟨rfl, _, hplain⟩ := trustedText_ok htitle
      simp [Settled, hplain]
    | some given =>
      rw [hc] at htitle
      obtain rfl := Except.ok.inj htitle
      simp [hreadable.title given hc]
  rw [Readmissible, ← hdefault]
  constructor
  · exact Survives.settled
  · rintro ⟨hsettled, hshort⟩
    apply survives_of
    · exact trustedText_of_plain hpathTrim hpathPlain _
    · exact hadmitted
    · rw [sourceRefOf_admitted, if_pos hshort]
    · exact sourceRefOf_scheme _
    · exact trustedContentHash_ok hhash
    · exact require_ok hsize
    · exact hreadable.attention
    · exact hsettled
    · exact hreport _
    · exact hreadable.projectRef _
    · exact hreadable.familyRef _
    · exact strictIso_ok hoccurred _

def ligatures : Unicode where
  nfkc s := String.ofList (s.toList.flatMap fun c => if c = 'ﬁ' then ['f', 'i'] else [c])
  isControl c := c.toNat < 32
  nfkc_infix s t h := by
    have hfree : 'ﬁ' ∉ t.toList := by
      intro hmem
      have hin := h.subset hmem
      rw [String.toList_ofList, List.mem_flatMap] at hin
      obtain ⟨c, _, hc⟩ := hin
      split at hc
      · revert hc
        decide
      · next hne => exact hne (List.mem_singleton.mp hc).symm
    have hself : t.toList.flatMap (fun c => if c = 'ﬁ' then ['f', 'i'] else [c]) = t.toList := by
      have hsingle : ∀ c ∈ t.toList, (if c = 'ﬁ' then ['f', 'i'] else [c]) = [c] := by
        intro c hc
        rw [if_neg]
        rintro rfl
        exact hfree hc
      rw [List.flatMap_congr hsingle, List.flatMap_singleton']
    rw [hself, String.ofList_toList]
  printable c h _ := by
    rw [decide_eq_false_iff_not]
    omega

def untitled : Json :=
  .obj [("schema_version", .str "report-candidate.v1"),
    ("attention", .obj [("request", .str "READ")])]

def ligatureContext (defaultTitle : String) : CandidateContext where
  dispatchId := "phid:disp-1"
  artifact := ⟨"/srv/report.md",
    "0123456789abcdef0123456789abcdef0123456789abcdef0123456789abcdef", 12, by decide +kernel⟩
  defaultTitle := defaultTitle
  occurredAt := "2026-06-02T10:00:00.000Z"

def ligatureRequest (title : String) : ReportPromotionRequest where
  contentPath := "/srv/report.md"
  title := title
  reportRef := "report:dispatch:phid:disp-1"
  sourceRef := "kapelle-dispatch://phid%3Adisp-1"
  expectedContentHash := "0123456789abcdef0123456789abcdef0123456789abcdef0123456789abcdef"
  expectedByteSize := 12
  projectRef := none
  familyRef := none
  attention := ⟨.read, none, none, none, none⟩
  occurredAt := "2026-06-02T10:00:00.000Z"

/-- The default title is stored as it is and comes back normalized. -/
theorem ligature_not_survives :
    buildReportPromotionRequest ligatures untitled (ligatureContext "ﬁnal report") =
        .ok (ligatureRequest "ﬁnal report") ∧
      ¬ Survives ligatures (ligatureRequest "ﬁnal report") := by
  constructor
  · rfl
  · intro h
    have htitle : trim (ligatures.nfkc "ﬁnal report") ≠ "ﬁnal report" := by decide +kernel
    exact htitle h.settled.1.1

theorem plain_title_survives : Survives ligatures (ligatureRequest "final report") ↔
    Readmissible ligatures untitled (ligatureContext "final report") :=
  survives_iff ligatures untitled (ligatureContext "final report")
    (ligatureRequest "final report") rfl

end IdAgents.ReportPublishing
