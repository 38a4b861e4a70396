import IdAgents.Inbox.Projection
import Mathlib.Data.List.Induction

namespace IdAgents.Inbox
open JsText JsMap List

def ProjectedItem.stamp (now : String) (item : ProjectedItem) : ProjectedItem where
  row := { item.row with generatedAt := now }
  links := item.links
  audit := item.audit.map fun event => { event with ts := now }

variable (src : Sources)

theorem shadowItem_stamp (now now' : String) (file : ShadowFile) :
    shadowItem src now' file = (shadowItem src now file).map (·.stamp now') := by
  rw [shadowItem, shadowItem]
  cases file.doc with
  | none => rfl
  | some doc =>
    simp only [Option.bind_some, Option.map_map]
    rfl

theorem mdItems_stamp (now now' : String) (lines : List String) :
    mdItems src now' lines = (mdItems src now lines).map (·.stamp now') := by
  induction lines with
  | nil => rfl
  | cons line lines ih =>
    rw [mdItems, mdItems]
    split
    · exact ih
    · split
      · exact ih
      · split
        · rfl
        · rw [map_cons, ← ih]
          rfl

theorem projectedItems_stamp (now now' : String) :
    projectedItems src now' = (projectedItems src now).map (·.stamp now') := by
  have hshadow : shadowItems src now' = (shadowItems src now).map (·.stamp now') := by
    rw [shadowItems, shadowItems, map_filterMap]
    exact filterMap_congr fun file _ => shadowItem_stamp src now now' file
  rw [projectedItems, projectedItems, map_append, hshadow, mdItems_stamp src now now']

theorem mdItems_audit (now : String) (lines : List String) :
    ∀ item ∈ mdItems src now lines, item.audit = none := by
  induction lines with
  | nil => exact fun _ h => absurd h not_mem_nil
  | cons line lines ih =>
    intro item h
    rw [mdItems] at h
    split at h
    · exact ih item h
    · split at h
      · exact ih item h
      · split at h
        · exact absurd h not_mem_nil
        · rcases mem_cons.1 h with heq | h
          · rw [heq]
          · exact ih item h

theorem shadowItems_audit {src : Sources} (h : item ∈ shadowItems src now) : item.audit ≠ none := by
  obtain ⟨file, _, hitem⟩ := mem_filterMap.1 h
  obtain ⟨doc, _, hdoc⟩ := Option.bind_eq_some_iff.1 hitem
  obtain ⟨receivedAt, _, heq⟩ := Option.map_eq_some_iff.1 hdoc
  rw [← heq]
  exact Option.some_ne_none _

theorem projectedItems_quiet (now : String) :
    (projectedItems src now).filterMap (·.audit) = [] ↔ shadowItems src now = [] := by
  rw [filterMap_eq_nil_iff]
  constructor
  · intro h
    rw [eq_nil_iff_forall_not_mem]
    intro item hitem
    exact shadowItems_audit hitem (h item (mem_append_left _ hitem))
  · intro h item hitem
    rcases mem_append.1 hitem with hshadow | hmd
    · rw [h] at hshadow
      exact absurd hshadow not_mem_nil
    · exact mdItems_audit src now _ item hmd

def lastProjected (items : List ProjectedItem) (phid : String) : Option InboxItemRow :=
  ((items.filter fun item => item.row.inboxPhid = phid).getLast?).map (·.row)

structure Kept (t t' : InboxTables) : Prop where
  items : ∀ phid, t.items.has phid → t'.items.has phid
  links : ∀ link ∈ t.links, link ∈ t'.links

theorem Kept.refl (t : InboxTables) : Kept t t := ⟨fun _ h => h, fun _ h => h⟩

theorem Kept.trans (h : Kept t u) (h' : Kept u v) : Kept t v :=
  ⟨fun p hp => h'.items p (h.items p hp), fun l hl => h'.links l (h.links l hl)⟩

def Holds (t : InboxTables) (item : ProjectedItem) : Prop :=
  t.items.has item.row.inboxPhid ∧ ∀ link ∈ item.links, link ∈ t.links

theorem Holds.mono (h : Holds t item) (hk : Kept t t') : Holds t' item :=
  ⟨hk.items _ h.1, fun l hl => hk.links l (h.2 l hl)⟩

theorem has_set {d : Dict String InboxItemRow} :
    (d.set k row).has p = (decide (p = k) || d.has p) := by
  rw [Dict.has_eq, Dict.has_eq, Dict.get?_set]
  by_cases h : p = k <;> simp [h]

variable (links : List InboxLinkRow)
section
variable (t : InboxTables)

theorem upsertLinks_items : (links.foldl InboxTables.upsertLink t).items = t.items := by
  induction links generalizing t with
  | nil => rfl
  | cons link links ih => rw [foldl_cons, ih, InboxTables.upsertLink_items]

theorem mem_upsertLinks :
    l ∈ (links.foldl InboxTables.upsertLink t).links ↔ l ∈ t.links ∨ l ∈ links := by
  induction links generalizing t with
  | nil => simp
  | cons link links ih =>
    rw [foldl_cons, ih, InboxTables.mem_upsertLink, mem_cons, or_assoc]

theorem upsertLinks_of_mem {t : InboxTables}
    (h : ∀ link ∈ links, link ∈ t.links) : links.foldl InboxTables.upsertLink t = t := by
  induction links with
  | nil => rfl
  | cons link links ih =>
    rw [foldl_cons, InboxTables.upsertLink_of_mem (h link mem_cons_self)]
    exact ih fun l hl => h l (mem_cons_of_mem _ hl)
section
variable (item : ProjectedItem)

theorem projectItem_items : (projectItem t item).items = (t.upsertInboxItem item.row).items := by
  rw [projectItem]
  cases item.audit with
  | none => exact upsertLinks_items _ _
  | some e => exact upsertLinks_items _ _

theorem projectItem_links : (projectItem t item).links =
      (item.links.foldl InboxTables.upsertLink (t.upsertInboxItem item.row)).links := by
  rw [projectItem]
  cases item.audit <;> rfl

theorem projectItem_has (phid : String) : (projectItem t item).items.has phid =
      (decide (phid = item.row.inboxPhid) || t.items.has phid) := by
  rw [projectItem_items]
  exact has_set

theorem projectItem_kept : Kept t (projectItem t item) := by
  constructor
  · intro phid h
    simp [projectItem_has, h]
  · intro link h
    rw [projectItem_links, mem_upsertLinks]
    exact .inl h

theorem projectItem_holds : Holds (projectItem t item) item := by
  constructor
  · simp [projectItem_has]
  · intro link h
    rw [projectItem_links, mem_upsertLinks]
    exact .inr h

theorem projectItem_operatorFields (phid : String) : (projectItem t item).operatorFields phid =
      if phid = item.row.inboxPhid then some item.row.toOperatorFields else t.operatorFields phid := by
  rw [InboxTables.operatorFields, projectItem_items, InboxTables.upsertInboxItem, Dict.get?_set]
  split <;> rfl

end

end

variable (items : List ProjectedItem)
section
variable (t : InboxTables)

theorem projectItems_kept : Kept t (items.foldl projectItem t) := by
  induction items generalizing t with
  | nil => exact Kept.refl t
  | cons item items ih => exact (projectItem_kept t item).trans (ih _)

theorem projectItems_holds : ∀ item ∈ items, Holds (items.foldl projectItem t) item := by
  induction items generalizing t with
  | nil => exact fun _ h => absurd h not_mem_nil
  | cons first items ih =>
    intro item h
    rcases mem_cons.1 h with heq | h
    · subst heq
      exact (projectItem_holds t item).mono (projectItems_kept items _)
    · exact ih _ item h

theorem projectItems_operatorFields (phid : String) :
    (items.foldl projectItem t).operatorFields phid =
      ((lastProjected items phid).map (·.toOperatorFields)).or (t.operatorFields phid) := by
  induction items using reverseRecOn with
  | nil => rfl
  | append_singleton items item ih =>
    rw [foldl_append, foldl_cons, foldl_nil, projectItem_operatorFields]
    by_cases h : phid = item.row.inboxPhid
    · simp [lastProjected, h]
    · have h' : ¬ item.row.inboxPhid = phid := fun heq => h heq.symm
      rw [if_neg h, ih]
      simp [lastProjected, filter_append, h']

theorem projectItems_auditEvents :
    (items.foldl projectItem t).auditEvents = t.auditEvents ++ items.filterMap (·.audit) := by
  have hlinks : ∀ (links : List InboxLinkRow) (u : InboxTables),
      (links.foldl InboxTables.upsertLink u).auditEvents = u.auditEvents := by
    intro links
    induction links with
    | nil => exact fun _ => rfl
    | cons link links ih =>
      intro u
      rw [foldl_cons, ih, InboxTables.upsertLink]
      split <;> rfl
  induction items generalizing t with
  | nil => simp
  | cons item items ih =>
    rw [foldl_cons, ih, projectItem]
    cases haudit : item.audit with
    | none =>
      rw [filterMap_cons_none haudit]
      exact congrArg (· ++ _) (hlinks item.links _)
    | some e =>
      rw [filterMap_cons_some haudit]
      have he := hlinks item.links (t.upsertInboxItem item.row)
      simp only [Option.elim_some, InboxTables.appendAuditEvent, he]
      exact append_assoc _ _ _

theorem projectItems_again {items : List ProjectedItem} {t : InboxTables}
    (h : ∀ item ∈ items, Holds t item) :
    (∀ phid, (items.foldl projectItem t).items.has phid = t.items.has phid) ∧
      (items.foldl projectItem t).links = t.links := by
  induction items generalizing t with
  | nil => exact ⟨fun _ => rfl, rfl⟩
  | cons item items ih =>
    have hitem := h item mem_cons_self
    have hkept := projectItem_kept t item
    obtain ⟨hhas, hlinks⟩ := ih fun i hi => (h i (mem_cons_of_mem _ hi)).mono hkept
    constructor
    · intro phid
      rw [foldl_cons, hhas, projectItem_has]
      by_cases heq : phid = item.row.inboxPhid
      · rw [heq, hitem.1]
        simp
      · simp [heq]
    · have hmem : ∀ link ∈ item.links, link ∈ (t.upsertInboxItem item.row).links := hitem.2
      rw [foldl_cons, hlinks, projectItem_links, upsertLinks_of_mem _ hmem]
      rfl

theorem projectItems_routes : (items.foldl projectItem t).routingDecisions = t.routingDecisions ∧
      (items.foldl projectItem t).policyViolations = t.policyViolations := by
  have hlinks : ∀ (links : List InboxLinkRow) (u : InboxTables),
      (links.foldl InboxTables.upsertLink u).routingDecisions = u.routingDecisions ∧
        (links.foldl InboxTables.upsertLink u).policyViolations = u.policyViolations := by
    intro links
    induction links with
    | nil => exact fun _ => ⟨rfl, rfl⟩
    | cons link links ih =>
      intro u
      rw [foldl_cons]
      have hu := ih (u.upsertLink link)
      have hone : (u.upsertLink link).routingDecisions = u.routingDecisions ∧
          (u.upsertLink link).policyViolations = u.policyViolations := by
        rw [InboxTables.upsertLink]
        split <;> exact ⟨rfl, rfl⟩
      exact ⟨hu.1.trans hone.1, hu.2.trans hone.2⟩
  induction items generalizing t with
  | nil => exact ⟨rfl, rfl⟩
  | cons item items ih =>
    have hitem : (projectItem t item).routingDecisions = t.routingDecisions ∧
        (projectItem t item).policyViolations = t.policyViolations := by
      have hu := hlinks item.links (t.upsertInboxItem item.row)
      rw [projectItem]
      cases item.audit <;> exact hu
    have hrest := ih (projectItem t item)
    rw [foldl_cons]
    exact ⟨hrest.1.trans hitem.1, hrest.2.trans hitem.2⟩

end

end IdAgents.Inbox
