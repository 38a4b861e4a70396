import IdAgents.Inbox.Passes
import Mathlib.Data.List.Chain

namespace IdAgents.Inbox
open JsText JsMap List Option

structure FileLine where
  id : Nat
  text : String

structure FileVersion where
  now : String
  lines : List FileLine

def entryOf (text : String) : Option ParsedInboxLine :=
  if isBucketLine text then none else parseInboxMdLine text

def FileVersion.texts (v : FileVersion) : List String := v.lines.map (·.text)

def FileVersion.openTexts (v : FileVersion) : List String :=
  v.texts.filter fun text => (entryOf text).any (!·.checked)
section
variable (src : Sources)

def projectInboxMd (t : InboxTables) (v : FileVersion) : InboxTables :=
  (mdItems src v.now v.texts).foldl projectItem t

def projectVersions (t : InboxTables) (versions : List FileVersion) : InboxTables :=
  versions.foldl (projectInboxMd src) t

inductive EditStep : String → String → Prop where
  | checkOff (rest : String) : EditStep ("- [ ]" ++ rest) ("- [x]" ++ rest)
  | resolve (text resolution : String) : EditStep text (text ++ " → " ++ resolution)

structure Edited (text text' : String) : Prop where
  edits : Relation.TransGen EditStep text text'
  before : (entryOf text).isSome
  after : (entryOf text').isSome

def Follows (v w : FileVersion) : Prop :=
  ∀ l ∈ v.lines, ∃ m ∈ w.lines, m.id = l.id ∧ (m.text = l.text ∨ Edited l.text m.text)

structure History (versions : List FileVersion) : Prop where
  ids : ∀ v ∈ versions, (v.lines.map (·.id)).Nodup
  steps : versions.IsChain Follows

def Untouched (v w : FileVersion) : Prop :=
  ∀ l ∈ v.lines, ∀ m ∈ w.lines, m.id = l.id → m.text = l.text
section
variable (versions : List FileVersion)

def Occurs (text : String) : Prop :=
  ∃ v ∈ versions, text ∈ v.texts ∧ (entryOf text).isSome

def DistinctHashes : Prop :=
  ∀ a b, Occurs versions a → Occurs versions b → src.sha16 a = src.sha16 b → a = b

def DatesRead : Prop :=
  ∀ v ∈ versions, ∀ text ∈ v.texts, ∀ p, entryOf text = some p →
    (normalizeDate src p.date).isSome

end

end

def FromInboxMd (row : InboxItemRow) : Prop := row.legacyInboxMdLine.isSome

/-- `new`, `needs_route` or `waiting_on_agent`. -/
def unresolvedStates : List OperatorState := [.new, .needsRoute, .waitingOnAgent]

def Unresolved (t : InboxTables) (phid : String) : Prop :=
  ∃ row, t.items.get? phid = some row ∧ FromInboxMd row ∧ row.operatorState ∈ unresolvedStates

structure EachOneItem (src : Sources) (t : InboxTables) (versions : List FileVersion)
    (last : FileVersion) : Prop where
  distinct : (last.openTexts.map (mdPhid src)).Nodup
  unresolved : ∀ phid, Unresolved t phid ↔ phid ∈ last.openTexts.map (mdPhid src)
  oneRow : ∀ v ∈ versions, ∀ w ∈ versions, ∀ l ∈ v.lines, ∀ m ∈ w.lines, m.id = l.id →
    (entryOf l.text).isSome → (entryOf m.text).isSome → t.items.has (mdPhid src l.text) →
    t.items.has (mdPhid src m.text) → mdPhid src m.text = mdPhid src l.text

theorem mem_mdItems (src : Sources) (now : String)
    (hdates : ∀ text ∈ texts, ∀ p, entryOf text = some p → (normalizeDate src p.date).isSome) :
    item ∈ mdItems src now texts ↔ ∃ text ∈ texts, ∃ p date, entryOf text = some p ∧
      normalizeDate src p.date = some date ∧ item = ⟨mdRow src text p date now,
        resolutionLinks (mdPhid src text) (p.resolution.filter (· ≠ "")), none⟩ := by
  induction texts with
  | nil => simp [mdItems]
  | cons first texts ih =>
    have ih := ih fun text htext => hdates text (mem_cons_of_mem _ htext)
    rw [mdItems]
    simp only [mem_cons, exists_eq_or_imp]
    split
    · rename_i hbucket
      rw [ih]
      simp [entryOf, hbucket]
    · rename_i hbucket
      cases hparse : parseInboxMdLine first with
      | none =>
        dsimp only
        rw [ih]
        simp [entryOf, hbucket, hparse]
      | some p =>
        have hentry : entryOf first = some p := by rw [entryOf, if_neg hbucket, hparse]
        obtain ⟨date, hdate⟩ := isSome_iff_exists.mp
          (hdates first mem_cons_self p hentry)
        dsimp only
        rw [hdate]
        simp only [mem_cons, ih, hentry, Option.some.injEq]
        refine or_congr_left ⟨fun h => ⟨p, date, rfl, hdate, h⟩, ?_⟩
        rintro ⟨q, day, rfl, hday, h⟩
        rw [hdate] at hday
        cases hday
        exact h

def shown (row : InboxItemRow) : Option String × OperatorState :=
  (row.legacyInboxMdLine, row.operatorState)

def entryShown (text : String) : Option String × OperatorState :=
  (some text, if (entryOf text).any (·.checked) then .checkedOff else .new)

theorem projectItems_shown (items : List ProjectedItem) (t : InboxTables) (phid : String) :
    ((items.foldl projectItem t).items.get? phid).map shown =
      ((lastProjected items phid).map shown).or ((t.items.get? phid).map shown) := by
  induction items using reverseRecOn with
  | nil => rfl
  | append_singleton items item ih =>
    rw [foldl_append, foldl_cons, foldl_nil, projectItem_items,
      InboxTables.upsertInboxItem, Dict.get?_set]
    by_cases h : phid = item.row.inboxPhid
    · simp [lastProjected, h, shown]
    · have h' : ¬ item.row.inboxPhid = phid := fun heq => h heq.symm
      rw [if_neg h, ih]
      simp [lastProjected, filter_append, h']

section
variable {src : Sources} {t : InboxTables} {versions : List FileVersion}

theorem projectVersions_eq (src : Sources) (t : InboxTables) (versions : List FileVersion) :
    projectVersions src t versions =
      (versions.flatMap fun v => mdItems src v.now v.texts).foldl projectItem t := by
  induction versions generalizing t with
  | nil => rfl
  | cons v versions ih =>
    rw [flatMap_cons, foldl_append]
    exact ih _

theorem mem_projected (hdates : DatesRead src versions) :
    item ∈ (versions.flatMap fun v => mdItems src v.now v.texts) ↔
      ∃ v ∈ versions, ∃ text ∈ v.texts, ∃ p date, entryOf text = some p ∧
        normalizeDate src p.date = some date ∧ item = ⟨mdRow src text p date v.now,
          resolutionLinks (mdPhid src text) (p.resolution.filter (· ≠ "")), none⟩ := by
  rw [mem_flatMap]
  exact exists_congr fun v => and_congr_right fun hv => mem_mdItems src v.now (hdates v hv)

theorem shown_of_occurs (hhash : DistinctHashes src versions) (hdates : DatesRead src versions)
    (h : Occurs versions text) :
    ((projectVersions src t versions).items.get? (mdPhid src text)).map shown =
      some (entryShown text) := by
  obtain ⟨v, hv, htext, hentry⟩ := id h
  obtain ⟨p, hp⟩ := isSome_iff_exists.mp hentry
  obtain ⟨date, hdate⟩ := isSome_iff_exists.mp (hdates v hv text htext p hp)
  have hmem := (mem_projected hdates).mpr ⟨v, hv, text, htext, p, date, hp, hdate, rfl⟩
  rw [projectVersions_eq, projectItems_shown, lastProjected]
  cases hlast : ((versions.flatMap fun v => mdItems src v.now v.texts).filter fun item =>
      item.row.inboxPhid = mdPhid src text).getLast? with
  | none =>
    rw [getLast?_eq_none_iff, filter_eq_nil_iff] at hlast
    exact absurd (decide_eq_true rfl) (hlast _ hmem)
  | some item =>
    obtain ⟨hitem, hphid⟩ := mem_filter.mp (mem_of_getLast? hlast)
    obtain ⟨w, hw, other, hother, q, day, hq, -, rfl⟩ := (mem_projected hdates).mp hitem
    have heq : other = text := by
      rw [decide_eq_true_eq] at hphid
      exact hhash _ _ ⟨w, hw, hother, by rw [hq]; rfl⟩ h ((String.append_right_inj _).mp hphid)
    rw [heq] at hq ⊢
    simp [shown, entryShown, mdRow, inferOperatorStateFromMd, hq]

theorem shown_of_not_occurs (hdates : DatesRead src versions)
    (h : ∀ text, Occurs versions text → mdPhid src text ≠ phid) :
    ((projectVersions src t versions).items.get? phid).map shown =
      (t.items.get? phid).map shown := by
  rw [projectVersions_eq, projectItems_shown, lastProjected, filter_eq_nil_iff.mpr]
  · rfl
  · intro item hitem
    obtain ⟨v, hv, text, htext, p, date, hp, -, rfl⟩ := (mem_projected hdates).mp hitem
    rw [decide_eq_true_eq]
    exact h text ⟨v, hv, htext, by rw [hp]; rfl⟩

theorem mem_openTexts {v : FileVersion} : text ∈ v.openTexts ↔
    text ∈ v.texts ∧ (entryOf text).isSome ∧ (entryOf text).any (·.checked) = false := by
  rw [FileVersion.openTexts, mem_filter]
  cases entryOf text with
  | none => simp
  | some p => simp

theorem unresolved_iff (hfresh : ∀ phid row, t.items.get? phid = some row → ¬ FromInboxMd row)
    (hhash : DistinctHashes src versions) (hdates : DatesRead src versions) (phid : String) :
    Unresolved (projectVersions src t versions) phid ↔
      ∃ v ∈ versions, phid ∈ v.openTexts.map (mdPhid src) := by
  constructor
  · rintro ⟨row, hrow, hmd, hstate⟩
    have hshown : ((projectVersions src t versions).items.get? phid).map shown =
        some (shown row) := by rw [hrow, map_some]
    by_cases hoccurs : ∃ text, Occurs versions text ∧ mdPhid src text = phid
    · obtain ⟨text, htext, rfl⟩ := hoccurs
      rw [shown_of_occurs hhash hdates htext, Option.some.injEq] at hshown
      obtain ⟨v, hv, hmem, hentry⟩ := htext
      refine ⟨v, hv, mem_map_of_mem (mem_openTexts.mpr ⟨hmem, hentry, ?_⟩)⟩
      cases hchecked : (entryOf text).any (·.checked) with
      | false => rfl
      | true =>
        have hclosed : row.operatorState = .checkedOff := by
          rw [entryShown, hchecked] at hshown
          exact (congrArg Prod.snd hshown).symm
        rw [hclosed] at hstate
        exact absurd hstate (by decide)
    · rw [shown_of_not_occurs hdates fun text htext heq => hoccurs ⟨text, htext, heq⟩] at hshown
      obtain ⟨old, hold, heq⟩ := map_eq_some_iff.mp hshown
      have hline : old.legacyInboxMdLine = row.legacyInboxMdLine := congrArg Prod.fst heq
      exact absurd (show FromInboxMd old by rwa [FromInboxMd, hline]) (hfresh phid old hold)
  · rintro ⟨v, hv, hmem⟩
    obtain ⟨text, htext, rfl⟩ := mem_map.mp hmem
    obtain ⟨hin, hentry, hopen⟩ := mem_openTexts.mp htext
    obtain ⟨row, hrow, heq⟩ := map_eq_some_iff.mp
      (shown_of_occurs (t := t) hhash hdates ⟨v, hv, hin, hentry⟩)
    have hline : row.legacyInboxMdLine = some text := congrArg Prod.fst heq
    have hstate : row.operatorState = .new := by
      rw [entryShown, hopen] at heq
      exact congrArg Prod.snd heq
    exact ⟨row, hrow, by rw [FromInboxMd, hline]; rfl, by rw [hstate]; decide⟩

theorem has_of_occurs (hhash : DistinctHashes src versions) (hdates : DatesRead src versions)
    (h : Occurs versions text) :
    (projectVersions src t versions).items.has (mdPhid src text) = true := by
  obtain ⟨row, hrow, -⟩ := map_eq_some_iff.mp (shown_of_occurs (t := t) hhash hdates h)
  rw [Dict.has_eq, hrow]
  rfl

end

def Within (v w : FileVersion) : Prop := ∀ l ∈ v.lines, ∃ m ∈ w.lines, m.id = l.id ∧ m.text = l.text

theorem Within.trans (h : Within u v) (h' : Within v w) : Within u w := by
  intro l hl
  obtain ⟨m, hm, hid, htext⟩ := h l hl
  obtain ⟨n, hn, hid', htext'⟩ := h' m hm
  exact ⟨n, hn, hid'.trans hid, htext'.trans htext⟩

theorem Within.openTexts (h : Within v w) (hopen : text ∈ v.openTexts) : text ∈ w.openTexts := by
  obtain ⟨hmem, hentry⟩ := mem_openTexts.mp hopen
  obtain ⟨l, hl, rfl⟩ := mem_map.mp hmem
  obtain ⟨m, hm, -, htext⟩ := h l hl
  rw [← htext] at hentry ⊢
  exact mem_openTexts.mpr ⟨mem_map_of_mem hm, hentry⟩

theorem within_last (hsteps : (versions ++ [last]).IsChain Follows)
    (huntouched : (versions ++ [last]).IsChain Untouched) :
    ∀ v ∈ versions ++ [last], Within v last := by
  induction versions with
  | nil =>
    intro v hv
    rw [mem_singleton.mp hv]
    exact fun l hl => ⟨l, hl, rfl, rfl⟩
  | cons first versions ih =>
    have hrest := ih hsteps.tail huntouched.tail
    intro v hv
    rw [cons_append] at hv hsteps huntouched
    obtain rfl | hv := mem_cons.mp hv
    · obtain ⟨next, hnext⟩ : ∃ next, (versions ++ [last]).head? = some next := by
        cases versions with
        | nil => exact ⟨_, rfl⟩
        | cons next versions => exact ⟨next, rfl⟩
      have hstep := (isChain_cons.mp hsteps).1 next hnext
      have hkept := (isChain_cons.mp huntouched).1 next hnext
      have hwithin : Within v next := by
        intro l hl
        obtain ⟨m, hm, hid, -⟩ := hstep l hl
        exact ⟨m, hm, hid, hkept l hl m hm hid⟩
      exact hwithin.trans (hrest next (mem_of_head? hnext))
    · exact hrest v hv

theorem eq_of_id {v : FileVersion} (hids : (v.lines.map (·.id)).Nodup) (hl : l ∈ v.lines)
    (hm : m ∈ v.lines) (h : m.id = l.id) : m = l :=
  inj_on_of_nodup_map hids hm hl h

section
variable {src : Sources} {t : InboxTables} {earlier : List FileVersion} {last : FileVersion}

theorem eachOneItem_of_untouched (hhistory : History (earlier ++ [last]))
    (hfresh : ∀ phid row, t.items.get? phid = some row → ¬ FromInboxMd row)
    (hhash : DistinctHashes src (earlier ++ [last])) (hdates : DatesRead src (earlier ++ [last]))
    (huntouched : (earlier ++ [last]).IsChain Untouched) (hnodup : last.openTexts.Nodup) :
    EachOneItem src (projectVersions src t (earlier ++ [last])) (earlier ++ [last]) last := by
  have hwithin := within_last hhistory.steps huntouched
  have hlast : last ∈ earlier ++ [last] := mem_append_right _ mem_cons_self
  refine ⟨hnodup.map_on ?_, fun phid => ?_, ?_⟩
  · intro a ha b hb heq
    obtain ⟨hina, hentrya, -⟩ := mem_openTexts.mp ha
    obtain ⟨hinb, hentryb, -⟩ := mem_openTexts.mp hb
    exact hhash a b ⟨last, hlast, hina, hentrya⟩ ⟨last, hlast, hinb, hentryb⟩
      ((String.append_right_inj _).mp heq)
  · rw [unresolved_iff hfresh hhash hdates]
    constructor
    · rintro ⟨v, hv, hmem⟩
      obtain ⟨text, htext, rfl⟩ := mem_map.mp hmem
      exact mem_map_of_mem ((hwithin v hv).openTexts htext)
    · exact fun hmem => ⟨last, hlast, hmem⟩
  · intro v hv w hw l hl m hm hid _ _ _ _
    obtain ⟨l', hl', hidl, htextl⟩ := hwithin v hv l hl
    obtain ⟨m', hm', hidm, htextm⟩ := hwithin w hw m hm
    have heq : m' = l' :=
      eq_of_id (hhistory.ids last hlast) hl' hm' (hidm.trans (hid.trans hidl.symm))
    rw [← htextl, ← htextm, heq]

theorem untouched_of_eachOneItem {versions : List FileVersion} (hhistory : History versions)
    (hhash : DistinctHashes src versions) (hdates : DatesRead src versions)
    (h : EachOneItem src (projectVersions src t versions) versions last) :
    versions.IsChain Untouched := by
  refine List.IsChain.imp_of_mem_imp ?_ hhistory.steps
  intro v w hv hw hfollows l hl m hm hid
  obtain ⟨m', hm', hid', htext⟩ := hfollows l hl
  rw [eq_of_id (hhistory.ids w hw) hm' hm (hid.trans hid'.symm)]
  obtain hsame | hedited := htext
  · exact hsame
  · -- the line before the edit and the line after it have a row each
    have hl' : Occurs versions l.text := ⟨v, hv, mem_map_of_mem hl, hedited.before⟩
    have hm'' : Occurs versions m'.text := ⟨w, hw, mem_map_of_mem hm', hedited.after⟩
    have heq := h.oneRow v hv w hw l hl m' hm' hid' hedited.before hedited.after
      (has_of_occurs hhash hdates hl') (has_of_occurs hhash hdates hm'')
    exact hhash _ _ hm'' hl' ((String.append_right_inj _).mp heq)

end

def plainSources : Sources := ⟨"", [], none, id, some⟩

def bareTables : InboxTables := ⟨.empty, [], [], [], []⟩

def callBob (checked : String) : FileLine := ⟨1, "- [" ++ checked ++ "] [2026-01-02] Call Bob"⟩

def oneTodo : FileVersion := ⟨"t1", [callBob " "]⟩

def twoTodos : FileVersion := ⟨"t2", [callBob " ", ⟨2, "- [ ] [2026-01-03] Pay"⟩]⟩

def calledBob : FileVersion := ⟨"t2", [callBob "x"]⟩

end IdAgents.Inbox
