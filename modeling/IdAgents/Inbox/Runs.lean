import IdAgents.Inbox.Actions

namespace IdAgents.Inbox
open JsText JsMap List

inductive Event where
  | project (now : String)
  | act (a : Action)

structure Run where
  tables : InboxTables
  left : String → Option OperatorFields
  projected : Bool

namespace Run

def start (t : InboxTables) : Run := ⟨t, fun _ => none, false⟩

def step (src : Sources) (numberText : Rat → String) (r : Run) : Event → Run
  | .project now => { r with tables := runFullProjection src now r.tables, projected := true }
  | .act a =>
    let (tables, applied) := a.run numberText r.tables
    { r with
      tables
      left := fun phid => if phid ∈ applied then tables.operatorFields phid else r.left phid }

def after (src : Sources) (numberText : Rat → String) (r : Run) (events : List Event) : Run :=
  events.foldl (step src numberText) r

def AsLeft (r : Run) : Prop :=
  ∀ phid fields, r.left phid = some fields → r.tables.operatorFields phid = some fields

end Run

structure SameRows (t t' : InboxTables) : Prop where
  items : ∀ phid, t'.items.has phid = t.items.has phid
  links : t'.links = t.links
  auditEvents : t'.auditEvents = t.auditEvents
  routingDecisions : t'.routingDecisions = t.routingDecisions
  policyViolations : t'.policyViolations = t.policyViolations

structure NeverUndoes (src : Sources) (numberText : Rat → String) (r : Run) (events : List Event) :
    Prop where
  asLeft : ∀ done, done <+: events → (r.after src numberText done).AsLeft
  sameRows : ∀ done now, done ++ [.project now] <+: events →
    (r.after src numberText done).projected →
      SameRows (r.after src numberText done).tables
        (runFullProjection src now (r.after src numberText done).tables)

/-- What the sources say of the items an operator has acted on is what the operator left, and after a
first pass there are no shadow documents, each of which is an audit event. -/
structure Harmless (src : Sources) (now : String) (r : Run) : Prop where
  fields : ∀ phid fields row, r.left phid = some fields →
    lastProjected (projectedItems src now) phid = some row → row.toOperatorFields = fields
  shadows : r.projected → shadowItems src now = []

def Run.Settled (src : Sources) (r : Run) : Prop :=
  r.projected → ∀ now, ∀ item ∈ projectedItems src now, Holds r.tables item

namespace Run
variable {src : Sources} {numberText : Rat → String}

theorem Settled.project (src : Sources) (numberText : Rat → String) (r : Run) (now : String) :
    (r.step src numberText (.project now)).Settled src := by
  intro _ now' item hitem
  rw [projectedItems_stamp src now now'] at hitem
  obtain ⟨item, hmem, rfl⟩ := mem_map.1 hitem
  exact projectItems_holds (projectedItems src now) r.tables item hmem

variable {r : Run}

theorem Settled.step (h : r.Settled src) (e : Event) : (r.step src numberText e).Settled src := by
  cases e with
  | project now => exact Settled.project src numberText r now
  | act a =>
    intro hprojected now item hitem
    exact (h hprojected now item hitem).mono (a.run_touches numberText r.tables).toKept

theorem Settled.after (h : r.Settled src) (events : List Event) :
    (r.after src numberText events).Settled src := by
  induction events generalizing r with
  | nil => exact h
  | cons e events ih => exact ih (h.step e)

theorem after_concat (r : Run) (done : List Event) (e : Event) :
    r.after src numberText (done ++ [e]) = (r.after src numberText done).step src numberText e := by
  rw [Run.after, foldl_append]
  rfl

theorem AsLeft.project (h : r.AsLeft) (hharmless : Harmless src now r) :
    (r.step src numberText (.project now)).AsLeft := by
  intro phid fields hleft
  have hfields := projectItems_operatorFields (projectedItems src now) r.tables phid
  change (runFullProjection src now r.tables).operatorFields phid = some fields
  rw [runFullProjection, hfields, h phid fields hleft]
  cases hlast : lastProjected (projectedItems src now) phid with
  | none => rfl
  | some row =>
    rw [← hharmless.fields phid fields row hleft hlast]
    rfl

theorem AsLeft.act (h : r.AsLeft) (a : Action) : (r.step src numberText (.act a)).AsLeft := by
  intro phid fields hleft
  have htouches := a.run_touches numberText r.tables
  change (if phid ∈ (a.run numberText r.tables).2
    then (a.run numberText r.tables).1.operatorFields phid else r.left phid) = some fields at hleft
  change (a.run numberText r.tables).1.operatorFields phid = some fields
  by_cases happlied : phid ∈ (a.run numberText r.tables).2
  · rwa [if_pos happlied] at hleft
  · rw [if_neg happlied] at hleft
    rw [InboxTables.operatorFields, htouches.others phid happlied]
    exact h phid fields hleft

theorem Settled.sameRows_iff (h : r.Settled src) (hprojected : r.projected) (now : String) :
    SameRows r.tables (runFullProjection src now r.tables) ↔ shadowItems src now = [] := by
  have hagain := projectItems_again (h hprojected now)
  have hroutes := projectItems_routes (projectedItems src now) r.tables
  have haudits := projectItems_auditEvents (projectedItems src now) r.tables
  rw [← projectedItems_quiet]
  constructor
  · intro hsame
    have heq := hsame.auditEvents
    rwa [runFullProjection, haudits, append_right_eq_self] at heq
  · intro hnone
    rw [hnone, append_nil] at haudits
    exact ⟨hagain.1, hagain.2, haudits, hroutes.1, hroutes.2⟩

theorem AsLeft.after (hharmless : ∀ done now, done ++ [.project now] <+: events →
      Harmless src now ((start t).after src numberText done)) :
    ((start t).after src numberText events).AsLeft := by
  induction events using reverseRecOn with
  | nil => exact fun _ _ h => absurd h.symm (Option.some_ne_none _)
  | append_singleton events e ih =>
    have hdone := ih fun done now h => hharmless done now (h.trans (prefix_append events [e]))
    rw [after_concat]
    cases e with
    | act a => exact hdone.act a
    | project now => exact hdone.project (hharmless events now (prefix_refl _))

theorem AsLeft.harmless_fields (h : (r.step src numberText (.project now)).AsLeft)
    (hleft : r.left phid = some fields)
    (hlast : lastProjected (projectedItems src now) phid = some row) :
    row.toOperatorFields = fields := by
  have hfields := projectItems_operatorFields (projectedItems src now) r.tables phid
  have hkept := h phid fields hleft
  change (runFullProjection src now r.tables).operatorFields phid = some fields at hkept
  rw [runFullProjection, hfields, hlast] at hkept
  exact Option.some.inj hkept

end Run

/-- A run never undoes the operator exactly when every pass of it is harmless where it is made. -/
theorem neverUndoes_iff (src : Sources) (numberText : Rat → String) (t : InboxTables)
    (events : List Event) : NeverUndoes src numberText (.start t) events ↔
      ∀ done now, done ++ [.project now] <+: events →
        Harmless src now ((Run.start t).after src numberText done) := by
  have hsettled (done : List Event) : ((Run.start t).after src numberText done).Settled src :=
    Run.Settled.after (fun h => absurd h Bool.false_ne_true) done
  constructor
  · intro h done now hpass
    constructor
    · intro phid fields row hleft hlast
      have hafter := h.asLeft (done ++ [.project now]) hpass
      rw [Run.after_concat] at hafter
      exact hafter.harmless_fields hleft hlast
    · intro hprojected
      exact ((hsettled done).sameRows_iff hprojected now).1 (h.sameRows done now hpass hprojected)
  · intro h
    constructor
    · intro done hdone
      exact Run.AsLeft.after fun done' now hpass => h done' now (hpass.trans hdone)
    · intro done now hpass hprojected
      exact ((hsettled done).sameRows_iff hprojected now).2 ((h done now hpass).shadows hprojected)

def snoozedDoc : ShadowDoc :=
  ⟨"email-1", "email", none, some "2026-06-01T08:00:00.000Z", "received", none, none, none, none, none,
    none, none, none, none, none, none, none, none, none⟩

def snoozedSources : Sources where
  shadowDir := "/shadow"
  shadowFiles := [⟨"email-1.json", "", some snoozedDoc⟩]
  inboxMd := none
  sha16 := fun _ => ""
  toISOString := fun _ => none

def snoozeEvent : Event :=
  .act (.snooze "0a1b2c3d" ⟨"email-1", "human:chris", "2026-06-01T09:00:00.000Z",
    "2026-06-08T09:00:00.000Z", none⟩)

def noTables : InboxTables := ⟨.empty, [], [], [], []⟩

/-- A snoozed item is new again after the next pass. -/
theorem not_neverUndoes :
    ¬ ∀ (src : Sources) (numberText : Rat → String) (t : InboxTables) (events : List Event),
      NeverUndoes src numberText (.start t) events := by
  intro h
  let events : List Event := [.project "a", snoozeEvent, .project "b"]
  have hleft := (h snoozedSources (fun _ => "") noTables events).asLeft events (prefix_refl _)
  have hfields := hleft "email-1"
    ⟨.snoozed, some "2026-06-08T09:00:00.000Z", none, none, none, none, none, none⟩ (by decide +kernel)
  revert hfields
  decide +kernel

end IdAgents.Inbox
