import TableDump.Proofs.Export.ExtractionFrame

/-! # The export of tables, one after another

* `Exports p s outcomes t`: from `s` to `t`, the tables of `outcomes` were exported in this order, each with
  its outcome. The loop over tables always ends, and always so (`exists_exports`, `Exports.result`).
* `failureRecords`: the records that tell failures. There is one for each error of the outcomes, in their
  order, and no other one (`Exports.leaves`).
* What the outcomes of a stretch depend on (`Exports.transport`): the plan on its tables, and the number
  of connections opened before.
-/

namespace TableDump
set_option autoImplicit false

/-! ## Records of failures -/

def failureRecords (events : List Event) : List Record :=
  (events.filterMap Event.record?).filter Record.tellsFailure

/-- The record that goes with an error of a report. -/
def failureRecord (error : String) : Record := ⟨.error, failurePrefix ++ error⟩

theorem failureRecords_append (first next : List Event) :
    failureRecords (first ++ next) = failureRecords first ++ failureRecords next := recordsWhere_append _ first next

theorem failureRecords_eq_nil {events : List Event}
    (h : ∀ e ∈ events, ∀ r, e = .logged r → r.tellsFailure = false) : failureRecords events = [] := recordsWhere_eq_nil h

theorem tellsFailure_failureRecord (error : String) : (failureRecord error).tellsFailure = true := by
  have hprefix : failurePrefix.toList.isPrefixOf (failurePrefix ++ error).toList = true := by
    rw [String.toList_append, List.isPrefixOf_iff_prefix]
    exact List.prefix_append _ _
  rw [Record.tellsFailure, failureRecord, hprefix]
  rfl

theorem failureRecords_concerning {table : String} {events : List Event} (h : ∀ e ∈ events, e.Concerns table) :
    failureRecords events = [] := by
  refine failureRecords_eq_nil fun e he r hr => ?_
  subst hr
  rcases h _ he with hopened | hclosed | hinside
  · cases hopened
  · cases hclosed
  · exact hinside

namespace TableOutcome

def failureEvents (o : TableOutcome) : List Event := (o.error?.map fun e => .logged (failureRecord e)).toList

theorem failureRecords_failureEvents (o : TableOutcome) :
    failureRecords o.failureEvents = (o.error?.map failureRecord).toList := by
  unfold failureEvents
  cases o.error? with
  | none => rfl
  | some e =>
    change [failureRecord e].filter Record.tellsFailure = [failureRecord e]
    rw [List.filter_cons_of_pos (tellsFailure_failureRecord e), List.filter_nil]

theorem openedCount_extend_failureEvents (s : Session) (o : TableOutcome) :
    (s.extend o.failureEvents).openedCount = s.openedCount := by
  rw [Session.openedCount_extend, failureEvents]
  cases o.error? <;> rfl

end TableOutcome

/-! ## The loop -/

inductive Exports (p : ExportPlan) : Session → List TableOutcome → Session → Prop
  | nil (s : Session) : Exports p s [] s
  | cons {s t : Session} {o : TableOutcome} {rest : List TableOutcome} {added : List Event}
      (hadded : ∀ e ∈ added, e.Concerns o.table)
      (htable : (tableElements p o.table).result s = (o.outcome, s.extend added))
      (hrest : Exports p (s.extend (added ++ o.failureEvents)) rest t) : Exports p s (o :: rest) t

variable {p q : ExportPlan} {s t : Session}

theorem result_exportTable {o : TableOutcome} {added : List Event}
    (h : (tableElements p o.table).result s = (o.outcome, s.extend added)) :
    (exportTable p o.table).result s = (.ok o, s.extend (added ++ o.failureEvents)) := by
  obtain ⟨table, outcome⟩ := o
  rw [exportTable, Run.result_attempt_bind, h]
  cases outcome with
  | ok es => simp [TableOutcome.failureEvents, TableOutcome.error?]
  | error f =>
    simp only [Run.result_bind, Run.result_log, Run.result_pure, TableOutcome.failureEvents, TableOutcome.error?,
      failureRecord, failurePrefix, Session.extend, Option.map_some, Option.toList_some, String.append_assoc,
      List.append_assoc]

theorem openedCount_afterTable {o : TableOutcome} {added : List Event}
    (h : (tableElements p o.table).result s = (o.outcome, s.extend added)) :
    (s.extend (added ++ o.failureEvents)).openedCount = s.openedCount + connectionsFor p o.table := by
  rw [← Session.extend_extend, o.openedCount_extend_failureEvents, ← openedCount_tableElements p s, h]

theorem exists_exports (p : ExportPlan) (tables : List String) (s : Session) :
    ∃ outcomes t, outcomes.map TableOutcome.table = tables ∧ Exports p s outcomes t := by
  induction tables generalizing s with
  | nil => exact ⟨[], s, rfl, .nil s⟩
  | cons table tables ih =>
    obtain ⟨added, hadded, htable⟩ := (confined_tableElements p table).result_eq s
    obtain ⟨o, ho, htable'⟩ : ∃ o : TableOutcome, o.table = table ∧
        (tableElements p o.table).result s = (o.outcome, s.extend added) := ⟨⟨table, _⟩, rfl, htable⟩
    obtain ⟨outcomes, t, houtcomes, hrest⟩ := ih (s.extend (added ++ o.failureEvents))
    refine ⟨o :: outcomes, t, ?_, .cons (ho ▸ hadded) htable' hrest⟩
    rw [List.map_cons, houtcomes, ho]

namespace Exports

theorem result {outcomes : List TableOutcome} (h : Exports p s outcomes t) :
    ((outcomes.map TableOutcome.table).mapM (exportTable p)).result s = (.ok outcomes, t) := by
  induction h with
  | nil s => rfl
  | cons hadded htable hrest ih =>
    rw [List.map_cons, Run.result_mapM_cons, result_exportTable htable]
    simp only
    rw [ih]

theorem append {u : Session} {before after : List TableOutcome} (hbefore : Exports p s before u)
    (hafter : Exports p u after t) : Exports p s (before ++ after) t := by
  induction hbefore with
  | nil s => exact hafter
  | cons hadded htable hrest ih => exact .cons hadded htable (ih hafter)

theorem split {before after : List TableOutcome} (h : Exports p s (before ++ after) t) :
    ∃ u, Exports p s before u ∧ Exports p u after t := by
  induction before generalizing s with
  | nil => exact ⟨s, .nil s, h⟩
  | cons o rest ih =>
    cases h with
    | cons hadded htable hrest =>
      obtain ⟨u, hu, hafter⟩ := ih hrest
      exact ⟨u, .cons hadded htable hu, hafter⟩

/-- The events of a stretch concern its tables or tell their failures; the records of failures are those
of its errors. -/
theorem leaves {outcomes : List TableOutcome} (h : Exports p s outcomes t) :
    ∃ added, t = s.extend added ∧
      (∀ e ∈ added, ∃ o ∈ outcomes, e.Concerns o.table ∨ e ∈ o.failureEvents) ∧
      failureRecords added = (outcomes.filterMap TableOutcome.error?).map failureRecord := by
  induction h with
  | nil s => exact ⟨[], (Session.extend_nil s).symm, by simp, rfl⟩
  | @cons s t o rest added hadded htable hrest ih =>
    obtain ⟨more, rfl, hmore, hrecords⟩ := ih
    refine ⟨added ++ o.failureEvents ++ more, Session.extend_extend s _ _, fun e he => ?_, ?_⟩
    · rw [List.mem_append, List.mem_append] at he
      rcases he with (hconcerns | hfailure) | hlater
      · exact ⟨o, List.mem_cons_self, Or.inl (hadded e hconcerns)⟩
      · exact ⟨o, List.mem_cons_self, Or.inr hfailure⟩
      · obtain ⟨o', ho', he'⟩ := hmore e hlater
        exact ⟨o', List.mem_cons_of_mem o ho', he'⟩
    · rw [failureRecords_append, failureRecords_append, failureRecords_concerning hadded, hrecords,
        o.failureRecords_failureEvents]
      cases he : o.error? <;> simp [he]

theorem openedCount_le {outcomes : List TableOutcome} (h : Exports p s outcomes t) :
    s.openedCount ≤ t.openedCount := by
  obtain ⟨added, rfl, _⟩ := h.leaves
  rw [Session.openedCount_extend]
  exact Nat.le_add_right _ _

/-- Every outcome is that of an extraction which the stretch passed through. -/
theorem of_mem {outcomes : List TableOutcome} (h : Exports p s outcomes t) {o : TableOutcome} (ho : o ∈ outcomes) :
    ∃ u v, (tableElements p o.table).result u = (o.outcome, v) ∧ s.events <+: u.events ∧ v.events <+: t.events := by
  obtain ⟨before, after, rfl⟩ := List.append_of_mem ho
  obtain ⟨u, hbefore, hfrom⟩ := h.split
  cases hfrom with
  | @cons _ _ _ _ added hadded htable hafter =>
    obtain ⟨first, rfl, _⟩ := hbefore.leaves
    obtain ⟨last, rfl, _⟩ := hafter.leaves
    refine ⟨_, _, htable, List.prefix_append _ _, ?_⟩
    rw [Session.events_extend _ last, Session.events_extend _ (added ++ o.failureEvents), ← List.append_assoc,
      List.append_assoc _ o.failureEvents]
    exact List.prefix_append _ _

/-- Outcomes are kept in another session with as many connections, by a plan that gives the same for each
of the tables whenever a connection of the stretch is the next one. -/
theorem transport {outcomes : List TableOutcome} (h : Exports p s outcomes t) {s' : Session}
    (hcount : s'.openedCount = s.openedCount)
    (hsame : ∀ o ∈ outcomes, ∀ u : Session, s.openedCount ≤ u.openedCount →
      u.openedCount + connectionsFor p o.table ≤ t.openedCount →
      (tableElements q o.table).result u = (tableElements p o.table).result u) :
    ∃ t', Exports q s' outcomes t' ∧ t'.openedCount = t.openedCount := by
  induction h generalizing s' with
  | nil s => exact ⟨s', .nil s', hcount⟩
  | @cons s t o rest added hadded htable hrest ih =>
    have hopened := openedCount_afterTable htable
    have hle := hrest.openedCount_le
    -- the other session is left with the same events
    obtain ⟨outcome, more, hmore, hresult⟩ := confined_tableElements p o.table s.openedCount
    obtain ⟨houtcome, _⟩ := Prod.mk.inj ((hresult s rfl).symm.trans htable)
    have hthere := hresult s' hcount
    rw [houtcome] at hthere
    have hfirst : (tableElements q o.table).result s' = (o.outcome, s'.extend more) := by
      rw [← hthere]
      exact hsame o List.mem_cons_self s' (by omega) (by omega)
    have hcount' : (s'.extend (more ++ o.failureEvents)).openedCount =
        (s.extend (added ++ o.failureEvents)).openedCount := by
      rw [openedCount_afterTable hthere, hopened, hcount]
    obtain ⟨t', hexports, ht'⟩ := ih hcount' fun o' ho' u hu hut =>
      hsame o' (List.mem_cons_of_mem o ho') u (by omega) hut
    exact ⟨t', .cons hmore hfirst hexports, ht'⟩

end Exports
end TableDump
