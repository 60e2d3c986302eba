import Mathlib.Data.List.Forall2
import TableDump.Store.Basic

/-! # Frames of computations

What a computation cannot see and cannot touch.

* `Session.extend`: a session with some events more; `Session.since`: the events that came after a session.
* `recordsWhere`: the records among events that pass a test. `Event.IsRecord`: an event that is no more than a record.
* `Run.Blind P r`: `r` sees nothing of the session; it leaves events that satisfy `P` and writes nothing.
* `Run.Confined P r`: the same, but `r` sees the number of connections opened so far.
* Confined computations are closed under everything that computations are put together with.
* `Run.outcomeAt`: the outcome of a confined computation by that number.
-/

namespace TableDump
set_option autoImplicit false

theorem outcome_bind_eq_ok_iff {α β : Type} {r : Except Fault α} {k : α → Except Fault β} {b : β} :
    r >>= k = .ok b ↔ ∃ a, r = .ok a ∧ k a = .ok b := by
  cases r with
  | error f =>
    constructor
    · rintro ⟨⟩
    · rintro ⟨a, ⟨⟩, -⟩
  | ok a =>
    constructor
    · exact fun h => ⟨a, rfl, h⟩
    · rintro ⟨a', ⟨⟩, h⟩
      exact h

theorem outcome_bind_eq_error_iff {α β : Type} {r : Except Fault α} {k : α → Except Fault β} {f : Fault} :
    r >>= k = .error f ↔ r = .error f ∨ ∃ a, r = .ok a ∧ k a = .error f := by
  cases r with
  | error g =>
    constructor
    · rintro ⟨⟩
      exact .inl rfl
    · rintro (⟨⟨⟩⟩ | ⟨a, ⟨⟩, -⟩)
      rfl
  | ok a =>
    constructor
    · exact fun h => .inr ⟨a, rfl, h⟩
    · rintro (⟨⟨⟩⟩ | ⟨a', ⟨⟩, h⟩)
      exact h

theorem mapError_eq_ok_iff {α : Type} {r : Except Fault α} {change : Fault → Fault} {a : α} :
    r.mapError change = .ok a ↔ r = .ok a := by
  cases r <;> simp [Except.mapError]

theorem mapError_eq_error_iff {α : Type} {r : Except Fault α} {change : Fault → Fault} {f : Fault} :
    r.mapError change = .error f ↔ ∃ g, r = .error g ∧ change g = f := by
  cases r <;> simp [Except.mapError]

theorem outcome_map_eq_error_iff {α β : Type} {r : Except Fault α} {g : α → β} {f : Fault} :
    r.map g = .error f ↔ r = .error f := by
  cases r <;> simp [Except.map]

theorem outcome_map_eq_ok_iff {α β : Type} {r : Except Fault α} {g : α → β} {b : β} :
    r.map g = .ok b ↔ ∃ a, r = .ok a ∧ g a = b := by
  cases r <;> simp [Except.map]

theorem forall₂_of_mapM_ok {α β : Type} {f : α → Except Fault β} {xs : List α} {ys : List β}
    (h : xs.mapM f = .ok ys) : List.Forall₂ (fun x y => f x = .ok y) xs ys := by
  induction xs generalizing ys with
  | nil =>
    cases h
    exact .nil
  | cons x rest ih =>
    rw [List.mapM_cons] at h
    cases hx : f x with
    | error f =>
      rw [hx] at h
      cases h
    | ok y =>
      cases hrest : rest.mapM f with
      | error f =>
        rw [hx, hrest] at h
        cases h
      | ok ys' =>
        rw [hx, hrest] at h
        cases h
        exact .cons hx (ih hrest)

theorem mapM_eq_ok_of_forall₂ {α β : Type} {f : α → Except Fault β} {xs : List α} {ys : List β}
    (h : List.Forall₂ (fun x y => f x = .ok y) xs ys) : xs.mapM f = .ok ys := by
  induction h with
  | nil => rfl
  | cons hx _ ih =>
    rw [List.mapM_cons, hx, ih]
    rfl

/-- Where one of a list fails and those before it fail only with faults that satisfy `P`, the first that fails does too. -/
theorem exists_first_fault {α β : Type} {g : α → Except Fault β} {P : Fault → Prop} {before after : List α} {x : α} {f : Fault}
    (hbefore : ∀ y ∈ before, ∀ e, g y = .error e → P e) (hx : g x = .error f) (hf : P f) :
    ∃ first y last e, before ++ x :: after = first ++ y :: last ∧ (∀ z ∈ first, ∃ b, g z = .ok b) ∧ g y = .error e ∧ P e := by
  induction before with
  | nil => exact ⟨[], x, after, f, rfl, List.forall_mem_nil _, hx, hf⟩
  | cons z rest ih =>
    obtain ⟨hhead, hrest⟩ := List.forall_mem_cons.1 hbefore
    cases hz : g z with
    | error e => exact ⟨[], z, rest ++ x :: after, e, rfl, List.forall_mem_nil _, hz, hhead e hz⟩
    | ok b =>
      obtain ⟨first, y, last, e, hsplit, hfirst, hy, he⟩ := ih hrest
      refine ⟨z :: first, y, last, e, ?_, List.forall_mem_cons.2 ⟨⟨b, hz⟩, hfirst⟩, hy, he⟩
      rw [List.cons_append, hsplit, List.cons_append]

/-- What every step keeps holds in the end. -/
theorem outcome_foldlM_keeps {α β : Type} {I : β → Prop} {g : β → α → Except Fault β} (h : ∀ b x b', I b → g b x = .ok b' → I b')
    {xs : List α} {b b' : β} (hb : I b) (hfold : xs.foldlM g b = .ok b') : I b' := by
  induction xs generalizing b with
  | nil =>
    cases hfold
    exact hb
  | cons x rest ih =>
    rw [List.foldlM_cons] at hfold
    obtain ⟨mid, hmid, hfold⟩ := outcome_bind_eq_ok_iff.1 hfold
    exact ih (h b x mid hb hmid) hfold

theorem outcome_bind_congr {α β : Type} {r : Except Fault α} {k k' : α → Except Fault β}
    (h : ∀ a, r = .ok a → k a = k' a) : r >>= k = r >>= k' := by
  cases r with
  | error f => rfl
  | ok a => exact h a rfl

theorem exists_of_forall₂ {α β : Type} {R : α → β → Prop} {xs : List α} {ys : List β} (h : List.Forall₂ R xs ys) {y : β}
    (hy : y ∈ ys) : ∃ x ∈ xs, R x y := by
  induction h with
  | nil => cases hy
  | cons hxy _ ih =>
    cases hy with
    | head => exact ⟨_, List.mem_cons_self, hxy⟩
    | tail _ hy =>
      obtain ⟨x, hx, hR⟩ := ih hy
      exact ⟨x, List.mem_cons_of_mem _ hx, hR⟩

namespace Session

def extend (s : Session) (added : List Event) : Session := { s with events := s.events ++ added }

def since (t s : Session) : List Event := t.events.drop s.events.length

@[simp] theorem extend_nil (s : Session) : s.extend [] = s := by simp [extend]

@[simp] theorem extend_extend (s : Session) (first next : List Event) :
    (s.extend first).extend next = s.extend (first ++ next) := by simp [extend]

@[simp] theorem events_extend (s : Session) (added : List Event) : (s.extend added).events = s.events ++ added := rfl

theorem since_eq {s t : Session} {added : List Event} (h : t.events = s.events ++ added) : t.since s = added := by
  rw [since, h, List.drop_left]

@[simp] theorem openedCount_extend (s : Session) (added : List Event) :
    (s.extend added).openedCount = s.openedCount + added.countP Event.isOpened := List.countP_append

def wrote (s : Session) (text : String) : Session := { s with written := s.written ++ text }

/-- A session in which `n` connections were opened. -/
def opened (n : Nat) : Session := { events := List.replicate n .opened }

@[simp] theorem openedCount_opened (n : Nat) : (opened n).openedCount = n := by
  simp [opened, openedCount, List.countP_replicate, Event.isOpened]

end Session

/-! ## Records -/

def recordsWhere (p : Record → Bool) (events : List Event) : List Record := (events.filterMap Event.record?).filter p

theorem recordsWhere_append (p : Record → Bool) (first next : List Event) :
    recordsWhere p (first ++ next) = recordsWhere p first ++ recordsWhere p next := by
  rw [recordsWhere, List.filterMap_append, List.filter_append]
  rfl

theorem recordsWhere_eq_nil {p : Record → Bool} {events : List Event} (h : ∀ e ∈ events, ∀ r, e = .logged r → p r = false) :
    recordsWhere p events = [] := by
  refine List.filter_eq_nil_iff.2 fun r hr => ?_
  obtain ⟨e, he, hrecord⟩ := List.mem_filterMap.1 hr
  cases e with
  | logged record =>
    cases hrecord
    rw [h _ he r rfl]
    exact Bool.false_ne_true
  | _ => cases hrecord

def Event.IsRecord (e : Event) : Prop := ∃ record : Record, e = .logged record

theorem Event.IsRecord.isOpened_eq {e : Event} (h : e.IsRecord) : e.isOpened = false := by
  obtain ⟨record, rfl⟩ := h
  rfl

namespace Run

section
variable {α β : Type}

theorem lift_ok_bind (a : α) (k : α → Run β) : lift (.ok a) >>= k = k a := pure_bind a k

theorem lift_error_bind (f : Fault) (k : α → Run β) : lift (.error f) >>= k = throw f := rfl

theorem bind_eq_ok_iff {r : Run α} {k : α → Run β} {s t : Session} {b : β} :
    (r >>= k).result s = (.ok b, t) ↔ ∃ a u, r.result s = (.ok a, u) ∧ (k a).result u = (.ok b, t) := by
  rw [result_bind]
  rcases r.result s with ⟨f | a, u⟩
  · simp
  · constructor
    · exact fun h => ⟨a, u, rfl, h⟩
    · rintro ⟨a', u', hr, hk⟩
      cases hr
      exact hk

theorem result_bind_congr {r r' : Run α} {s : Session} (h : r.result s = r'.result s) (k : α → Run β) :
    (r >>= k).result s = (r' >>= k).result s := by
  rw [result_bind, result_bind, h]

theorem outcome_bind_of_ok {r : Run α} {s : Session} {a : α} (h : (r.result s).1 = .ok a) (k : α → Run β) :
    ((r >>= k).result s).1 = ((k a).result (r.result s).2).1 := by
  rw [result_bind]
  rcases hr : r.result s with ⟨o, t⟩
  rw [hr] at h
  cases h
  rfl

theorem outcome_bind_of_error {r : Run α} {s : Session} {f : Fault} (h : (r.result s).1 = .error f) (k : α → Run β) :
    ((r >>= k).result s).1 = .error f := by
  rw [result_bind]
  rcases hr : r.result s with ⟨o, t⟩
  rw [hr] at h
  cases h
  rfl

theorem lift_eq_ok_iff {r : Except Fault α} {s t : Session} {a : α} :
    (lift r).result s = (.ok a, t) ↔ r = .ok a ∧ t = s := by
  rw [result_lift, Prod.mk.injEq, eq_comm (a := s)]

theorem result_attempt_bind (r : Run α) (k : Except Fault α → Run β) (s : Session) :
    (attempt r >>= k).result s = (k (r.result s).1).result (r.result s).2 := by
  rw [result_bind, result_attempt]

theorem recover_eq_ok_iff {p : Fault → Bool} {handle : Fault → Run α} {r : Run α} {s t : Session} {a : α} :
    (recover p handle r).result s = (.ok a, t) ↔ r.result s = (.ok a, t) ∨
      ∃ f u, r.result s = (.error f, u) ∧ p f = true ∧ (handle f).result u = (.ok a, t) := by
  rw [result_recover]
  rcases r.result s with ⟨f | b, u⟩
  · cases hp : p f <;> simp [hp]
  · simp

theorem outcome_recover_of_error {p : Fault → Bool} {handle : Fault → Run α} {r : Run α} {s : Session} {f : Fault}
    (h : (r.result s).1 = .error f) (hp : p f = false) : ((recover p handle r).result s).1 = .error f := by
  rw [result_recover]
  rcases hr : r.result s with ⟨o, t⟩
  rw [hr] at h
  cases h
  simp [hp]

/-! ## Lists of computations -/

theorem result_mapM_cons (f : α → Run β) (x : α) (rest : List α) (s : Session) :
    ((x :: rest).mapM f).result s = match (f x).result s with
      | (.ok b, t) => match (rest.mapM f).result t with
        | (.ok bs, u) => (.ok (b :: bs), u)
        | (.error fault, u) => (.error fault, u)
      | (.error fault, t) => (.error fault, t) := by
  rw [List.mapM_cons, result_bind]
  rcases (f x).result s with ⟨fault | b, t⟩
  · rfl
  · simp only [result_bind]
    rcases (rest.mapM f).result t with ⟨fault | bs, u⟩ <;> rfl

theorem forall₂_of_mapM {f : α → Run β} {xs : List α} {ys : List β} {s t : Session}
    (h : (xs.mapM f).result s = (.ok ys, t)) :
    List.Forall₂ (fun x y => ∃ u v, (f x).result u = (.ok y, v)) xs ys := by
  induction xs generalizing s ys with
  | nil =>
    cases h
    exact .nil
  | cons x rest ih =>
    rw [List.mapM_cons] at h
    obtain ⟨y, u, hx, h⟩ := bind_eq_ok_iff.1 h
    obtain ⟨ys', v, hrest, h⟩ := bind_eq_ok_iff.1 h
    cases h
    exact .cons ⟨s, u, hx⟩ (ih hrest)

/-- What pure computations have and sequencing keeps, lists of computations have. -/
theorem mapM_closed {C : {γ : Type} → Run γ → Prop} (hpure : ∀ {γ : Type} (a : γ), C (pure a))
    (hbind : ∀ {γ δ : Type} {r : Run γ} {k : γ → Run δ}, C r → (∀ a, C (k a)) → C (r >>= k))
    {f : α → Run β} (xs : List α) (h : ∀ x ∈ xs, C (f x)) : C (xs.mapM f) := by
  induction xs with
  | nil => exact hpure []
  | cons x rest ih =>
    rw [List.mapM_cons]
    refine hbind (h x List.mem_cons_self) fun b => ?_
    exact hbind (ih fun y hy => h y (List.mem_cons_of_mem x hy)) fun bs => hpure _

/-- What always gives an outcome of its own gives it in a list of computations. -/
theorem outcome_mapM {f : α → Run β} {g : α → β} {xs : List α}
    (h : ∀ x ∈ xs, ∀ s, ((f x).result s).1 = .ok (g x)) (s : Session) :
    ((xs.mapM f).result s).1 = .ok (xs.map g) := by
  induction xs generalizing s with
  | nil => rfl
  | cons x rest ih =>
    obtain ⟨hx, hrest⟩ := List.forall_mem_cons.1 h
    rw [List.mapM_cons, outcome_bind_of_ok (hx s), outcome_bind_of_ok (ih hrest _)]
    rfl

/-- The first fault of a list of computations ends them all. -/
theorem outcome_mapM_error {f : α → Run β} {before after : List α} {x : α} {fault : Fault}
    (hbefore : ∀ y ∈ before, ∀ s, ∃ b, ((f y).result s).1 = .ok b) (hx : ∀ s, ((f x).result s).1 = .error fault)
    (s : Session) : (((before ++ x :: after).mapM f).result s).1 = .error fault := by
  induction before generalizing s with
  | nil =>
    rw [List.nil_append, List.mapM_cons]
    exact outcome_bind_of_error (hx s) _
  | cons y rest ih =>
    obtain ⟨hy, hrest⟩ := List.forall_mem_cons.1 hbefore
    obtain ⟨b, hfirst⟩ := hy s
    rw [List.cons_append, List.mapM_cons, outcome_bind_of_ok hfirst]
    exact outcome_bind_of_error (ih hrest _) _

end

/-! ## Blind computations -/

section
variable {α β : Type} {P : Event → Prop}

def Blind (P : Event → Prop) (r : Run α) : Prop :=
  ∃ (outcome : Except Fault α) (added : List Event), (∀ e ∈ added, P e) ∧
    ∀ s : Session, r.result s = (outcome, s.extend added)

theorem blind_pure (a : α) : Blind P (pure a) := ⟨.ok a, [], by simp, fun s => by simp⟩

theorem blind_throw (f : Fault) : Blind P (throw f : Run α) := ⟨.error f, [], by simp, fun s => by simp⟩

theorem blind_lift (r : Except Fault α) : Blind P (lift r) := ⟨r, [], by simp, fun s => by simp⟩

theorem blind_record {e : Event} (h : P e) : Blind P (record e) :=
  ⟨.ok (), [e], by simpa using h, fun s => by simp [Session.extend]⟩

theorem Blind.bind {r : Run α} {k : α → Run β} (hr : Blind P r) (hk : ∀ a, Blind P (k a)) : Blind P (r >>= k) := by
  obtain ⟨outcome, added, hadded, hresult⟩ := hr
  cases outcome with
  | error f => exact ⟨.error f, added, hadded, fun s => by rw [result_bind, hresult s]⟩
  | ok a =>
    obtain ⟨outcome', added', hadded', hresult'⟩ := hk a
    refine ⟨outcome', added ++ added', fun e he => ?_, fun s => ?_⟩
    · exact (List.mem_append.1 he).elim (hadded e) (hadded' e)
    · rw [result_bind, hresult s]
      simp only
      rw [hresult', Session.extend_extend]

theorem blind_mapM {f : α → Run β} (xs : List α) (h : ∀ x ∈ xs, Blind P (f x)) : Blind P (xs.mapM f) :=
  mapM_closed (C := fun r => Blind P r) blind_pure Blind.bind xs h

theorem Blind.outcome_eq {r : Run α} (h : Blind P r) (s t : Session) : (r.result s).1 = (r.result t).1 := by
  obtain ⟨outcome, added, _, hr⟩ := h
  rw [hr s, hr t]

end

/-! ## Confined computations -/

section
variable {α β : Type} {P : Event → Prop}

def Confined (P : Event → Prop) (r : Run α) : Prop :=
  ∀ n : Nat, ∃ (outcome : Except Fault α) (added : List Event), (∀ e ∈ added, P e) ∧
    ∀ s : Session, s.openedCount = n → r.result s = (outcome, s.extend added)

theorem Blind.confined {r : Run α} (h : Blind P r) : Confined P r := by
  intro n
  obtain ⟨outcome, added, hadded, hr⟩ := h
  exact ⟨outcome, added, hadded, fun s _ => hr s⟩

theorem Confined.mono {Q : Event → Prop} {r : Run α} (h : Confined P r) (hPQ : ∀ e, P e → Q e) : Confined Q r := by
  intro n
  obtain ⟨outcome, added, hadded, hr⟩ := h n
  exact ⟨outcome, added, fun e he => hPQ e (hadded e he), hr⟩

theorem confined_pure (a : α) : Confined P (pure a) := (blind_pure a).confined

theorem confined_throw (f : Fault) : Confined P (throw f : Run α) := (blind_throw f).confined

theorem confined_lift (r : Except Fault α) : Confined P (lift r) := (blind_lift r).confined

theorem confined_record {e : Event} (h : P e) : Confined P (record e) := (blind_record h).confined

theorem confined_log {level : Level} {text : String} (h : P (.logged ⟨level, text⟩)) : Confined P (log level text) :=
  confined_record h

theorem Confined.bind {r : Run α} {k : α → Run β} (hr : Confined P r) (hk : ∀ a, Confined P (k a)) :
    Confined P (r >>= k) := by
  intro n
  obtain ⟨outcome, added, hadded, hresult⟩ := hr n
  cases outcome with
  | error f => exact ⟨.error f, added, hadded, fun s hs => by rw [result_bind, hresult s hs]⟩
  | ok a =>
    obtain ⟨outcome', added', hadded', hresult'⟩ := hk a (n + added.countP Event.isOpened)
    refine ⟨outcome', added ++ added', fun e he => ?_, fun s hs => ?_⟩
    · exact (List.mem_append.1 he).elim (hadded e) (hadded' e)
    · rw [result_bind, hresult s hs]
      simp only
      rw [hresult' _ (by rw [Session.openedCount_extend, hs]), Session.extend_extend]

theorem confined_lift_bind {r : Except Fault α} {k : α → Run β} (h : ∀ a, r = .ok a → Confined P (k a)) :
    Confined P (lift r >>= k) := by
  cases r with
  | error f => exact confined_throw (α := β) f
  | ok a => exact h a rfl

theorem Confined.attempt {r : Run α} (h : Confined P r) : Confined P (Run.attempt r) := by
  intro n
  obtain ⟨outcome, added, hadded, hr⟩ := h n
  exact ⟨.ok outcome, added, hadded, fun s hs => by rw [result_attempt, hr s hs]⟩

theorem Confined.recover {p : Fault → Bool} {handle : Fault → Run α} {r : Run α} (hr : Confined P r)
    (hhandle : ∀ f, Confined P (handle f)) : Confined P (Run.recover p handle r) := by
  refine hr.attempt.bind fun outcome => ?_
  cases outcome with
  | ok a => exact confined_pure a
  | error f =>
    simp only
    split
    · exact hhandle f
    · exact confined_throw f

theorem Confined.wrap {p : Fault → Bool} {change : Fault → Fault} {r : Run α} (h : Confined P r) :
    Confined P (Run.wrap p change r) := h.recover fun _ => confined_throw _

theorem confined_mapM {f : α → Run β} (xs : List α) (h : ∀ x ∈ xs, Confined P (f x)) : Confined P (xs.mapM f) :=
  mapM_closed (C := fun r => Confined P r) confined_pure Confined.bind xs h

theorem result_openedCount (k : Nat → Run α) (s : Session) :
    ((get >>= fun s : Session => k s.openedCount : Run α)).result s = (k s.openedCount).result s := by
  rw [result_bind]
  rfl

theorem confined_openedCount {k : Nat → Run α} (h : ∀ n, Confined P (k n)) :
    Confined P (get >>= fun s : Session => k s.openedCount) := by
  intro n
  obtain ⟨outcome, added, hadded, hr⟩ := h n n
  refine ⟨outcome, added, hadded, fun s hs => ?_⟩
  rw [result_openedCount, hs, hr s hs]

/-! ## Outcomes by the number of connections -/

def outcomeAt (r : Run α) (n : Nat) : Except Fault α := (r.result (.opened n)).1

theorem Confined.outcome_eq {r : Run α} (h : Confined P r) (s : Session) :
    (r.result s).1 = r.outcomeAt s.openedCount := by
  obtain ⟨outcome, added, _, hr⟩ := h s.openedCount
  rw [outcomeAt, hr s rfl, hr _ (Session.openedCount_opened _)]

theorem Confined.result_eq {r : Run α} (h : Confined P r) (s : Session) :
    ∃ added, (∀ e ∈ added, P e) ∧ r.result s = (r.outcomeAt s.openedCount, s.extend added) := by
  obtain ⟨outcome, added, hadded, hr⟩ := h s.openedCount
  exact ⟨added, hadded, by rw [← h.outcome_eq s, hr s rfl]⟩

theorem Confined.left_eq {r : Run α} (h : Confined P r) {s t : Session} {outcome : Except Fault α}
    (hr : r.result s = (outcome, t)) : ∃ added, (∀ e ∈ added, P e) ∧ t = s.extend added := by
  obtain ⟨added, hadded, hleft⟩ := h.result_eq s
  exact ⟨added, hadded, (Prod.mk.inj (hr.symm.trans hleft)).2⟩

/-- What follows a computation adds to what it left. -/
theorem Confined.extends_bind {r : Run α} {k : α → Run β} (hk : ∀ a, Confined P (k a)) {s : Session}
    {added : List Event} (h : (r.result s).2 = s.extend added) :
    ∃ more, ((r >>= k).result s).2 = s.extend (added ++ more) := by
  rw [result_bind]
  rcases hr : r.result s with ⟨f | a, t⟩
  · refine ⟨[], ?_⟩
    rw [hr] at h
    rw [List.append_nil, ← h]
  · rw [hr] at h
    simp only at h
    obtain ⟨more, _, hmore⟩ := (hk a).result_eq t
    refine ⟨more, ?_⟩
    simp only
    rw [hmore, h, Session.extend_extend]

theorem Confined.openedCount_eq {r : Run α} (h : Confined P r) (hP : ∀ e, P e → e.isOpened = false) (s : Session) :
    (r.result s).2.openedCount = s.openedCount := by
  obtain ⟨added, hadded, hr⟩ := h.result_eq s
  have hnone : added.countP Event.isOpened = 0 :=
    List.countP_eq_zero.2 fun e he => Bool.eq_false_iff.1 (hP e (hadded e he))
  rw [hr, Session.openedCount_extend, hnone, Nat.add_zero]

end

end Run
end TableDump
