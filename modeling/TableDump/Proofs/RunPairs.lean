import TableDump.Proofs.RunFrame

/-! # Pairs of runs

Two computations that differ in how they name what they work on.

* `Agree R`: outcomes that are both values, which `R` relates, or both faults of one kind.
* `Session.Abreast`: sessions with as many connections opened and the same text written.
* `Run.Parallel R`: computations that have agreeing outcomes and leave sessions abreast whenever they begin in
  sessions abreast. Parallel computations are closed under everything that computations are put together with.
-/

namespace TableDump
set_option autoImplicit false

/-! ## Outcomes -/

section
variable {α β γ δ : Type} {R : α → β → Prop} {S : γ → δ → Prop}

inductive Agree (R : α → β → Prop) : Except Fault α → Except Fault β → Prop
  | ok {a : α} {b : β} (h : R a b) : Agree R (.ok a) (.ok b)
  | error {f g : Fault} (h : f.kind = g.kind) : Agree R (.error f) (.error g)

namespace Agree

theorem refl (x : Except Fault α) : Agree Eq x x := by
  cases x with
  | ok a => exact .ok rfl
  | error f => exact .error rfl

theorem of_eq {x y : Except Fault α} (h : x = y) : Agree Eq x y := h ▸ refl x

theorem mono {S : α → β → Prop} {x : Except Fault α} {y : Except Fault β} (h : Agree R x y)
    (hRS : ∀ a b, x = .ok a → y = .ok b → R a b → S a b) : Agree S x y := by
  cases h with
  | ok hab => exact .ok (hRS _ _ rfl rfl hab)
  | error hkind => exact .error hkind

theorem map {x : Except Fault α} {y : Except Fault β} {f : α → γ} {g : β → δ} (h : Agree R x y)
    (hfg : ∀ a b, R a b → S (f a) (g b)) : Agree S (x.map f) (y.map g) := by
  cases h with
  | ok hab => exact .ok (hfg _ _ hab)
  | error hkind => exact .error hkind

theorem bind {x : Except Fault α} {y : Except Fault β} {f : α → Except Fault γ} {g : β → Except Fault δ}
    (h : Agree R x y) (hfg : ∀ a b, R a b → Agree S (f a) (g b)) : Agree S (x >>= f) (y >>= g) := by
  cases h with
  | ok hab => exact hfg _ _ hab
  | error hkind => exact .error hkind

theorem mapError {x : Except Fault α} {y : Except Fault β} {f g : Fault → Fault} (h : Agree R x y)
    (hfg : ∀ a b, a.kind = b.kind → (f a).kind = (g b).kind) : Agree R (x.mapError f) (y.mapError g) := by
  cases h with
  | ok hab => exact .ok hab
  | error hkind => exact .error (hfg _ _ hkind)

theorem mapM {f : α → Except Fault γ} {g : β → Except Fault δ} {xs : List α} {ys : List β}
    (h : List.Forall₂ (fun a b => Agree S (f a) (g b)) xs ys) : Agree (List.Forall₂ S) (xs.mapM f) (ys.mapM g) := by
  induction h with
  | nil => exact .ok .nil
  | cons hab _ ih =>
    rw [List.mapM_cons, List.mapM_cons]
    exact hab.bind fun c d hcd => ih.bind fun cs ds hall => .ok (.cons hcd hall)

end Agree
end

/-- Decided by the kind of a fault. -/
def ByKind (p : Fault → Bool) : Prop := ∀ f g, f.kind = g.kind → p f = p g

theorem byKind (p : FaultKind → Bool) : ByKind fun f => p f.kind := fun _ _ h => congrArg p h

/-! ## Sessions -/

structure Session.Abreast (s t : Session) : Prop where
  openedCount : s.openedCount = t.openedCount
  written : s.written = t.written

theorem Session.Abreast.refl (s : Session) : s.Abreast s := ⟨rfl, rfl⟩

theorem Session.Abreast.extend {s t : Session} (h : s.Abreast t) {first next : List Event}
    (hcount : first.countP Event.isOpened = next.countP Event.isOpened) : (s.extend first).Abreast (t.extend next) where
  openedCount := by rw [openedCount_extend, openedCount_extend, h.openedCount, hcount]
  written := h.written

/-! ## Computations -/

namespace Run
variable {α β γ δ : Type} {R : α → β → Prop} {S : γ → δ → Prop}

def Parallel (R : α → β → Prop) (r : Run α) (r' : Run β) : Prop :=
  ∀ s t : Session, s.Abreast t → Agree R (r.result s).1 (r'.result t).1 ∧ (r.result s).2.Abreast (r'.result t).2

theorem parallel_lift {x : Except Fault α} {y : Except Fault β} (h : Agree R x y) : Parallel R (lift x) (lift y) := by
  intro s t hst
  rw [result_lift, result_lift]
  exact ⟨h, hst⟩

theorem parallel_pure {a : α} {b : β} (h : R a b) : Parallel R (pure a) (pure b) := parallel_lift (.ok h)

theorem parallel_throw {f g : Fault} (h : f.kind = g.kind) : Parallel R (throw f) (throw g) := parallel_lift (.error h)

theorem parallel_record {e e' : Event} (h : e.isOpened = e'.isOpened) : Parallel Eq (record e) (record e') := by
  intro s t hst
  refine ⟨.ok rfl, hst.extend ?_⟩
  rw [List.countP_singleton, List.countP_singleton, h]

theorem parallel_log (level level' : Level) (text text' : String) : Parallel Eq (log level text) (log level' text') :=
  parallel_record rfl

theorem parallel_write (text : String) : Parallel Eq (write text) (write text) := by
  intro s t hst
  exact ⟨.ok rfl, hst.openedCount, congrArg (· ++ text) hst.written⟩

theorem parallel_openedCount {k : Nat → Run α} {k' : Nat → Run β} (h : ∀ n, Parallel R (k n) (k' n)) :
    Parallel R (get >>= fun s : Session => k s.openedCount) (get >>= fun s : Session => k' s.openedCount) := by
  intro s t hst
  rw [result_openedCount, result_openedCount, ← hst.openedCount]
  exact h s.openedCount s t hst

namespace Parallel

theorem bind {r : Run α} {r' : Run β} {k : α → Run γ} {k' : β → Run δ} (hr : Parallel R r r')
    (hk : ∀ a b, R a b → Parallel S (k a) (k' b)) : Parallel S (r >>= k) (r' >>= k') := by
  intro s t hst
  obtain ⟨hagree, habreast⟩ := hr s t hst
  rw [result_bind, result_bind]
  rcases hs : r.result s with ⟨x, u⟩
  rcases ht : r'.result t with ⟨y, v⟩
  rw [hs, ht] at hagree habreast
  cases hagree with
  | ok hab => exact hk _ _ hab u v habreast
  | error hkind => exact ⟨.error hkind, habreast⟩

theorem attempt {r : Run α} {r' : Run β} (h : Parallel R r r') : Parallel (Agree R) (Run.attempt r) (Run.attempt r') := by
  intro s t hst
  rw [result_attempt, result_attempt]
  exact ⟨.ok (h s t hst).1, (h s t hst).2⟩

theorem recover {p : Fault → Bool} (hp : ByKind p) {handle : Fault → Run α} {handle' : Fault → Run β} {r : Run α}
    {r' : Run β} (hr : Parallel R r r') (hhandle : ∀ f g, f.kind = g.kind → Parallel R (handle f) (handle' g)) :
    Parallel R (Run.recover p handle r) (Run.recover p handle' r') := by
  refine hr.attempt.bind fun x y hxy => ?_
  cases hxy with
  | ok hab => exact parallel_pure hab
  | @error f g hkind =>
    simp only [hp f g hkind]
    split
    · exact hhandle f g hkind
    · exact parallel_throw hkind

theorem wrap {p : Fault → Bool} (hp : ByKind p) {change change' : Fault → Fault} {r : Run α} {r' : Run β}
    (hr : Parallel R r r') (hchange : ∀ f g, (change f).kind = (change' g).kind) :
    Parallel R (Run.wrap p change r) (Run.wrap p change' r') :=
  hr.recover hp fun f g _ => parallel_throw (hchange f g)

end Parallel

theorem parallel_mapM {f : α → Run γ} {f' : β → Run δ} {xs : List α} {ys : List β}
    (h : List.Forall₂ (fun a b => Parallel S (f a) (f' b)) xs ys) :
    Parallel (List.Forall₂ S) (xs.mapM f) (ys.mapM f') := by
  induction h with
  | nil => exact parallel_pure .nil
  | cons hab _ ih =>
    rw [List.mapM_cons, List.mapM_cons]
    exact hab.bind fun c d hcd => ih.bind fun cs ds hall => parallel_pure (.cons hcd hall)

end Run

/-! ## Connections -/

namespace Store
variable {α β : Type} {R : α → β → Prop} {a b : Store}

theorem parallel_withConnection (hconnect : ∀ n, Agree Eq (a.connect n) (b.connect n)) (hclose : Agree Eq a.close b.close)
    {body : Run α} {body' : Run β} (h : Run.Parallel R body body') :
    Run.Parallel R (a.withConnection body) (b.withConnection body') := by
  have hopen : Run.Parallel Eq a.openConnection b.openConnection := by
    refine (Run.parallel_record rfl).bind fun _ _ _ => ?_
    refine (Run.parallel_openedCount fun n => Run.parallel_lift (hconnect n)).wrap (byKind FaultKind.isDatabase) ?_
    exact fun f g => rfl
  have hshut : Run.Parallel Eq a.closeConnection b.closeConnection := by
    refine (Run.parallel_record rfl).bind fun _ _ _ => ?_
    exact (Run.parallel_lift hclose).recover (byKind FaultKind.isDatabase) fun _ _ _ => Run.parallel_pure rfl
  exact hopen.bind fun _ _ _ => h.attempt.bind fun x y hxy => hshut.bind fun _ _ _ => Run.parallel_lift hxy

end Store
end TableDump
