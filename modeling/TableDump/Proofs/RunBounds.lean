import TableDump.Proofs.RunFrame

/-! # Bounds on computations

What a computation can end in and leave at most, whatever session it begins in.

* `Run.Leaves P r`: `r` leaves events that satisfy `P`.
* `Run.Ends Q G r`: `r` ends in a fault that satisfies `Q` or in a value that satisfies `G`. `Run.EndsAt n Q G r`: it does
  where `n` connections were opened.
* `Run.Silent r`: `r` writes nothing.
* Leaving, ending and silence are closed under what computations are put together with; a confined computation is silent and
  leaves what it is confined to.
-/

namespace TableDump
set_option autoImplicit false

namespace Run
variable {α β : Type}

/-! ## Events -/

section
variable {P : Event → Prop}

def Leaves (P : Event → Prop) (r : Run α) : Prop :=
  ∀ s : Session, ∃ added, (∀ e ∈ added, P e) ∧ (r.result s).2.events = s.events ++ added

theorem Confined.leaves {r : Run α} (h : Confined P r) : Leaves P r := by
  intro s
  obtain ⟨added, hadded, hr⟩ := h.result_eq s
  exact ⟨added, hadded, by rw [hr, Session.events_extend]⟩

theorem confined_foldlM {f : β → α → Run β} (h : ∀ b x, Confined P (f b x)) (xs : List α) (b : β) :
    Confined P (xs.foldlM f b) := by
  induction xs generalizing b with
  | nil => exact confined_pure b
  | cons x rest ih =>
    rw [List.foldlM_cons]
    exact (h b x).bind ih

theorem leaves_write (text : String) : Leaves P (write text) := fun s => ⟨[], by simp, by simp⟩

theorem Leaves.mono {Q : Event → Prop} {r : Run α} (h : Leaves P r) (hPQ : ∀ e, P e → Q e) : Leaves Q r := by
  intro s
  obtain ⟨added, hadded, hr⟩ := h s
  exact ⟨added, fun e he => hPQ e (hadded e he), hr⟩

theorem Leaves.bind {r : Run α} {k : α → Run β} (hr : Leaves P r) (hk : ∀ a s t, r.result s = (.ok a, t) → Leaves P (k a)) :
    Leaves P (r >>= k) := by
  intro s
  obtain ⟨first, hfirst, hevents⟩ := hr s
  rw [result_bind]
  rcases hs : r.result s with ⟨f | a, t⟩
  · rw [hs] at hevents
    exact ⟨first, hfirst, hevents⟩
  · rw [hs] at hevents
    obtain ⟨next, hnext, hevents'⟩ := hk a s t hs t
    refine ⟨first ++ next, fun e he => ?_, ?_⟩
    · exact (List.mem_append.1 he).elim (hfirst e) (hnext e)
    · simp only at hevents ⊢
      rw [hevents', hevents, List.append_assoc]

theorem leaves_mapM {f : α → Run β} {xs : List α} (h : ∀ x ∈ xs, Leaves P (f x)) : Leaves P (xs.mapM f) :=
  mapM_closed (C := fun r => Leaves P r) (fun a => (confined_pure a).leaves) (fun hr hk => hr.bind fun a _ _ _ => hk a) xs h

theorem Leaves.attempt {r : Run α} (h : Leaves P r) : Leaves P (Run.attempt r) := fun s => h s

theorem Leaves.recover {p : Fault → Bool} {handle : Fault → Run α} {r : Run α} (hr : Leaves P r)
    (hhandle : ∀ f, Leaves P (handle f)) : Leaves P (Run.recover p handle r) := by
  refine hr.attempt.bind fun outcome _ _ _ => ?_
  cases outcome with
  | ok a => exact (confined_pure a).leaves
  | error f =>
    simp only
    split
    · exact hhandle f
    · exact (confined_throw f).leaves

theorem Leaves.since {r : Run α} (h : Leaves P r) (s : Session) : ∀ e ∈ (r.result s).2.since s, P e := by
  obtain ⟨added, hadded, hr⟩ := h s
  rw [Session.since, hr, List.drop_left]
  exact hadded

end

/-! ## Endings -/

section
variable {Q R : Fault → Prop} {G H : α → Prop}

/-- A fault that ends the computation satisfies `Q`, and a value that it gives satisfies `G`. -/
def Ends (Q : Fault → Prop) (G : α → Prop) (r : Run α) : Prop :=
  ∀ s : Session, match (r.result s).1 with
    | .ok a => G a
    | .error f => Q f

theorem Ends.fault {r : Run α} (h : Ends Q G r) {s t : Session} {f : Fault} (hr : r.result s = (.error f, t)) : Q f := by
  simpa only [hr] using h s

theorem Ends.value {r : Run α} (h : Ends Q G r) {s t : Session} {a : α} (hr : r.result s = (.ok a, t)) : G a := by
  simpa only [hr] using h s

theorem ends_anyhow (r : Run α) : Ends (fun _ => True) (fun _ => True) r := by
  intro s
  cases (r.result s).1 <;> trivial

theorem ends_pure {a : α} (h : G a) : Ends Q G (pure a : Run α) := fun _ => h

theorem ends_throw {f : Fault} (h : Q f) : Ends Q G (throw f : Run α) := fun _ => h

theorem ends_record (e : Event) : Ends Q (fun _ => True) (record e) := fun _ => trivial

theorem ends_lift {r : Except Fault α} (hfault : ∀ f, r = .error f → Q f) (hvalue : ∀ a, r = .ok a → G a) :
    Ends Q G (lift r) := by
  cases r with
  | ok a => exact ends_pure (hvalue a rfl)
  | error f => exact ends_throw (hfault f rfl)

theorem Ends.mono {r : Run α} (h : Ends Q G r) (hQR : ∀ f, Q f → R f) (hGH : ∀ a, G a → H a) : Ends R H r := by
  intro s
  have hs := h s
  revert hs
  cases (r.result s).1 with
  | ok a => exact hGH a
  | error f => exact hQR f

theorem Ends.and {r : Run α} (h : Ends Q G r) (h' : Ends R H r) : Ends (fun f => Q f ∧ R f) (fun a => G a ∧ H a) r := by
  intro s
  have hs := h s
  have hs' := h' s
  revert hs hs'
  cases (r.result s).1 with
  | ok a => exact And.intro
  | error f => exact And.intro

theorem Ends.bind {r : Run α} {k : α → Run β} {K : β → Prop} (hr : Ends Q G r) (hk : ∀ a, G a → Ends Q K (k a)) :
    Ends Q K (r >>= k) := by
  intro s
  rw [result_bind]
  rcases hs : r.result s with ⟨f | a, t⟩
  · exact hr.fault hs
  · exact hk a (hr.value hs) t

theorem Ends.attempt {r : Run α} (h : Ends Q G r) : Ends R (fun outcome => match outcome with
    | .ok a => G a
    | .error f => Q f) (Run.attempt r) := h

theorem Ends.recover {p : Fault → Bool} {handle : Fault → Run α} {r : Run α} (hr : Ends R G r)
    (hpass : ∀ f, R f → p f = false → Q f) (hhandle : ∀ f, R f → p f = true → Ends Q G (handle f)) :
    Ends Q G (Run.recover p handle r) := by
  refine hr.attempt.bind fun outcome houtcome => ?_
  cases outcome with
  | ok a => exact ends_pure houtcome
  | error f =>
    simp only
    split
    · next hp => exact hhandle f houtcome hp
    · next hp => exact ends_throw (hpass f houtcome (Bool.eq_false_iff.2 hp))

theorem Ends.wrap {p : Fault → Bool} {change : Fault → Fault} {r : Run α} (hr : Ends R G r)
    (hpass : ∀ f, R f → p f = false → Q f) (hchange : ∀ f, R f → p f = true → Q (change f)) :
    Ends Q G (Run.wrap p change r) :=
  hr.recover hpass fun f hf hp => ends_throw (hchange f hf hp)

theorem ends_mapM {f : α → Run β} {K : β → Prop} {xs : List α} (h : ∀ x ∈ xs, Ends Q K (f x)) :
    Ends Q (fun ys => ∀ y ∈ ys, K y) (xs.mapM f) := by
  induction xs with
  | nil => exact ends_pure (by simp)
  | cons x rest ih =>
    obtain ⟨hx, hrest⟩ := List.forall_mem_cons.1 h
    rw [List.mapM_cons]
    refine hx.bind fun y hy => ?_
    exact (ih hrest).bind fun ys hys => ends_pure (List.forall_mem_cons.2 ⟨hy, hys⟩)

/-- What every step keeps holds in the end. -/
theorem ends_foldlM {f : β → α → Run β} {I : β → Prop} {xs : List α} (h : ∀ x ∈ xs, ∀ b, I b → Ends Q I (f b x)) {b : β}
    (hb : I b) : Ends Q I (xs.foldlM f b) := by
  induction xs generalizing b with
  | nil => exact ends_pure hb
  | cons x rest ih =>
    obtain ⟨hx, hrest⟩ := List.forall_mem_cons.1 h
    rw [List.foldlM_cons]
    exact (hx b hb).bind fun c hc => ih hrest hc

/-- Steps that give what a function gives fold as the function does. -/
theorem ends_foldlM_foldl {f : β → α → Run β} {g : β → α → β} (h : ∀ b x, Ends Q (fun c => c = g b x) (f b x)) (xs : List α) (b : β) :
    Ends Q (fun c => c = xs.foldl g b) (xs.foldlM f b) := by
  induction xs generalizing b with
  | nil => exact ends_pure rfl
  | cons x rest ih =>
    rw [List.foldlM_cons]
    refine (h b x).bind fun c hc => ?_
    obtain rfl := hc
    exact ih _

/-- Steps that each succeed exactly for elements of a kind succeed together exactly for lists of that kind. -/
theorem ends_foldlM_forall {f : β → α → Run β} {T : α → Prop} {xs : List α}
    (h : ∀ x ∈ xs, ∀ b, Ends (fun _ => ¬ T x) (fun _ => T x) (f b x)) (b : β) :
    Ends (fun _ => ¬ ∀ x ∈ xs, T x) (fun _ => ∀ x ∈ xs, T x) (xs.foldlM f b) := by
  induction xs generalizing b with
  | nil => exact ends_pure (List.forall_mem_nil T)
  | cons x rest ih =>
    obtain ⟨hx, hrest⟩ := List.forall_mem_cons.1 h
    rw [List.foldlM_cons]
    refine ((hx b).mono (fun _ hfault hall => hfault (hall x List.mem_cons_self)) fun _ hT => hT).bind fun c hT => ?_
    refine (ih hrest c).mono (fun _ hfault hall => ?_) fun _ hall => List.forall_mem_cons.2 ⟨hT, hall⟩
    exact hfault (List.forall_mem_cons.1 hall).2

theorem ends_forIn {body : α → Run Unit} {xs : List α} (h : ∀ x ∈ xs, Ends Q (fun _ => True) (body x)) :
    Ends Q (fun _ => True) (forIn xs PUnit.unit fun x _ => do
      body x
      pure (ForInStep.yield PUnit.unit)) := by
  induction xs with
  | nil => exact ends_pure trivial
  | cons x rest ih =>
    obtain ⟨hx, hrest⟩ := List.forall_mem_cons.1 h
    rw [List.forIn_cons, bind_assoc]
    exact hx.bind fun _ _ => ih hrest

/-- `Ends`, in sessions in which `n` connections were opened. -/
def EndsAt (n : Nat) (Q : Fault → Prop) (G : α → Prop) (r : Run α) : Prop :=
  ∀ s : Session, s.openedCount = n → match (r.result s).1 with
    | .ok a => G a
    | .error f => Q f

variable {n : Nat}

theorem Ends.endsAt {r : Run α} (h : Ends Q G r) (n : Nat) : EndsAt n Q G r := fun s _ => h s

theorem EndsAt.fault {r : Run α} (h : EndsAt n Q G r) {s t : Session} (hs : s.openedCount = n) {f : Fault}
    (hr : r.result s = (.error f, t)) : Q f := by
  simpa only [hr] using h s hs

theorem EndsAt.value {r : Run α} (h : EndsAt n Q G r) {s t : Session} (hs : s.openedCount = n) {a : α}
    (hr : r.result s = (.ok a, t)) : G a := by
  simpa only [hr] using h s hs

theorem EndsAt.mono {r : Run α} (h : EndsAt n Q G r) (hQR : ∀ f, Q f → R f) (hGH : ∀ a, G a → H a) : EndsAt n R H r := by
  intro s hs
  have hends := h s hs
  revert hends
  cases (r.result s).1 with
  | ok a => exact hGH a
  | error f => exact hQR f

theorem EndsAt.bind {r : Run α} {k : α → Run β} {K : β → Prop} (hr : EndsAt n Q G r) (hk : ∀ a, G a → Ends Q K (k a)) :
    EndsAt n Q K (r >>= k) := by
  intro s hs
  rw [result_bind]
  rcases hresult : r.result s with ⟨f | a, t⟩
  · exact hr.fault hs hresult
  · exact hk a (hr.value hs hresult) t

/-- Records open no connections. -/
theorem Ends.bindAt {r : Run α} {k : α → Run β} {K : β → Prop} (hr : Ends Q G r) (hrecords : Confined Event.IsRecord r)
    (hk : ∀ a, G a → EndsAt n Q K (k a)) : EndsAt n Q K (r >>= k) := by
  intro s hs
  have hopened := hrecords.openedCount_eq (fun e he => he.isOpened_eq) s
  rw [result_bind]
  rcases hresult : r.result s with ⟨f | a, t⟩
  · exact hr.fault hresult
  · rw [hresult, hs] at hopened
    exact hk a (hr.value hresult) t hopened

end

/-! ## Writing -/

def Silent (r : Run α) : Prop := ∀ s : Session, (r.result s).2.written = s.written

theorem Confined.silent {P : Event → Prop} {r : Run α} (h : Confined P r) : Silent r := by
  intro s
  obtain ⟨added, -, hr⟩ := h.result_eq s
  rw [hr]
  rfl

theorem Silent.bind {r : Run α} {k : α → Run β} (hr : Silent r) (hk : ∀ a, Silent (k a)) : Silent (r >>= k) := by
  intro s
  have hs := hr s
  rw [result_bind]
  rcases hresult : r.result s with ⟨f | a, t⟩
  · rw [hresult] at hs
    exact hs
  · rw [hresult] at hs
    exact (hk a t).trans hs

theorem Silent.recover {p : Fault → Bool} {handle : Fault → Run α} {r : Run α} (hr : Silent r)
    (hhandle : ∀ f, Silent (handle f)) : Silent (Run.recover p handle r) := by
  intro s
  have hs := hr s
  rw [result_recover]
  rcases hresult : r.result s with ⟨f | a, t⟩
  · rw [hresult] at hs
    simp only
    split
    · exact (hhandle f t).trans hs
    · exact hs
  · rw [hresult] at hs
    exact hs

end Run
end TableDump
