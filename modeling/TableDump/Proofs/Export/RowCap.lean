import TableDump.Proofs.Export.HierarchyOrder

/-! # The cap on rows

What a smaller threshold leaves of the rows of a table.

* `Store.CutsRows`: a query for no more than so many rows gives the first ones. Declared stores do, and database files as
  far as numbers of rows reach.
* Two extractions that differ in the threshold read the same columns and map the records one by one, so the records of
  the one are the first records of the other (`Mapped.exists_capped`).
* An extraction with the smaller threshold succeeds, too, with the first rows. In the hierarchy table it keeps some of
  the rows in their order (`extract_caps_rows`).
-/

namespace TableDump
open TableDump.Text
set_option autoImplicit false

/-! ## Stores -/

/-- A query for no more than `n` rows gives the first of those that it gives for a greater limit, or for none. -/
def Store.CutsRows (store : Store) (n : Int) : Prop :=
  ∀ (q : Query) (limit : Option Int) (records : List (List Value)), (∀ m ∈ limit, n ≤ m) →
    store.rows { q with limit := limit } = .ok records → store.rows { q with limit := some n } = .ok (records.take n.toNat)

theorem DeclaredStore.limited_eq_take {α : Type} {limit : Option Int} {n : Int} (h : ∀ m ∈ limit, n ≤ m) (rows : List α) :
    limited (some n) rows = (limited limit rows).take n.toNat := by
  cases limit with
  | none => rfl
  | some m =>
    have hless := h m rfl
    rw [limited, limited, List.take_take, Nat.min_eq_left (by omega)]

theorem DeclaredStore.cutsRows_toStore (d : DeclaredStore) (n : Int) : d.toStore.CutsRows n := by
  intro q limit records hlimit hrows
  change d.rows { q with limit := limit } = .ok records at hrows
  show d.rows { q with limit := some n } = .ok (records.take n.toNat)
  unfold DeclaredStore.rows at hrows ⊢
  simp only at hrows ⊢
  split at hrows
  · obtain ⟨_, hquery, hrows⟩ := outcome_bind_eq_ok_iff.1 hrows
    refine outcome_bind_eq_ok_iff.2 ⟨_, hquery, ?_⟩
    unfold answerUnless at hrows ⊢
    split at hrows
    · cases hrows
    · cases hrows
      rw [limited_eq_take hlimit]
  · cases hrows

theorem outcome_mapM_take {α β : Type} {f : α → Except Fault β} {xs : List α} {ys : List β} (h : xs.mapM f = .ok ys) (n : Nat) :
    (xs.take n).mapM f = .ok (ys.take n) := by
  induction xs generalizing ys n with
  | nil =>
    cases h
    cases n <;> rfl
  | cons x rest ih =>
    rw [List.mapM_cons] at h
    obtain ⟨y, hx, h⟩ := outcome_bind_eq_ok_iff.1 h
    obtain ⟨ys', hrest, hys⟩ := outcome_bind_eq_ok_iff.1 h
    cases hys
    cases n with
    | zero => rfl
    | succ n =>
      rw [List.take_succ_cons, List.take_succ_cons, List.mapM_cons]
      exact outcome_bind_eq_ok_iff.2 ⟨y, hx, outcome_bind_eq_ok_iff.2 ⟨_, ih hrest n, rfl⟩⟩

theorem Database.cutsRows_toStore (db : Database) (connect : Except Fault Unit) {n : Int} (hn : n ≤ DatabaseTable.greatestLimit) :
    (db.toStore connect).CutsRows n := by
  intro q limit records hlimit hrows
  obtain ⟨t, htable, hrows⟩ := outcome_bind_eq_ok_iff.1 hrows
  refine outcome_bind_eq_ok_iff.2 ⟨t, htable, ?_⟩
  unfold DatabaseTable.select at hrows ⊢
  simp only at hrows ⊢
  split at hrows
  · cases hrows
  · have hsmall : ¬ (some n).getD 0 > DatabaseTable.greatestLimit := Int.not_lt.2 hn
    rw [if_neg hsmall, DeclaredStore.limited_eq_take hlimit]
    exact outcome_mapM_take hrows n.toNat

/-! ## Thresholds -/

theorem rowLimit_of_pos {n : Int} (hn : 0 < n) : rowLimit (.int n) = .ok (some n) := by
  rw [rowLimit, Json.compareZero, Int.compare_eq_gt.2 hn]
  rfl

/-- A threshold that is no less than `n`, or none at all, limits the rows to no fewer than `n`. -/
theorem exists_limit_of_le {n m : Int} (hn : 0 < n) (hm : n ≤ m ∨ m ≤ 0) :
    ∃ limit, rowLimit (.int m) = .ok limit ∧ ∀ k ∈ limit, n ≤ k := by
  rcases hm with hm | hm
  · exact ⟨some m, rowLimit_of_pos (by omega), by simpa using hm⟩
  · refine ⟨none, ?_, by simp⟩
    rw [rowLimit, Json.compareZero]
    cases hcompare : compare m 0 with
    | gt => exact absurd (Int.compare_eq_gt.1 hcompare) (by omega)
    | _ => rfl

/-! ## Records -/

theorem Run.exists_mapM {α β : Type} {P : Event → Prop} {f : α → Run β} (hf : ∀ x, Run.Blind P (f x)) {xs : List α} {ys : List β}
    (h : List.Forall₂ (fun x y => ∃ u v, (f x).result u = (.ok y, v)) xs ys) (s : Session) :
    ∃ t, (xs.mapM f).result s = (.ok ys, t) := by
  induction h generalizing s with
  | nil => exact ⟨s, rfl⟩
  | @cons x y xs ys hx _ ih =>
    obtain ⟨u, v, hx⟩ := hx
    have houtcome : ((f x).result s).1 = .ok y := by rw [(hf x).outcome_eq s u, hx]
    obtain ⟨t, hrest⟩ := ih ((f x).result s).2
    refine ⟨t, ?_⟩
    rw [List.mapM_cons]
    exact Run.bind_eq_ok_iff.2 ⟨y, _, Prod.ext houtcome rfl, Run.bind_eq_ok_iff.2 ⟨ys, t, hrest, rfl⟩⟩

theorem blind_mapValue (e : Encoding) (n : Naming) (row : Row) (column : Column) (v : Value) :
    Run.Blind (fun _ => True) (mapValue e n row column v) := by
  refine (blind_encode e column v).bind fun text => ?_
  cases text with
  | none => exact Run.blind_pure _
  | some text => exact (Run.blind_lift _).bind fun name => Run.blind_pure _

theorem blind_mapColumns (e : Encoding) (n : Naming) (columns : List Column) (row : Row) (values : List Value) :
    Run.Blind (fun _ => True) (mapColumns e n row columns values) := by
  induction columns generalizing row values with
  | nil => exact Run.blind_pure _
  | cons column columns ih =>
    cases values with
    | nil => exact Run.blind_throw _
    | cons v values => exact (blind_mapValue e n row column v).bind fun row => ih row values

namespace Extractor
variable {x : Extractor} {entities : EntityIndex} {relations : RelationTables} {threshold : Json} {table : String} {s : Session}

/-- What succeeded was mapped, and put in order where the table follows the hierarchy. -/
theorem exists_mapped_of_extract {extracted : ExtractedTable} {t : Session}
    (h : (x.extract entities relations threshold table).result s = (.ok extracted, t)) :
    ∃ (m : x.Mapped entities relations threshold table s) (follows : Bool) (rows : List Row),
      x.isHierarchyTable table = .ok follows ∧ extracted = ⟨table, m.named.1, rows⟩ ∧
      (if follows then x.followHierarchy table m.rows else pure m.rows).result m.mapped = (.ok rows, t) := by
  rw [extract_eq] at h
  cases hnaming : exportNaming entities relations table with
  | error f =>
    rw [hnaming] at h
    cases h
  | ok named =>
    rw [hnaming, Run.lift_ok_bind, extractNamed] at h
    obtain ⟨read, u, hreads, hread⟩ := Run.bind_eq_ok_iff.1 h
    obtain ⟨rows, v, hmaps, hrows⟩ := Run.bind_eq_ok_iff.1 hread
    cases htable : x.isHierarchyTable table with
    | error f =>
      rw [htable] at hrows
      cases hrows
    | ok follows =>
      rw [htable, Run.lift_ok_bind] at hrows
      refine ⟨⟨named, read.1, read.2, rows, u, v, hnaming, hreads, hmaps⟩, follows, extracted.rows, rfl, ?_⟩
      cases follows with
      | false =>
        cases hrows
        exact ⟨rfl, rfl⟩
      | true =>
        obtain ⟨ordered, w, hordered, hextracted⟩ := Run.bind_eq_ok_iff.1 hrows
        cases hextracted
        exact ⟨rfl, hordered⟩

/-- With a smaller threshold the first records are mapped, to the first rows. -/
theorem Mapped.exists_capped {m n : Int} (hn : 0 < n) (hm : n ≤ m ∨ m ≤ 0) (hcuts : x.store.CutsRows n)
    (whole : x.Mapped entities relations (.int m) table s) : ∃ capped : x.Mapped entities relations (.int n) table s,
      capped.named = whole.named ∧ capped.rows = whole.rows.take n.toNat := by
  obtain ⟨limit, hlimit, hless⟩ := exists_limit_of_le hn hm
  obtain ⟨hopens, hcloses, names, q, hcolumns, hkey, hq, hrecords, -⟩ := readTable_eq_ok_iff.1 whole.reads
  obtain ⟨built, asked, hbuilt, hasked, rfl⟩ := buildQuery_eq_ok_iff.1 hq
  obtain rfl : limit = asked := Except.ok.inj (hlimit.symm.trans hasked)
  have hquery := buildQuery_eq_ok_iff.2 ⟨built, some n, hbuilt, rowLimit_of_pos hn, rfl⟩
  have hfirst := hcuts built limit _ hless hrecords
  have hreads : (x.readTable table (.int n)).result s = (.ok (whole.columns, whole.records.take n.toNat), _) :=
    readTable_eq_ok_iff.2 ⟨hopens, hcloses, names, _, hcolumns, hkey, hquery, hfirst, rfl⟩
  have hrows := List.forall₂_take n.toNat whole.forall₂_rows
  obtain ⟨t, hmapped⟩ := Run.exists_mapM (fun record => blind_mapColumns _ _ _ [] record) hrows _
  exact ⟨⟨whole.named, whole.columns, whole.records.take n.toNat, whole.rows.take n.toNat, _, t, whole.naming, hreads,
    Run.recover_eq_ok_iff.2 (.inl hmapped)⟩, rfl, rfl⟩

/-! ## Hierarchy -/

/-- The keys that the hierarchy gives have pairwise different texts. -/
def KeysDiffer (x : Extractor) : Prop :=
  ∀ hierarchy keys, x.hierarchy = some hierarchy → hierarchy x.hierarchyRoot = .ok keys → (keys.map Value.toText).Nodup

/-- Rows that stand first under a key among the first rows do so among all. -/
theorem rowsOf_take_sublist (rows : List Row) (n : Nat) (keys : List String) :
    (rowsOf (rows.take n) keys).Sublist (rowsOf rows keys) := by
  induction keys with
  | nil => exact List.Sublist.refl _
  | cons key rest ih =>
    have hsplit : rows.find? (fun row => row.id? == some key) =
        ((rows.take n).find? fun row => row.id? == some key).or ((rows.drop n).find? fun row => row.id? == some key) := by
      rw [← List.find?_append, List.take_append_drop]
    rw [rowsOf, rowsOf, List.filterMap_cons, List.filterMap_cons, hsplit]
    cases (rows.take n).find? fun row => row.id? == some key with
    | some row => exact ih.cons_cons row
    | none =>
      cases (rows.drop n).find? fun row => row.id? == some key with
      | none => exact ih
      | some row => exact ih.cons row

/-- Different keys give different rows, so there are no more of them. -/
theorem length_rowsOf_le {rows : List Row} {keys : List String} (hkeys : keys.Nodup) : (rowsOf rows keys).length ≤ rows.length := by
  have hlt : ∀ i ∈ firstPositions (rows.map Row.id?) keys, i < rows.length := fun i hi => by simpa using firstPositions_lt i hi
  have hcount := leftOut_add_length hlt (nodup_firstPositions_iff.2 (hkeys.filter _))
  have hlength := (forall₂_rowsOf rows keys).length_eq
  omega

/-- What follows the hierarchy with all rows does so with the first ones. -/
theorem exists_follow_take {rows ordered : List Row} {t : Session}
    (h : (x.followHierarchy table rows).result s = (.ok ordered, t)) (n : Nat) (u : Session) :
    ∃ capped v, (x.followHierarchy table (rows.take n)).result u = (.ok capped, v) ∧ capped.Sublist ordered ∧
      (x.KeysDiffer → capped.length ≤ n) := by
  have hfirst : (rows.take n).length ≤ n := by
    rw [List.length_take]
    exact Nat.min_le_left _ _
  cases hhierarchy : x.hierarchy with
  | none =>
    unfold followHierarchy at h ⊢
    rw [hhierarchy] at h ⊢
    cases h
    exact ⟨_, _, rfl, List.take_sublist n rows, fun _ => hfirst⟩
  | some hierarchy =>
    cases hkeys : hierarchy x.hierarchyRoot with
    | error f =>
      unfold followHierarchy at h
      rw [hhierarchy] at h
      simp only at h
      rw [hkeys] at h
      cases h
    | ok keys =>
      rw [result_followHierarchy hhierarchy hkeys] at h
      cases h
      refine ⟨_, _, result_followHierarchy hhierarchy hkeys _ u, rowsOf_take_sublist rows n _, fun hdiffer => ?_⟩
      exact (length_rowsOf_le (hdiffer hierarchy keys hhierarchy hkeys)).trans hfirst

/-! ## Extraction -/

theorem Mapped.result_extract_plain (m : x.Mapped entities relations threshold table s)
    (htable : x.isHierarchyTable table = .ok false) :
    (x.extract entities relations threshold table).result s = (.ok ⟨table, m.named.1, m.rows⟩, m.mapped) := by
  rw [extract_eq, m.naming, Run.lift_ok_bind, extractNamed]
  apply Run.bind_eq_ok_iff.2 ⟨_, _, m.reads, ?_⟩
  apply Run.bind_eq_ok_iff.2 ⟨_, _, m.maps, ?_⟩
  rw [htable]
  rfl

/-- What succeeds with a threshold, or without one, succeeds with a smaller one, and gives the first rows. In the hierarchy
table it gives some of the rows in their order, no more than the threshold when the keys differ. -/
theorem extract_caps_rows {n m : Int} (hn : 0 < n) (hm : n ≤ m ∨ m ≤ 0) (hcuts : x.store.CutsRows n) {whole : ExtractedTable}
    {t : Session} (h : (x.extract entities relations (.int m) table).result s = (.ok whole, t)) :
    ∃ capped u, (x.extract entities relations (.int n) table).result s = (.ok capped, u) ∧
      capped.table = whole.table ∧ capped.exportedName = whole.exportedName ∧
      (x.isHierarchyTable table = .ok false →
        capped.rows = whole.rows.take n.toNat ∧ capped.rows.length = min n.toNat whole.rows.length) ∧
      (x.isHierarchyTable table = .ok true →
        capped.rows.Sublist whole.rows ∧ (x.KeysDiffer → capped.rows.length ≤ n.toNat)) := by
  obtain ⟨mapped, follows, rows, htable, rfl, hrows⟩ := exists_mapped_of_extract h
  obtain ⟨capped, hnamed, hcapped⟩ := mapped.exists_capped hn hm hcuts
  rw [htable]
  cases follows with
  | false =>
    cases hrows
    refine ⟨_, _, capped.result_extract_plain htable, rfl, congrArg Prod.fst hnamed, fun _ => ⟨hcapped, ?_⟩, nofun⟩
    show capped.rows.length = _
    rw [hcapped, List.length_take]
  | true =>
    obtain ⟨ordered, u, hfollows, hsublist, hlength⟩ := exists_follow_take hrows n.toNat capped.mapped
    rw [← hcapped] at hfollows
    exact ⟨_, u, capped.result_extract htable hfollows, rfl, congrArg Prod.fst hnamed, nofun, fun _ => ⟨hsublist, hlength⟩⟩

/-- The realms as any other table. -/
def plainRealms : Extractor := { realmExtractor realmKeys with hierarchyTable := .null }

/-- Of four realms, two follow the hierarchy; of the first realm alone the second of them is left. As any other table, the
realms are cut behind the third. -/
theorem extract_caps_rows_realms :
    ((0 : Int) < 1 ∧ ((1 : Int) ≤ 0 ∨ (0 : Int) ≤ 0) ∧ (realmExtractor realmKeys).store.CutsRows 1 ∧
      (realmExtractor realmKeys).isHierarchyTable "Realm" = .ok true ∧ (realmExtractor realmKeys).KeysDiffer ∧
      ∃ t capped u, ((realmExtractor realmKeys).extract realmIndex [] (.int 0) "Realm").result {} =
          (.ok ⟨"Realm", .str "Realm", [[("Id", "r2"), ("parent_id", "r1")], [("Id", "r1")]]⟩, t) ∧
        ((realmExtractor realmKeys).extract realmIndex [] (.int 1) "Realm").result {} = (.ok capped, u) ∧
        capped.rows.Sublist [[("Id", "r2"), ("parent_id", "r1")], [("Id", "r1")]] ∧ capped.rows.length ≤ 1) ∧
    (0 : Int) < 3 ∧ ((3 : Int) ≤ 4 ∨ (4 : Int) ≤ 0) ∧ plainRealms.store.CutsRows 3 ∧
      plainRealms.isHierarchyTable "Realm" = .ok false ∧
      ∃ whole t capped u, (plainRealms.extract realmIndex [] (.int 4) "Realm").result {} = (.ok whole, t) ∧
        (plainRealms.extract realmIndex [] (.int 3) "Realm").result {} = (.ok capped, u) ∧
        whole.rows.length = 4 ∧ capped.rows = whole.rows.take 3 := by
  have hfollows : (realmExtractor realmKeys).isHierarchyTable "Realm" = .ok true := rfl
  have hplain : plainRealms.isHierarchyTable "Realm" = .ok false := rfl
  have hcuts : (realmExtractor realmKeys).store.CutsRows 1 := DeclaredStore.cutsRows_toStore _ 1
  have hcuts' : plainRealms.store.CutsRows 3 := DeclaredStore.cutsRows_toStore _ 3
  have hdiffer : (realmExtractor realmKeys).KeysDiffer := by
    intro hierarchy keys hhierarchy hkeys
    cases hhierarchy
    cases hkeys
    decide
  refine ⟨⟨by decide, by decide, hcuts, hfollows, hdiffer, ?_⟩, by decide, by decide, hcuts', hplain, ?_⟩
  · obtain ⟨capped, u, hcapped, -, -, -, hrows⟩ := extract_caps_rows (by decide) (.inr (by decide)) hcuts
      (by rfl : ((realmExtractor realmKeys).extract realmIndex [] (.int 0) "Realm").result {} =
        (.ok ⟨"Realm", .str "Realm", [[("Id", "r2"), ("parent_id", "r1")], [("Id", "r1")]]⟩, _))
    obtain ⟨hsublist, hlength⟩ := hrows hfollows
    exact ⟨_, capped, u, rfl, hcapped, hsublist, hlength hdiffer⟩
  · obtain ⟨capped, u, hcapped, -, -, hrows, -⟩ := extract_caps_rows (by decide) (.inl (by decide)) hcuts'
      (by rfl : (plainRealms.extract realmIndex [] (.int 4) "Realm").result {} = (.ok _, _))
    exact ⟨_, _, capped, u, rfl, hcapped, rfl, (hrows hplain).1⟩

end Extractor
end TableDump
