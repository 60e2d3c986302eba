import Mathlib.Data.List.Count
import Mathlib.Data.List.Forall2
import TableDump.Proofs.Config.CheckedManager

/-! # Connection strings read back

Which values of a connection string are read as they were written.

* `readBraced_escape`, `eq_escape_of_readBraced`: what is read in braces is the text whose closing braces were doubled.
* `Field.Reads`: whatever stands behind it, what is written for a value is read as the value. In braces that holds where the
  value has no closing brace (`Field.reads_inBraces_iff`), without them where it is `Plain` (`Field.reads_plain_iff`).
* `DatabaseParameters.login_reads_back`: the parts of a login are read back exactly where each of them is written so.
* `ConnectionParts.read_of_split`: what a semicolon in a password does.
-/

namespace TableDump
set_option autoImplicit false

namespace ConnectionString

/-! ## Braces -/

def doubleBrace (c : Char) : List Char := if c = '}' then ['}', '}'] else [c]

/-- A text as it has to stand in braces. -/
def escape (cs : List Char) : List Char := cs.flatMap doubleBrace

theorem count_escape (x : Char) (cs : List Char) : (escape cs).count x = (if x = '}' then 2 else 1) * cs.count x := by
  induction cs with
  | nil => simp [escape]
  | cons c rest ih =>
    rw [escape, List.flatMap_cons, List.count_append, ← escape, ih, List.count_cons]
    by_cases hc : c = '}' <;> by_cases hx : x = '}' <;> grind [doubleBrace]

theorem length_escape (cs : List Char) : (escape cs).length = cs.length + cs.count '}' := by
  induction cs with
  | nil => rfl
  | cons c rest ih =>
    rw [escape, List.flatMap_cons, List.length_append, ← escape, ih, List.count_cons, List.length_cons]
    by_cases hc : c = '}' <;> simp [doubleBrace, hc] <;> omega

theorem escape_of_notMem {cs : List Char} (h : '}' ∉ cs) : escape cs = cs := by
  induction cs with
  | nil => rfl
  | cons c rest ih =>
    simp only [List.mem_cons, not_or] at h
    rw [escape, List.flatMap_cons, doubleBrace, if_neg (Ne.symm h.1), ← escape, ih h.2, List.singleton_append]

theorem readBraced_cons {c : Char} (h : c ≠ '}') (done rest : List Char) :
    readBraced done (c :: rest) = readBraced (c :: done) rest := by
  rw [readBraced, if_neg h]
  rintro rest rfl -
  exact h rfl

theorem readBraced_close {tail : List Char} (h : tail.head? ≠ some '}') (done : List Char) :
    readBraced done ('}' :: tail) = some (done.reverse, tail) := by
  rw [readBraced, if_pos rfl]
  rintro rest - rfl
  exact h rfl

theorem readBraced_escape {tail : List Char} (htail : tail.head? ≠ some '}') (done cs : List Char) :
    readBraced done (escape cs ++ '}' :: tail) = some (done.reverse ++ cs, tail) := by
  induction cs generalizing done with
  | nil => rw [escape, List.flatMap_nil, List.nil_append, readBraced_close htail, List.append_nil]
  | cons c rest ih =>
    have hnext := ih (c :: done)
    rw [List.reverse_cons, List.append_assoc, List.singleton_append] at hnext
    rw [escape, List.flatMap_cons, ← escape]
    by_cases hc : c = '}'
    · subst hc
      exact hnext
    · rw [doubleBrace, if_neg hc, List.append_assoc, List.singleton_append, readBraced_cons hc]
      exact hnext

theorem eq_escape_of_readBraced {done cs value tail : List Char} (h : readBraced done cs = some (value, tail)) :
    ∃ read, value = done.reverse ++ read ∧ cs = escape read ++ '}' :: tail := by
  fun_induction readBraced done cs with
  | case1 => cases h
  | case2 done rest ih =>
    obtain ⟨read, rfl, rfl⟩ := ih h
    exact ⟨'}' :: read, by simp, by simp [escape, doubleBrace]⟩
  | case3 done rest =>
    cases h
    exact ⟨[], by simp, rfl⟩
  | case4 done c rest _ hc ih =>
    obtain ⟨read, rfl, rfl⟩ := ih h
    exact ⟨c :: read, by simp, by simp [escape, doubleBrace, hc]⟩

/-! ## Values -/

/-- A value that needs no braces: it holds no semicolon and does not begin as one in braces does. -/
def Plain (value : String) : Prop := ';' ∉ value.toList ∧ value.toList.head? ≠ some '{'

instance (value : String) : Decidable (Plain value) := inferInstanceAs (Decidable (_ ∧ _))

theorem toList_braced (value : String) : (braced value).toList = '{' :: (value.toList ++ ['}']) := by
  have hopen : "\x7b".toList = ['{'] := by decide
  have hclose : "\x7d".toList = ['}'] := by decide
  rw [braced, String.toList_append, String.toList_append, hopen, hclose, List.append_assoc, List.singleton_append]

/-- What is read in braces is written with its closing braces doubled. -/
theorem eq_escape_of_readValue {cs value after : List Char} (h : readValue ('{' :: cs) = some (value, after)) :
    ∃ tail, cs = escape value ++ '}' :: tail := by
  have hbraced : ∃ tail, readBraced [] cs = some (value, tail) := by
    unfold readValue at h
    split at h
    · next rest hcs =>
      cases hcs
      split at h
      · next value' after' hread =>
        cases h
        exact ⟨_, hread⟩
      · next value' hread =>
        cases h
        exact ⟨_, hread⟩
      · cases h
    · next hcs => exact absurd rfl (hcs cs)
  obtain ⟨tail, htail⟩ := hbraced
  obtain ⟨read, rfl, hcs⟩ := eq_escape_of_readBraced htail
  exact ⟨tail, hcs⟩

/-- Doubling closing braces writes any text. -/
theorem readValue_escape (value : List Char) (rest : List Char) :
    readValue ('{' :: (escape value ++ '}' :: ';' :: rest)) = some (value, rest) := by
  have hread := readBraced_escape (show (';' :: rest).head? ≠ some '}' by simp) [] value
  rw [List.reverse_nil, List.nil_append] at hread
  simp only [readValue, hread]

/-- A text in braces ends at the first closing brace of its own, if it has one. -/
theorem notMem_of_eq_escape {value rest tail : List Char} (h : value ++ '}' :: ';' :: rest = escape value ++ '}' :: tail) :
    '}' ∉ value := by
  intro hmem
  obtain ⟨k, hk⟩ : ∃ k, value.count '}' = k + 1 := Nat.exists_eq_add_one.2 (List.count_pos_iff.2 hmem)
  -- on the right the first characters are those of the escaped text with the brace that ends it
  have hright : (escape value ++ '}' :: tail).take (value.length + (k + 2)) = escape value ++ ['}'] := by
    have hlength : value.length + (k + 2) = (escape value).length + 1 := by rw [length_escape, hk]; omega
    rw [hlength, List.take_length_add_append, List.take_succ_cons, List.take_zero]
  -- on the left a semicolon is among them, which leaves too few places for that many braces
  have hleft : (value ++ '}' :: ';' :: rest).take (value.length + (k + 2)) = value ++ '}' :: ';' :: rest.take k := by
    rw [List.take_length_add_append, List.take_succ_cons, List.take_succ_cons]
  have hcount := congrArg (List.count '}') (hleft.symm.trans ((congrArg _ h).trans hright))
  have hrest : (rest.take k).count '}' ≤ k := List.count_le_length.trans (List.length_take_le k rest)
  have hmark : (';' == '}') = false := rfl
  simp only [List.count_append, count_escape, List.count_cons, List.count_nil, hk, beq_self_eq_true, hmark, if_true,
    Bool.false_eq_true, if_false] at hcount
  omega

/-- A value that begins with an opening brace is not read as it is. -/
theorem ne_escape_cons (value rest tail : List Char) : value ++ ';' :: rest ≠ escape ('{' :: value) ++ '}' :: tail := by
  intro h
  have hopen : escape ('{' :: value) = '{' :: escape value := rfl
  have hlength : value.length ≤ (escape value).length := by
    rw [length_escape]
    exact Nat.le_add_right _ _
  have hleft : (value ++ ';' :: rest).take (value.length + 1) = value ++ [';'] := by
    rw [List.take_length_add_append, List.take_succ_cons, List.take_zero]
  have hright : (escape ('{' :: value) ++ '}' :: tail).take (value.length + 1) = '{' :: (escape value).take value.length := by
    rw [hopen, List.cons_append, List.take_succ_cons, List.take_append_of_le_length hlength]
  have hcount := congrArg (List.count ';') (hleft.symm.trans ((congrArg _ h).trans hright))
  have hless : ((escape value).take value.length).count ';' ≤ value.count ';' := by
    have hall := count_escape ';' value
    rw [if_neg (by decide), Nat.one_mul] at hall
    exact hall ▸ (List.take_sublist _ _).count_le ';'
  rw [List.count_append, List.count_singleton_self, List.count_cons_of_ne (by decide)] at hcount
  omega

/-- A value that begins with no brace ends at the first semicolon. -/
theorem readValue_of_head? {value : List Char} (h : value.head? ≠ some '{') (rest : List Char) :
    readValue (value ++ ';' :: rest) = some ((value ++ ';' :: rest).takeWhile (· != ';'),
      ((value ++ ';' :: rest).dropWhile (· != ';')).drop 1) := by
  have hwhole : ∀ cs, value ++ ';' :: rest ≠ '{' :: cs := by
    intro cs hcs
    cases value with
    | nil => cases hcs
    | cons c value =>
      cases hcs
      exact h rfl
  unfold readValue
  split
  · next cs hcs => exact absurd hcs (hwhole cs)
  · rfl

theorem readValue_append {value : List Char} (hplain : ';' ∉ value) (hhead : value.head? ≠ some '{') (rest : List Char) :
    readValue (value ++ ';' :: rest) = some (value, rest) := by
  have hpass : ∀ c ∈ value, (c != ';') = true := fun c hc => bne_iff_ne.2 fun heq => hplain (heq ▸ hc)
  rw [readValue_of_head? hhead, List.takeWhile_append_of_pos hpass, List.dropWhile_append_of_pos hpass]
  simp

/-! ## Fields -/

/-- A keyword with its value, and with the text that is written for the value. -/
structure Field where
  key : String
  written : String
  value : String

namespace Field

/-- A value that is written as it is. -/
def plain (key value : String) : Field := ⟨key, value, value⟩

def inBraces (key value : String) : Field := ⟨key, braced value, value⟩

def pair (f : Field) : String × String := (f.key, f.written)

def meant (f : Field) : String × String := (f.key, f.value)

/-- Whatever stands behind it, what is written is read as the value. -/
def Reads (f : Field) : Prop := ∀ rest, readValue (f.written.toList ++ ';' :: rest) = some (f.value.toList, rest)

/-- What stands behind it does not decide whether the value is read. -/
def Settled (f : Field) : Prop :=
  ∀ rest after, readValue (f.written.toList ++ ';' :: rest) = some (f.value.toList, after) → f.Reads

variable {key value : String}

theorem notMem_of_readValue {rest after : List Char}
    (h : readValue ((braced value).toList ++ ';' :: rest) = some (value.toList, after)) : '}' ∉ value.toList := by
  rw [toList_braced, List.cons_append, List.append_assoc, List.singleton_append] at h
  obtain ⟨tail, htail⟩ := eq_escape_of_readValue h
  exact notMem_of_eq_escape htail

theorem reads_inBraces_iff : (inBraces key value).Reads ↔ '}' ∉ value.toList := by
  constructor
  · exact fun h => notMem_of_readValue (h [])
  · intro h rest
    have hread := readValue_escape value.toList rest
    rw [escape_of_notMem h] at hread
    show readValue ((braced value).toList ++ ';' :: rest) = _
    rw [toList_braced, List.cons_append, List.append_assoc, List.singleton_append]
    exact hread

theorem settled_inBraces : (inBraces key value).Settled := fun _ _ h => reads_inBraces_iff.2 (notMem_of_readValue h)

theorem plain_of_readValue {rest after : List Char}
    (h : readValue (value.toList ++ ';' :: rest) = some (value.toList, after)) : Plain value := by
  have hhead : value.toList.head? ≠ some '{' := by
    intro hopen
    obtain ⟨cs, hcs⟩ := List.head?_eq_some_iff.1 hopen
    rw [hcs, List.cons_append] at h
    obtain ⟨tail, htail⟩ := eq_escape_of_readValue h
    exact ne_escape_cons cs rest tail htail
  refine ⟨fun hmem => ?_, hhead⟩
  rw [readValue_of_head? hhead] at h
  have htaken : (value.toList ++ ';' :: rest).takeWhile (· != ';') = value.toList := (Prod.mk.inj (Option.some.inj h)).1
  rw [← htaken] at hmem
  exact absurd (List.mem_takeWhile_imp hmem) (by simp)

theorem reads_plain_iff : (plain key value).Reads ↔ Plain value :=
  ⟨fun h => plain_of_readValue (h []), fun h rest => readValue_append h.1 h.2 rest⟩

theorem settled_plain : (plain key value).Settled := fun _ _ h => reads_plain_iff.2 (plain_of_readValue h)

end Field

/-! ## Whole connection strings -/

theorem readPairs_cons {key : List Char} (hkey : '=' ∉ key) (fuel : Nat) (cs : List Char) :
    readPairs (fuel + 1) (key ++ '=' :: cs) = (readValue cs).bind fun (value, after) =>
      (readPairs fuel after).map ((String.ofList key, String.ofList value) :: ·) := by
  have hpass : ∀ c ∈ key, (c != '=') = true := fun c hc => bne_iff_ne.2 fun heq => hkey (heq ▸ hc)
  have htake : (key ++ '=' :: cs).takeWhile (· != '=') = key := by
    rw [List.takeWhile_append_of_pos hpass]
    simp
  have hdrop : (key ++ '=' :: cs).dropWhile (· != '=') = '=' :: cs := by
    rw [List.dropWhile_append_of_pos hpass]
    simp
  rw [readPairs]
  · simp only [hdrop, htake]
    rcases readValue cs with _ | ⟨value, after⟩
    · rfl
    · simp only [Option.bind_eq_bind, Option.bind_some]
      cases readPairs fuel after <;> rfl
  · simp

namespace Field

def chars (f : Field) : List Char := f.key.toList ++ '=' :: (f.written.toList ++ [';'])

theorem toList_render (fields : List Field) : (render (fields.map pair)).toList = fields.flatMap chars := by
  have hmark : "=".toList = ['='] ∧ ";".toList = [';'] := by decide
  induction fields with
  | nil => rfl
  | cons f rest ih =>
    rw [render, List.map_cons, List.map_cons, String.join_cons, ← render, String.toList_append, ih, List.flatMap_cons, chars, pair]
    simp only [String.toList_append, hmark, List.append_assoc, List.cons_append, List.nil_append]

theorem readPairs_chars {f : Field} (hkey : '=' ∉ f.key.toList) (fuel : Nat) (cs : List Char) :
    readPairs (fuel + 1) (f.chars ++ cs) = (readValue (f.written.toList ++ ';' :: cs)).bind fun (value, after) =>
      (readPairs fuel after).map ((f.key, String.ofList value) :: ·) := by
  rw [chars, List.append_assoc, List.cons_append, List.append_assoc, List.singleton_append, readPairs_cons hkey,
    String.ofList_toList]

theorem readPairs_zero (f : Field) (cs : List Char) : readPairs 0 (f.chars ++ cs) = none := by
  rw [readPairs]
  simp [chars]

end Field

variable {fields : List Field} {rest : List Char} {pairs : ConnectionString}

/-- Where every value is read whatever stands behind it, all are read. -/
theorem readPairs_of_reads (hkeys : ∀ f ∈ fields, '=' ∉ f.key.toList) (hreads : ∀ f ∈ fields, f.Reads) (fuel : Nat) :
    readPairs (fields.length + fuel) (fields.flatMap Field.chars) = some (fields.map Field.meant) := by
  induction fields with
  | nil => cases fuel <;> rfl
  | cons f fields ih =>
    obtain ⟨hkey, hkeys⟩ := List.forall_mem_cons.1 hkeys
    obtain ⟨hread, hreads⟩ := List.forall_mem_cons.1 hreads
    have hlength : (f :: fields).length + fuel = fields.length + fuel + 1 := by rw [List.length_cons]; omega
    rw [hlength, List.flatMap_cons, Field.readPairs_chars hkey, hread]
    simp only [Option.bind_some, ih hkeys hreads, Option.map_some, String.ofList_toList, List.map_cons, Field.meant]

/-- Where the values are read, they are read whatever stands behind them. -/
theorem reads_of_readPairs (hkeys : ∀ f ∈ fields, '=' ∉ f.key.toList) (hdistinct : (fields.map Field.key).Nodup)
    (hsettled : ∀ f ∈ fields, f.Settled) {fuel : Nat} (hread : readPairs fuel (fields.flatMap Field.chars ++ rest) = some pairs)
    (hfound : ∀ f ∈ fields, pairs.lookup f.key = some f.value) : ∀ f ∈ fields, f.Reads := by
  induction fields generalizing fuel pairs with
  | nil => exact List.forall_mem_nil _
  | cons f fields ih =>
    obtain ⟨hkey, hkeys⟩ := List.forall_mem_cons.1 hkeys
    obtain ⟨hother, hdistinct⟩ := List.nodup_cons.1 hdistinct
    obtain ⟨hsettledFirst, hsettled⟩ := List.forall_mem_cons.1 hsettled
    obtain ⟨hfirst, hfound⟩ := List.forall_mem_cons.1 hfound
    rw [List.flatMap_cons, List.append_assoc] at hread
    cases fuel with
    | zero => rw [Field.readPairs_zero] at hread; cases hread
    | succ fuel =>
      rw [Field.readPairs_chars hkey] at hread
      obtain ⟨⟨value, after⟩, hvalue, hread⟩ := Option.bind_eq_some_iff.1 hread
      obtain ⟨others, hothers, rfl⟩ := Option.map_eq_some_iff.1 hread
      -- the first pair is the only one with this keyword, so it is the one that is found
      obtain rfl : value = f.value.toList := by
        rw [List.lookup_cons_self] at hfirst
        rw [← Option.some.inj hfirst, String.toList_ofList]
      have hreads := hsettledFirst _ _ hvalue
      rw [hreads] at hvalue
      cases hvalue
      refine List.forall_mem_cons.2 ⟨hreads, ih hkeys hdistinct hsettled hothers fun g hg => ?_⟩
      have hne : (g.key == f.key) = false := beq_false_of_ne fun heq => hother (heq ▸ List.mem_map_of_mem hg)
      have hfoundOther := hfound g hg
      rwa [List.lookup_cons, hne] at hfoundOther

theorem read_fields (hkeys : ∀ f ∈ fields, '=' ∉ f.key.toList) (hreads : ∀ f ∈ fields, f.Reads) :
    read (render (fields.map Field.pair)) = some (fields.map Field.meant) := by
  have hlength := Markup.length_le_flatMap Field.chars (fun f => by simp [Field.chars]) fields
  obtain ⟨fuel, hfuel⟩ := Nat.exists_eq_add_of_le hlength
  have hsize : (render (fields.map Field.pair)).length = fields.length + fuel := by
    rw [← String.length_toList, Field.toList_render, hfuel]
  rw [read, hsize, Field.toList_render, readPairs_of_reads hkeys hreads]

end ConnectionString

/-! ## Logins -/

open ConnectionString

namespace ConnectionParts

/-- The fields that come from the parts of a login by name. -/
def loginFields (p : ConnectionParts) : List Field :=
  [.inBraces "DRIVER" p.driver, .plain "SERVER" p.server, .plain "DATABASE" p.database, .plain "UID" p.user,
    .plain "PWD" p.password]

def fixedFields (p : ConnectionParts) : List Field :=
  [.plain "Connection Timeout" (toString p.timeout), .plain "Application Name" "XML Content Exporter",
    .plain "TrustServerCertificate" "yes"]

/-- The driver can be put into braces as it is, and the other parts need none. -/
def Separable (p : ConnectionParts) : Prop :=
  '}' ∉ p.driver.toList ∧ Plain p.server ∧ Plain p.database ∧ Plain p.user ∧ Plain p.password

theorem separable_iff (p : ConnectionParts) : p.Separable ↔ ∀ f ∈ p.loginFields, f.Reads := by
  simp only [loginFields, List.forall_mem_cons, Field.reads_inBraces_iff, Field.reads_plain_iff, List.not_mem_nil,
    false_imp_iff, implies_true, and_true, Separable]

theorem connectionString_eq {p : ConnectionParts} (h : p.trusted = false) :
    p.connectionString = (p.loginFields ++ p.fixedFields).map Field.pair := by
  simp only [connectionString, login, h, Bool.false_eq_true, if_false]
  rfl

theorem plain_toString (n : Int) : Plain (toString n) := by
  have hdigits : ∀ k : Nat, ∀ c ∈ (Nat.repr k).toList, c.isDigit = true := fun k c hc => by
    rw [Nat.toList_repr] at hc
    exact Nat.isDigit_of_mem_toDigits (by decide) (by decide) hc
  have hchars : ∀ c ∈ (toString n).toList, c = '-' ∨ c.isDigit = true := by
    cases n with
    | ofNat k => exact fun c hc => .inr (hdigits k c hc)
    | negSucc k =>
      have htext : (toString (Int.negSucc k)).toList = '-' :: (Nat.repr (k + 1)).toList :=
        String.toList_append
      rw [htext]
      exact List.forall_mem_cons.2 ⟨.inl rfl, fun c hc => .inr (hdigits (k + 1) c hc)⟩
  constructor
  · exact fun hmem => absurd (hchars _ hmem) (by decide)
  · exact fun hhead => absurd (hchars _ (List.mem_of_head? hhead)) (by decide)

theorem reads_fixedFields (p : ConnectionParts) : ∀ f ∈ p.fixedFields, f.Reads := by
  simp only [fixedFields, List.forall_mem_cons, Field.reads_plain_iff]
  exact ⟨plain_toString _, by decide, by decide, List.forall_mem_nil _⟩

theorem key_notMem (p : ConnectionParts) : ∀ f ∈ p.loginFields ++ p.fixedFields, '=' ∉ f.key.toList := by
  have hkeys : (p.loginFields ++ p.fixedFields).map Field.key = ["DRIVER", "SERVER", "DATABASE", "UID", "PWD",
      "Connection Timeout", "Application Name", "TrustServerCertificate"] := rfl
  have hplain : ∀ key ∈ ["DRIVER", "SERVER", "DATABASE", "UID", "PWD", "Connection Timeout", "Application Name",
      "TrustServerCertificate"], '=' ∉ key.toList := by decide
  exact fun f hf => hplain f.key (hkeys ▸ List.mem_map_of_mem hf)

/-- The five parts of a login by name, under their keywords. -/
structure FoundIn (p : ConnectionParts) (pairs : ConnectionString) : Prop where
  driver : pairs.lookup "DRIVER" = some p.driver
  server : pairs.lookup "SERVER" = some p.server
  database : pairs.lookup "DATABASE" = some p.database
  user : pairs.lookup "UID" = some p.user
  password : pairs.lookup "PWD" = some p.password

variable {p : ConnectionParts}

theorem read_of_separable (h : p.trusted = false) (hseparable : p.Separable) :
    ConnectionString.read p.connectionString.render = some [("DRIVER", p.driver), ("SERVER", p.server),
      ("DATABASE", p.database), ("UID", p.user), ("PWD", p.password), ("Connection Timeout", toString p.timeout),
      ("Application Name", "XML Content Exporter"), ("TrustServerCertificate", "yes")] := by
  have hreads : ∀ f ∈ p.loginFields ++ p.fixedFields, f.Reads :=
    List.forall_mem_append.2 ⟨p.separable_iff.1 hseparable, p.reads_fixedFields⟩
  rw [connectionString_eq h, read_fields p.key_notMem hreads]
  rfl

/-- A semicolon in a password ends it, and what stands behind it is a keyword with a value of its own. -/
theorem read_of_split (h : p.trusted = false) {shown key value : String}
    (hpassword : p.password = shown ++ ";" ++ key ++ "=" ++ value) (hseparable : { p with password := shown }.Separable)
    (hkey : '=' ∉ key.toList) (hvalue : Plain value) :
    ConnectionString.read p.connectionString.render = some [("DRIVER", p.driver), ("SERVER", p.server),
      ("DATABASE", p.database), ("UID", p.user), ("PWD", shown), (key, value), ("Connection Timeout", toString p.timeout),
      ("Application Name", "XML Content Exporter"), ("TrustServerCertificate", "yes")] := by
  set shownParts := { p with password := shown }
  have hreads : ∀ f ∈ shownParts.loginFields ++ .plain key value :: p.fixedFields, f.Reads :=
    List.forall_mem_append.2 ⟨shownParts.separable_iff.1 hseparable,
      List.forall_mem_cons.2 ⟨Field.reads_plain_iff.2 hvalue, p.reads_fixedFields⟩⟩
  have hkeys : ∀ f ∈ shownParts.loginFields ++ .plain key value :: p.fixedFields, '=' ∉ f.key.toList := by
    obtain ⟨hlogin, hfixed⟩ := List.forall_mem_append.1 shownParts.key_notMem
    exact List.forall_mem_append.2 ⟨hlogin, List.forall_mem_cons.2 ⟨hkey, hfixed⟩⟩
  have hrender : p.connectionString.render =
      render ((shownParts.loginFields ++ .plain key value :: p.fixedFields).map Field.pair) := by
    rw [connectionString_eq h]
    simp only [render, loginFields, hpassword, List.cons_append, List.map_cons, String.join_cons, List.nil_append, Field.pair,
      Field.plain, String.append_assoc, shownParts]
  rw [hrender, read_fields hkeys hreads]
  rfl

theorem separable_of_read (h : p.trusted = false) {pairs : ConnectionString}
    (hread : ConnectionString.read p.connectionString.render = some pairs) (hfound : p.FoundIn pairs) : p.Separable := by
  have hkeys : ∀ f ∈ p.loginFields, '=' ∉ f.key.toList := (List.forall_mem_append.1 p.key_notMem).1
  have hsettled : ∀ f ∈ p.loginFields, f.Settled := by
    simp only [loginFields, List.forall_mem_cons]
    exact ⟨Field.settled_inBraces, Field.settled_plain, Field.settled_plain, Field.settled_plain, Field.settled_plain,
      List.forall_mem_nil _⟩
  have hvalues : ∀ f ∈ p.loginFields, pairs.lookup f.key = some f.value := by
    simp only [loginFields, List.forall_mem_cons]
    exact ⟨hfound.driver, hfound.server, hfound.database, hfound.user, hfound.password, List.forall_mem_nil _⟩
  rw [ConnectionString.read, connectionString_eq h, Field.toList_render, List.flatMap_append] at hread
  exact p.separable_iff.2 (reads_of_readPairs hkeys (by simp [loginFields, Field.inBraces, Field.plain]) hsettled hread hvalues)

end ConnectionParts

/-! ## Environments -/

/-- Sets the five parts of a login by name, with numbers where numbers are read. -/
structure Environment.SetsLogin (e : Environment) (p : ConnectionParts) : Prop where
  putsPassword : e.PutsPassword
  driver : e.get? "DB_DRIVER" = some p.driver
  server : e.get? "DB_SERVER" = some p.server
  database : e.get? "DB_DATABASE" = some p.database
  user : e.get? "DB_USERNAME" = some p.user
  password : e.get? "DB_PASSWORD" = some p.password
  trusted : p.trusted = false
  timeout : e.whole "DB_CONNECTION_TIMEOUT" 30 = .ok p.timeout
  poolSize : e.HoldsWhole "DB_POOL_SIZE"

namespace DatabaseParameters

/-- The connection string in the URL of a database. -/
def odbcConnect? (d : DatabaseParameters) : Option String :=
  match readUrl d.url with
  | .ok u => (u.query.lookup "odbc_connect").bind List.head?
  | .error _ => none

variable {e : Environment} {p : ConnectionParts}

theorem exists_odbcConnect? (h : e.SetsLogin p) :
    ∃ d, fromEnvironment e = .ok d ∧ d.odbcConnect? = some p.connectionString.render := by
  have hparts : ConnectionParts.fromEnvironment e = .ok p := by
    rw [ConnectionParts.fromEnvironment_eq, h.timeout]
    simp only [Environment.get, h.driver, h.server, h.database, h.user, h.password, h.putsPassword.2, ← h.trusted,
      Option.getD_some]
    rfl
  obtain ⟨poolSize, hpoolSize⟩ := h.poolSize.exists_whole 5
  refine ⟨Environment.ofParts (e.nonEmpty? "DB_SCHEMA") poolSize p, ?_, ?_⟩
  · rw [Environment.database_of_parts h.putsPassword.1, hpoolSize, hparts]
    rfl
  · have hread := DatabaseUrl.read_odbcUrl p.connectionString_ne_empty
    simp only [odbcConnect?, Environment.ofParts, readUrl, hread, List.lookup_cons_self, Option.bind_some, List.head?_cons]

/-- The parts of a login by name are read back from the connection string exactly where the driver holds no closing brace and the
other parts neither hold a semicolon nor begin with an opening brace. Then no keyword comes to those that are written. -/
theorem login_reads_back (h : e.SetsLogin p) : ∃ d connection, fromEnvironment e = .ok d ∧
    d.odbcConnect? = some connection ∧
    ((∃ pairs, ConnectionString.read connection = some pairs ∧ p.FoundIn pairs) ↔ p.Separable) ∧
    (p.Separable → ConnectionString.read connection = some [("DRIVER", p.driver), ("SERVER", p.server),
      ("DATABASE", p.database), ("UID", p.user), ("PWD", p.password), ("Connection Timeout", toString p.timeout),
      ("Application Name", "XML Content Exporter"), ("TrustServerCertificate", "yes")]) := by
  obtain ⟨d, hdatabase, hconnection⟩ := exists_odbcConnect? h
  refine ⟨d, _, hdatabase, hconnection, ⟨?_, fun hseparable => ?_⟩, ConnectionParts.read_of_separable h.trusted⟩
  · rintro ⟨pairs, hread, hfound⟩
    exact ConnectionParts.separable_of_read h.trusted hread hfound
  · exact ⟨_, ConnectionParts.read_of_separable h.trusted hseparable, ⟨rfl, rfl, rfl, rfl, rfl⟩⟩

/-- A login by name at a server. -/
def loginParts (password : String) : ConnectionParts where
  driver := "ODBC Driver 18"
  server := "tcp:db,1433"
  database := "shop=live"
  trusted := false
  user := "reader"
  password := password
  timeout := 30

def loginVariables (password : String) : Environment :=
  [("CONTENT_EXPORTER_DB_TRUSTED_CONNECTION", "false"), ("CONTENT_EXPORTER_DB_DRIVER", "ODBC Driver 18"),
    ("CONTENT_EXPORTER_DB_SERVER", "tcp:db,1433"), ("CONTENT_EXPORTER_DB_DATABASE", "shop=live"),
    ("CONTENT_EXPORTER_DB_USERNAME", "reader"), ("CONTENT_EXPORTER_DB_PASSWORD", password)]

theorem setsLogin_loginVariables (password : String) : (loginVariables password).SetsLogin (loginParts password) := by
  have hflag : (loginVariables password).get? "DB_TRUSTED_CONNECTION" = some "false" := rfl
  have htrusted : (loginVariables password).flag "DB_TRUSTED_CONNECTION" true = false := by
    simp only [Environment.flag, hflag]
    decide +kernel
  have hpoolSize : (loginVariables password).HoldsWhole "DB_POOL_SIZE" := by
    rintro s ⟨⟩
  exact ⟨⟨rfl, htrusted⟩, rfl, rfl, rfl, rfl, rfl, rfl, rfl, hpoolSize⟩

theorem login_reads_back_braces : (loginParts "s=cr{e}t").Separable ∧ (loginVariables "s=cr{e}t").SetsLogin (loginParts "s=cr{e}t") ∧
    ∃ d connection pairs, fromEnvironment (loginVariables "s=cr{e}t") = .ok d ∧ d.odbcConnect? = some connection ∧
      ConnectionString.read connection = some pairs ∧ (loginParts "s=cr{e}t").FoundIn pairs := by
  have hseparable : (loginParts "s=cr{e}t").Separable := by
    unfold ConnectionParts.Separable
    decide
  have hsets := setsLogin_loginVariables "s=cr{e}t"
  obtain ⟨d, connection, hdatabase, hconnection, hread, -⟩ := login_reads_back hsets
  obtain ⟨pairs, hpairs, hfound⟩ := hread.2 hseparable
  exact ⟨hseparable, hsets, d, connection, pairs, hdatabase, hconnection, hpairs, hfound⟩

/-- A semicolon in a password cuts it short, and what follows adds a keyword. -/
theorem login_adds_keyword : (loginVariables "secret;Trusted_Connection=yes").SetsLogin (loginParts "secret;Trusted_Connection=yes") ∧
    ∃ d connection pairs, fromEnvironment (loginVariables "secret;Trusted_Connection=yes") = .ok d ∧
      d.odbcConnect? = some connection ∧ ConnectionString.read connection = some pairs ∧
      pairs.lookup "PWD" = some "secret" ∧ pairs.lookup "Trusted_Connection" = some "yes" := by
  have hsets := setsLogin_loginVariables "secret;Trusted_Connection=yes"
  obtain ⟨d, hdatabase, hconnection⟩ := exists_odbcConnect? hsets
  have hseparable : { loginParts "secret;Trusted_Connection=yes" with password := "secret" }.Separable := by
    unfold ConnectionParts.Separable
    decide
  have hpassword : (loginParts "secret;Trusted_Connection=yes").password = "secret" ++ ";" ++ "Trusted_Connection" ++ "=" ++ "yes" :=
    rfl
  have hread := ConnectionParts.read_of_split hsets.trusted hpassword hseparable (by decide) (by decide)
  exact ⟨hsets, d, _, _, hdatabase, hconnection, hread, rfl, rfl⟩

end DatabaseParameters
end TableDump
