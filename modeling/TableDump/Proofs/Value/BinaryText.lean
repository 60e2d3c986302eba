import TableDump.Proofs.RunFrame
import TableDump.Value.Encode

/-! # Texts of binary values

* `Text.IsHexOf`: a text in upper case hexadecimal digits that reads back as some bytes. Bytes have exactly one such text
  (`Text.isHexOf_iff`).
* `Value.HoldsBytes`: bytes in any carrier, or a stream that gives them. Whatever holds them has the same text in every
  binary column, and other bytes have another one (`Value.encode_holding_bytes`).
* `Value.Carries`: beside these, a text and a stream that gives one carry their bytes in UTF-8.
* `Value.Fabricates`: the bytes that are made of numbers, lists and maps, which carry none.
* A binary column gives the text of carried bytes or none at all, except for values that fabricate theirs
  (`Value.encode_carried_bytes`).
-/

namespace TableDump
open TableDump.Text
set_option autoImplicit false

/-! ## Hexadecimal texts -/

namespace Text
variable {bytes : List UInt8} {s : String}

def hexDigits : List Char := "0123456789ABCDEF".toList

theorem hexDigits_eq : hexDigits = (List.range 16).map upperHexDigit := by decide

theorem mem_hexDigits_iff {c : Char} : c ∈ hexDigits ↔ ∃ n < 16, upperHexDigit n = c := by
  rw [hexDigits_eq, List.mem_map]
  exact exists_congr fun n => and_congr_left' List.mem_range

/-- Upper case hexadecimal digits that read back as `bytes`. -/
structure IsHexOf (bytes : List UInt8) (s : String) : Prop where
  digits : ∀ c ∈ s.toList, c ∈ hexDigits
  reads : hexBytes? s = some bytes

theorem mem_hexDigits_of_mem_hexPair {b : UInt8} : ∀ c ∈ hexPair b, c ∈ hexDigits := by
  have hb := b.toNat_lt
  have hhigh : upperHexDigit (b.toNat / 16) ∈ hexDigits := mem_hexDigits_iff.2 ⟨_, by omega, rfl⟩
  have hlow : upperHexDigit (b.toNat % 16) ∈ hexDigits := mem_hexDigits_iff.2 ⟨_, by omega, rfl⟩
  exact List.forall_mem_cons.2 ⟨hhigh, List.forall_mem_singleton.2 hlow⟩

theorem isHexOf_hexText (bytes : List UInt8) : IsHexOf bytes (hexText bytes) where
  digits := by
    rw [hexText, String.toList_ofList]
    intro c hc
    obtain ⟨b, -, hpair⟩ := List.mem_flatMap.1 hc
    exact mem_hexDigits_of_mem_hexPair c hpair
  reads := hexBytes?_hexText bytes

theorem hexText_injective : Function.Injective hexText := by
  intro b b' h
  have hreads := hexBytes?_hexText b
  rw [h, hexBytes?_hexText] at hreads
  exact (Option.some.inj hreads).symm

/-- Two digits stand for one byte only. -/
theorem hexPair_ofNat {high low : Nat} (hhigh : high < 16) (hlow : low < 16) :
    hexPair (UInt8.ofNat (16 * high + low)) = [upperHexDigit high, upperHexDigit low] := by
  have hbyte : (UInt8.ofNat (16 * high + low)).toNat = 16 * high + low := by
    rw [UInt8.toNat_ofNat']
    omega
  rw [hexPair, hbyte, show (16 * high + low) / 16 = high by omega, show (16 * high + low) % 16 = low by omega]

theorem flatMap_hexPair_of_hexDecode {cs : List Char} (hdigits : ∀ c ∈ cs, c ∈ hexDigits)
    (h : hexDecode cs = some bytes) : bytes.flatMap hexPair = cs := by
  induction cs using hexDecode.induct generalizing bytes with
  | case1 =>
    cases h
    rfl
  | case2 c => cases h
  | case3 a b rest ih =>
    obtain ⟨ha, hdigits⟩ := List.forall_mem_cons.1 hdigits
    obtain ⟨hb, hrest⟩ := List.forall_mem_cons.1 hdigits
    obtain ⟨high, hhigh, rfl⟩ := mem_hexDigits_iff.1 ha
    obtain ⟨low, hlow, rfl⟩ := mem_hexDigits_iff.1 hb
    rw [hexDecode, hexValue?_upperHexDigit ⟨high, hhigh⟩, hexValue?_upperHexDigit ⟨low, hlow⟩] at h
    cases htail : hexDecode rest with
    | none =>
      rw [htail] at h
      cases h
    | some tail =>
      rw [htail] at h
      cases h
      rw [List.flatMap_cons, hexPair_ofNat hhigh hlow, ih hrest htail]
      rfl

theorem isHexOf_iff : IsHexOf bytes s ↔ s = hexText bytes := by
  constructor
  · intro h
    rw [hexText, flatMap_hexPair_of_hexDecode h.digits h.reads, String.ofList_toList]
  · rintro rfl
    exact isHexOf_hexText bytes

end Text

/-! ## Bytes that values carry -/

namespace Value
variable {v : Value} {b : List UInt8}

/-- The bytes of a binary value, and those of a text in UTF-8. -/
def ownBytes? : Value → Option (List UInt8)
  | bytes _ content => some content
  | text s => some (utf8 s)
  | _ => none

/-- A stream carries the bytes of what reading it gives, any other value its own. -/
def Carries (v : Value) (b : List UInt8) : Prop := ∃ content, v.read = .ok content ∧ content.ownBytes? = some b

/-- Bytes in any carrier, or a stream that gives them. -/
inductive HoldsBytes (b : List UInt8) : Value → Prop
  | plain (carrier : Carrier) : HoldsBytes b (bytes carrier b)
  | streamed (carrier : Carrier) : HoldsBytes b (stream (bytes carrier b))

/-- Bytes that are made of a value: as many zeros as it counts where memory holds their text, or one byte for each of its items
or keys. -/
inductive Makes (m : Memory) : Value → List UInt8 → Prop
  | truth (t : Bool) : Makes m (boolean t) (List.replicate t.toNat 0)
  | count (n : Nat) (hn : n ≤ m.room) : Makes m (integer n) (List.replicate n 0)
  | items {items : List Value} {b : List UInt8} (h : List.Forall₂ (fun item x => item.byte = .ok x) items b) :
      Makes m (list items) b
  | keys {entries : List (Value × Value)} {b : List UInt8}
      (h : List.Forall₂ (fun (entry : Value × Value) x => entry.1.byte = .ok x) entries b) : Makes m (map entries) b

/-- A value, or what reading it gives, is made into bytes that it does not carry. -/
def Fabricates (m : Memory) (v : Value) (b : List UInt8) : Prop := ∃ content, v.read = .ok content ∧ content.Makes m b

/-- Null, a stream that gives null, and a stream whose fault is recovered. -/
def IsAbsent (e : Encoding) (v : Value) : Prop :=
  v.read = .ok null ∨ ∃ fault, v.read = .error fault ∧ e.recovers fault = true

variable {m : Memory}

theorem zeroBytes_natCast {k : Nat} (h : k ≤ m.room) : zeroBytes m k = .ok (List.replicate k 0) := by
  have hleast : Int64.minValue.toInt ≤ 0 := by decide
  obtain ⟨hcount, hsize⟩ := m.room_fits
  rw [zeroBytes, if_neg (by omega), if_neg (by omega), if_neg (by omega), if_neg (by omega), Int.toNat_natCast]

theorem zeroBytes_eq_ok_iff {n : Int} : zeroBytes m n = .ok b ↔ ∃ k : Nat, n = k ∧ k ≤ m.room ∧ b = List.replicate k 0 := by
  constructor
  · intro h
    rw [zeroBytes] at h
    split_ifs at h with hcount hnegative hsize hroom
    exact ⟨n.toNat, by omega, by omega, (Except.ok.inj h).symm⟩
  · rintro ⟨k, rfl, hk, rfl⟩
    exact zeroBytes_natCast hk

/-- A value is turned into bytes in two ways only. -/
theorem content_eq_ok_iff : v.content m = .ok b ↔ v.ownBytes? = some b ∨ v.Makes m b := by
  constructor
  · intro h
    cases v with
    | bytes carrier content => exact .inl (congrArg some (Except.ok.inj h))
    | text s => exact .inl (congrArg some (Except.ok.inj h))
    | boolean t =>
      cases h
      exact .inr (.truth t)
    | integer n =>
      obtain ⟨k, rfl, hk, rfl⟩ := zeroBytes_eq_ok_iff.1 h
      exact .inr (.count k hk)
    | list items => exact .inr (.items (forall₂_of_mapM_ok h))
    | map entries => exact .inr (.keys (forall₂_of_mapM_ok h))
    | _ => cases h
  · rintro (h | h)
    · cases v with
      | bytes carrier content => exact congrArg Except.ok (Option.some.inj h)
      | text s => exact congrArg Except.ok (Option.some.inj h)
      | _ => cases h
    · cases h with
      | truth t => rfl
      | count n hn => exact zeroBytes_natCast hn
      | items h => exact mapM_eq_ok_of_forall₂ h
      | keys h => exact mapM_eq_ok_of_forall₂ h

theorem ownBytes?_of_makes (h : v.Makes m b) : v.ownBytes? = none := by
  cases h <;> rfl

/-! ## Encoding -/

variable {e : Encoding} {column : Column} {s : Session}

theorem binaryText_eq_text_iff {text : String} :
    v.binaryText m = .ok (some text) ↔ ∃ b, (v.ownBytes? = some b ∨ v.Makes m b) ∧ text = hexText b := by
  by_cases hnull : v = null
  · subst hnull
    refine iff_of_false nofun ?_
    rintro ⟨b, h | h, -⟩ <;> cases h
  · have hcontent : v.binaryText m = (v.content m).map fun b => some (hexText b) := by
      cases v <;> first | rfl | exact absurd rfl hnull
    rw [hcontent, outcome_map_eq_ok_iff]
    exact exists_congr fun b => and_congr content_eq_ok_iff (Option.some_inj.trans eq_comm)

theorem binaryText_eq_none_iff : v.binaryText m = .ok none ↔ v = null := by
  constructor
  · intro h
    by_contra hnull
    unfold binaryText at h
    split at h
    · exact hnull rfl
    · obtain ⟨b, -, h⟩ := outcome_bind_eq_ok_iff.1 h
      cases h
  · rintro rfl
    rfl

theorem encode_of_isBinary (hbinary : (column.type.kindFor v.kind).isBinary = true) :
    v.encode e column = v.encodeBinary e column.name := by
  have hboolean : column.type.kindFor v.kind ≠ .boolean := by
    intro h
    rw [h] at hbinary
    cases hbinary
  rw [encode, encodeAs, if_neg hboolean, if_pos hbinary]

theorem result_encode_of_read {content : Value} (hbinary : (column.type.kindFor v.kind).isBinary = true)
    (hread : v.read = .ok content) : (v.encode e column).result s = (content.binaryText e.memory, s) := by
  rw [encode_of_isBinary hbinary, encodeBinary, hread]
  exact Run.result_lift s _

/-- A fault of reading a stream leaves nothing, or is that of the encoding. -/
theorem outcome_encode_of_fault {fault : Fault} (hbinary : (column.type.kindFor v.kind).isBinary = true)
    (hread : v.read = .error fault) :
    ((v.encode e column).result s).1 = if e.recovers fault then .ok none else .error fault := by
  rw [encode_of_isBinary hbinary, encodeBinary, hread]
  by_cases hrecovers : e.recovers fault = true
  · simp only [if_pos hrecovers]
    rfl
  · simp only [if_neg hrecovers]
    rfl

/-- A binary column has a text for the bytes that a value carries or that are made of it. -/
theorem encode_eq_text_iff_bytes {text : String} (hbinary : (column.type.kindFor v.kind).isBinary = true) :
    ((v.encode e column).result s).1 = .ok (some text) ↔ ∃ b, (v.Carries b ∨ v.Fabricates e.memory b) ∧ IsHexOf b text := by
  cases hread : v.read with
  | ok content => simp [result_encode_of_read hbinary hread, binaryText_eq_text_iff, Carries, Fabricates, hread, isHexOf_iff]
  | error fault =>
    rw [outcome_encode_of_fault hbinary hread]
    refine iff_of_false (by split <;> nofun) ?_
    rintro ⟨b, ⟨content, hcontent, -⟩ | ⟨content, hcontent, -⟩, -⟩ <;> cases hread.symm.trans hcontent

theorem encode_eq_none_iff (hbinary : (column.type.kindFor v.kind).isBinary = true) :
    ((v.encode e column).result s).1 = .ok none ↔ v.IsAbsent e := by
  cases hread : v.read with
  | ok content => simp [result_encode_of_read hbinary hread, binaryText_eq_none_iff, IsAbsent, hread]
  | error fault => simp [outcome_encode_of_fault hbinary hread, IsAbsent, hread]

theorem HoldsBytes.result_encode (hv : v.HoldsBytes b) (hbinary : (column.type.kindFor v.kind).isBinary = true) :
    (v.encode e column).result s = (.ok (some (hexText b)), s) := by
  cases hv with
  | plain carrier => exact result_encode_of_read hbinary rfl
  | streamed carrier => exact result_encode_of_read hbinary rfl

/-- Bytes have one text, whatever holds them and whichever binary column: two upper case digits for each byte, which read back.
Other bytes have another text, and no bytes have the empty one. -/
theorem encode_holding_bytes (hbinary : (column.type.kindFor v.kind).isBinary = true) (hv : v.HoldsBytes b) :
    ∃ text, (v.encode e column).result s = (.ok (some text), s) ∧ text.length = 2 * b.length ∧
      (∀ c ∈ text.toList, c ∈ hexDigits) ∧ hexBytes? text = some b ∧ (text = "" ↔ b = []) ∧
      ∀ {e' : Encoding} {column' : Column} {v' : Value} {b' : List UInt8} {s' : Session},
        (column'.type.kindFor v'.kind).isBinary = true → v'.HoldsBytes b' →
        (((v'.encode e' column').result s').1 = .ok (some text) ↔ b' = b) := by
  have htext := isHexOf_hexText b
  refine ⟨hexText b, hv.result_encode hbinary, length_hexText b, htext.digits, htext.reads, ?_, ?_⟩
  · rw [← String.length_eq_zero_iff, length_hexText, ← List.length_eq_zero_iff]
    omega
  · intro e' column' v' b' s' hbinary' hv'
    rw [hv'.result_encode hbinary', Except.ok.injEq, Option.some.injEq]
    exact hexText_injective.eq_iff

/-- What a stream gives as a view has the text of plain bytes, leading zeros in it. -/
theorem encode_holding_bytes_view :
    (((stream (bytes .view [0x00, 0xDE, 0xAD])).encode {} ⟨"photo", .typed .byteView⟩).result {}).1 = .ok (some "00DEAD") ∧
      hexBytes? "00DEAD" = some [0x00, 0xDE, 0xAD] := by
  obtain ⟨text, hresult, -, -, hreads, -, hsame⟩ := @encode_holding_bytes (bytes .plain [0x00, 0xDE, 0xAD])
    [0x00, 0xDE, 0xAD] {} ⟨"photo", .typed .bytes⟩ {} (by rfl) (.plain .plain)
  have htext : text = "00DEAD" := by
    have hshown : (((bytes .plain [0x00, 0xDE, 0xAD]).encode {} ⟨"photo", .typed .bytes⟩).result {}).1 =
        .ok (some "00DEAD") := by decide
    rw [hresult] at hshown
    exact Option.some.inj (Except.ok.inj hshown)
  subst htext
  exact ⟨(hsame (by rfl) (.streamed .view)).2 rfl, hreads⟩

/-- Where no bytes are fabricated, a text stands for bytes that the value carries, and a value that carries none and is not
absent is refused. Values that fabricate bytes carry none, and have a text all the same. -/
theorem encode_carried_bytes (hbinary : (column.type.kindFor v.kind).isBinary = true) :
    ((∀ b, ¬ v.Fabricates e.memory b) →
      (∀ {text}, ((v.encode e column).result s).1 = .ok (some text) → ∃ b, v.Carries b ∧ IsHexOf b text) ∧
      ((∀ b, ¬ v.Carries b) → ¬ v.IsAbsent e → ∃ f, ((v.encode e column).result s).1 = .error f)) ∧
    ∀ b, v.Fabricates e.memory b → (∀ other, ¬ v.Carries other) ∧
      ∃ text, IsHexOf b text ∧ ((v.encode e column).result s).1 = .ok (some text) := by
  refine ⟨fun hfabricates => ⟨fun {text} htext => ?_, fun hcarries habsent => ?_⟩, fun b hb => ⟨?_, ?_⟩⟩
  · obtain ⟨b, hcarries | hmade, hhex⟩ := (encode_eq_text_iff_bytes hbinary).1 htext
    · exact ⟨b, hcarries, hhex⟩
    · exact absurd hmade (hfabricates b)
  · cases houtcome : ((v.encode e column).result s).1 with
    | error f => exact ⟨f, rfl⟩
    | ok shown =>
      cases shown with
      | none => exact absurd ((encode_eq_none_iff hbinary).1 houtcome) habsent
      | some text =>
        obtain ⟨b, hcarried | hmade, -⟩ := (encode_eq_text_iff_bytes hbinary).1 houtcome
        · exact absurd hcarried (hcarries b)
        · exact absurd hmade (hfabricates b)
  · rintro other ⟨content, hread, hown⟩
    obtain ⟨made, hmade, hmakes⟩ := hb
    obtain rfl := Except.ok.inj (hread.symm.trans hmade)
    rw [ownBytes?_of_makes hmakes] at hown
    cases hown
  · exact ⟨hexText b, isHexOf_hexText b, (encode_eq_text_iff_bytes hbinary).2 ⟨b, .inr hb, isHexOf_hexText b⟩⟩

/-- A stream that gives a date is refused. -/
theorem encode_carried_bytes_date :
    ∃ f, (((stream (date ⟨2024, 3, 1⟩)).encode {} ⟨"photo", .typed .bytes⟩).result {}).1 = .error f := by
  refine ((encode_carried_bytes (by rfl)).1 ?_).2 ?_ ?_
  · rintro b ⟨content, ⟨⟩, hmakes⟩
    cases hmakes
  · rintro b ⟨content, ⟨⟩, hown⟩
    cases hown
  · rintro (h | ⟨fault, h, -⟩) <;> cases h

/-- The number three has the text of three zero bytes, and carries none. -/
theorem encode_fabricates_zeros :
    (((integer 3).encode {} ⟨"photo", .typed .bytes⟩).result {}).1 = .ok (some "000000") ∧ ∀ b, ¬ (integer 3).Carries b := by
  refine ⟨by decide, ?_⟩
  rintro b ⟨content, ⟨⟩, hown⟩
  cases hown

end Value
end TableDump
