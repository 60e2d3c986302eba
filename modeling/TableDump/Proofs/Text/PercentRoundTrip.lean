import Mathlib.Data.Bool.AllAny
import Mathlib.Tactic.SplitIfs
import TableDump.Text.Percent

/-! # Percent encoding read back

* `utf8Lossy_utf8`: the bytes of a text stand for the text, character after character.
* `percentDecode_percentEncode`, `formDecode_formEncode`: what is encoded is read back as it was.
* `mem_formEncode`: an encoded text holds only unreserved characters, percent signs and plus signs.
-/

namespace TableDump.Text
set_option autoImplicit false

/-! ## UTF-8 -/

/-- Between two characters. -/
def Utf8State.between : Utf8State := ⟨0, 0x80, 0xBF, 0⟩

theorem Utf8State.run_cons (s : Utf8State) (b : UInt8) (rest : List UInt8) :
    s.run (b :: rest) = (s.step b.toNat).1 ++ (s.step b.toNat).2.run rest := rfl

/-- The last byte of a character. -/
theorem Utf8State.step_last {low high value tail : Nat} (hlow : low ≤ tail + 128) (hhigh : tail + 128 ≤ high) :
    step ⟨1, low, high, value⟩ (tail + 128) = ([some (Char.ofNat (value * 64 + tail))], between) := by
  simp [step, hlow, hhigh, between]

/-- A byte of a character that more bytes follow. -/
theorem Utf8State.step_more (missing : Nat) {low high value tail : Nat} (hlow : low ≤ tail + 128) (hhigh : tail + 128 ≤ high) :
    step ⟨missing + 2, low, high, value⟩ (tail + 128) = ([], ⟨missing + 1, 0x80, 0xBF, value * 64 + tail⟩) := by
  simp [step, hlow, hhigh]

/-- A first byte of two. -/
theorem Utf8State.step_two {n : Nat} (hlow : 2 ≤ n) (hhigh : n < 32) :
    step between (n + 192) = ([], ⟨1, 0x80, 0xBF, n⟩) := by
  simp only [step, between, if_pos, start, if_neg (show ¬ n + 192 < 0x80 by omega),
    if_pos (show 0xC2 ≤ n + 192 ∧ n + 192 ≤ 0xDF by omega), Nat.add_sub_cancel]

/-- A first byte of three. -/
theorem Utf8State.step_three {n : Nat} (hhigh : n < 16) :
    step between (n + 224) = ([], ⟨2, if n = 0 then 0xA0 else 0x80, if n = 13 then 0x9F else 0xBF, n⟩) := by
  simp only [step, between, if_pos, start, if_neg (show ¬ n + 224 < 0x80 by omega),
    if_neg (show ¬ (0xC2 ≤ n + 224 ∧ n + 224 ≤ 0xDF) by omega), if_pos (show 0xE0 ≤ n + 224 ∧ n + 224 ≤ 0xEF by omega),
    show (n + 224 = 0xE0) = (n = 0) by simp, show (n + 224 = 0xED) = (n = 13) by simp, Nat.add_sub_cancel]

/-- A first byte of four. -/
theorem Utf8State.step_four {n : Nat} (hhigh : n < 5) :
    step between (n + 240) = ([], ⟨3, if n = 0 then 0x90 else 0x80, if n = 4 then 0x8F else 0xBF, n⟩) := by
  simp only [step, between, if_pos, start, if_neg (show ¬ n + 240 < 0x80 by omega),
    if_neg (show ¬ (0xC2 ≤ n + 240 ∧ n + 240 ≤ 0xDF) by omega), if_neg (show ¬ (0xE0 ≤ n + 240 ∧ n + 240 ≤ 0xEF) by omega),
    if_pos (show 0xF0 ≤ n + 240 ∧ n + 240 ≤ 0xF4 by omega), show (n + 240 = 0xF0) = (n = 0) by simp,
    show (n + 240 = 0xF4) = (n = 4) by simp, Nat.add_sub_cancel]

/-- The bytes of a character stand for it. -/
theorem Utf8State.run_utf8EncodeChar (c : Char) (rest : List UInt8) :
    between.run (String.utf8EncodeChar c ++ rest) = some c :: between.run rest := by
  have hvalid : c.val.toNat < 0xD800 ∨ 0xDFFF < c.val.toNat ∧ c.val.toNat < 0x110000 := c.valid
  have hchar : Char.ofNat c.val.toNat = c := Char.ofNat_toNat c
  have hbyte : ∀ n : Nat, n < 256 → (UInt8.ofNat n).toNat = n := fun n hn => by simp [Nat.mod_eq_of_lt hn]
  have htail : ∀ n, n % 64 + 128 ≤ 0xBF := by omega
  have hlow : ∀ n, 0x80 ≤ n % 64 + 128 := by omega
  rw [String.utf8EncodeChar]
  generalize c.val.toNat = v at hvalid hchar
  split_ifs with h1 h2 h3
  · have hstart : step between v = ([some (Char.ofNat v)], between) := by
      simp only [step, between, if_pos, start, if_pos (show v < 0x80 by omega)]
    simp only [List.cons_append, List.nil_append, run_cons, hbyte v (by omega), hstart, hchar]
  · have hlead : v / 64 % 32 = v / 64 := by omega
    have hsum : v / 64 * 64 + v % 64 = v := by omega
    simp only [List.cons_append, List.nil_append, run_cons, hlead, hbyte (v / 64 + 192) (by omega),
      hbyte (v % 64 + 128) (by omega), step_two (n := v / 64) (by omega) (by omega), step_last (hlow v) (htail v), hsum, hchar]
  · have hlead : v / 4096 % 16 = v / 4096 := by omega
    have hsum : (v / 4096 * 64 + v / 64 % 64) * 64 + v % 64 = v := by omega
    have hnext : (if v / 4096 = 0 then 0xA0 else 0x80) ≤ v / 64 % 64 + 128 := by split_ifs <;> omega
    have hnext' : v / 64 % 64 + 128 ≤ (if v / 4096 = 13 then 0x9F else 0xBF) := by split_ifs <;> omega
    simp only [List.cons_append, List.nil_append, run_cons, hlead, hbyte (v / 4096 + 224) (by omega),
      hbyte (v / 64 % 64 + 128) (by omega), hbyte (v % 64 + 128) (by omega), step_three (n := v / 4096) (by omega),
      step_more 0 hnext hnext', step_last (hlow v) (htail v), hsum, hchar]
  · have hlead : v / 262144 % 8 = v / 262144 := by omega
    have hsum : ((v / 262144 * 64 + v / 4096 % 64) * 64 + v / 64 % 64) * 64 + v % 64 = v := by omega
    have hnext : (if v / 262144 = 0 then 0x90 else 0x80) ≤ v / 4096 % 64 + 128 := by split_ifs <;> omega
    have hnext' : v / 4096 % 64 + 128 ≤ (if v / 262144 = 4 then 0x8F else 0xBF) := by split_ifs <;> omega
    simp only [List.cons_append, List.nil_append, run_cons, hlead, hbyte (v / 262144 + 240) (by omega),
      hbyte (v / 4096 % 64 + 128) (by omega), hbyte (v / 64 % 64 + 128) (by omega), hbyte (v % 64 + 128) (by omega),
      step_four (n := v / 262144) (by omega), step_more 1 hnext hnext',
      step_more 0 (hlow (v / 64)) (htail (v / 64)), step_last (hlow v) (htail v), hsum, hchar]

theorem utf8Chars_utf8 (s : String) : utf8Chars (utf8 s) = s.toList.map some := by
  suffices h : ∀ cs : List Char, Utf8State.between.run (cs.flatMap String.utf8EncodeChar) = cs.map some from h s.toList
  intro cs
  induction cs with
  | nil => rfl
  | cons c cs ih => rw [List.flatMap_cons, Utf8State.run_utf8EncodeChar, ih, List.map_cons]

theorem utf8Lossy_utf8 (s : String) : utf8Lossy (utf8 s) = s := by
  rw [utf8Lossy, utf8Chars_utf8, List.map_map]
  simp [Function.comp_def, String.ofList_toList]

/-! ## Percent encoding -/

theorem isUnreserved_lt {c : Char} (h : isUnreserved c = true) : c.toNat < 0x80 := by
  unfold isUnreserved Char.isAlphanum Char.isAlpha Char.isUpper Char.isLower Char.isDigit at h
  simp only [Bool.or_eq_true, Bool.and_eq_true, decide_eq_true_eq, ge_iff_le, UInt32.le_iff_toNat_le] at h
  rcases h with (((((⟨-, h⟩ | ⟨-, h⟩) | ⟨-, h⟩) | rfl) | rfl) | rfl) | rfl
  all_goals first | decide | exact Nat.lt_of_le_of_lt h (by decide)

theorem percentBytes_cons {c : Char} (h : c ≠ '%') (rest : List Char) :
    percentBytes (c :: rest) = String.utf8EncodeChar c ++ percentBytes rest := by
  rw [percentBytes]
  rintro a b rest rfl
  exact absurd rfl h

/-- A byte that is written is read back. -/
theorem percentBytes_percentByte {safe : List Char} (hsafe : ∀ c ∈ safe, c.toNat < 0x80 ∧ c ≠ '%') (b : UInt8)
    (rest : List Char) : percentBytes (percentByte safe b ++ rest) = b :: percentBytes rest := by
  have hb : b.toNat < 256 := b.toNat_lt
  have hnat : (Char.ofNat b.toNat).toNat = b.toNat := by
    have hvalid : b.toNat.isValidChar := Or.inl (by omega)
    rw [Char.ofNat, dif_pos hvalid]
    rfl
  rw [percentByte]
  by_cases hplain : (isUnreserved (Char.ofNat b.toNat) || safe.contains (Char.ofNat b.toNat)) = true
  · have hchar : b.toNat < 0x80 ∧ Char.ofNat b.toNat ≠ '%' := by
      rw [Bool.or_eq_true, List.contains_iff_mem] at hplain
      cases hplain with
      | inl h => exact ⟨hnat ▸ isUnreserved_lt h, fun heq => absurd (heq ▸ h) (by decide)⟩
      | inr h => exact ⟨hnat ▸ (hsafe _ h).1, (hsafe _ h).2⟩
    have hencode : String.utf8EncodeChar (Char.ofNat b.toNat) = [b] := by
      have hval : (Char.ofNat b.toNat).val.toNat = b.toNat := hnat
      rw [String.utf8EncodeChar, hval, if_pos (by omega), UInt8.ofNat_toNat]
    rw [if_pos hplain, List.singleton_append, percentBytes_cons hchar.2, hencode, List.singleton_append]
  · have high := hexValue?_upperHexDigit ⟨b.toNat / 16, by omega⟩
    have low := hexValue?_upperHexDigit ⟨b.toNat % 16, by omega⟩
    have hsum : 16 * (b.toNat / 16) + b.toNat % 16 = b.toNat := by omega
    simp only [if_neg hplain, hexPair, List.cons_append, List.nil_append, percentBytes, high, low, hsum, UInt8.ofNat_toNat]

theorem percentBytes_flatMap {safe : List Char} (hsafe : ∀ c ∈ safe, c.toNat < 0x80 ∧ c ≠ '%') (bytes : List UInt8) :
    percentBytes (bytes.flatMap (percentByte safe)) = bytes := by
  induction bytes with
  | nil => rfl
  | cons b bytes ih => rw [List.flatMap_cons, percentBytes_percentByte hsafe, ih]

theorem percentDecode_percentEncode {safe : List Char} (hsafe : ∀ c ∈ safe, c.toNat < 0x80 ∧ c ≠ '%') (s : String) :
    percentDecode (percentEncode safe s) = s := by
  rw [percentDecode, percentEncode, String.toList_ofList, percentBytes_flatMap hsafe, utf8Lossy_utf8]

/-! ## Forms -/

theorem mem_percentByte {safe : List Char} {b : UInt8} {c : Char} (h : c ∈ percentByte safe b) :
    isUnreserved c = true ∨ c ∈ safe ∨ c = '%' := by
  have hdigit : ∀ n : Fin 16, isUnreserved (upperHexDigit n) = true := by decide
  have hb : b.toNat < 256 := b.toNat_lt
  rw [percentByte] at h
  split at h
  · next hplain =>
    rw [List.mem_singleton.1 h]
    rw [Bool.or_eq_true, List.contains_iff_mem] at hplain
    exact hplain.imp_right Or.inl
  · simp only [hexPair, List.mem_cons, List.not_mem_nil, or_false] at h
    obtain rfl | rfl | rfl := h
    · exact .inr (.inr rfl)
    · exact .inl (hdigit ⟨b.toNat / 16, by omega⟩)
    · exact .inl (hdigit ⟨b.toNat % 16, by omega⟩)

theorem mem_percentEncode {safe : List Char} {s : String} {c : Char} (h : c ∈ (percentEncode safe s).toList) :
    isUnreserved c = true ∨ c ∈ safe ∨ c = '%' := by
  rw [percentEncode, String.toList_ofList] at h
  obtain ⟨b, -, hc⟩ := List.mem_flatMap.1 h
  exact mem_percentByte hc

/-- A space becomes a plus sign, and there are no other plus signs. -/
theorem mem_formEncode {s : String} {c : Char} (h : c ∈ (formEncode s).toList) :
    isUnreserved c = true ∨ c = '+' ∨ c = '%' := by
  rw [formEncode, String.toList_ofList] at h
  obtain ⟨d, hd, rfl⟩ := List.mem_map.1 h
  by_cases hspace : d = ' '
  · exact .inr (.inl (if_pos hspace))
  · rw [spaceAsPlus, if_neg hspace]
    exact (mem_percentEncode hd).imp_right (.imp_left fun hsafe => absurd (List.mem_singleton.1 hsafe) hspace)

theorem formDecode_formEncode (s : String) : formDecode (formEncode s) = s := by
  have hback : (formEncode s).toList.map plusAsSpace = (percentEncode [' '] s).toList := by
    rw [formEncode, String.toList_ofList, List.map_map]
    refine (List.map_congr_left fun c hc => ?_).trans (List.map_id _)
    have hplus : c ≠ '+' := by
      rintro rfl
      exact absurd (mem_percentEncode hc) (by decide)
    by_cases hspace : c = ' '
    · rw [hspace]
      rfl
    · simp only [Function.comp_apply, spaceAsPlus, plusAsSpace, if_neg hspace, if_neg hplus, id]
  rw [formDecode, hback, ← percentDecode, percentDecode_percentEncode (List.all_iff_forall_prop.1 (by decide))]

theorem formEncode_injective {s t : String} (h : formEncode s = formEncode t) : s = t := by
  rw [← formDecode_formEncode s, h, formDecode_formEncode]

end TableDump.Text
