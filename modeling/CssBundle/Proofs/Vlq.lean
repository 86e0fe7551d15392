import Mathlib
import CssBundle.SourceMap.Vlq

/-!
# Reading back base64 VLQs

A VLQ is written as base64 digits, lowest first, every digit but the last carrying the
continuation mark. Reading those digits adds each digit's five bits at its place, so a value
comes back whole as long as its sign-folded form fits in 32 bits: that is, as long as its
magnitude is below `2 ^ 31`.

Main statements: `decodeBytes_encode`, reading one VLQ from the front of any byte sequence, and
`decode_encodeAll`, reading back a whole segment of VLQs.
-/

namespace CssBundle.SourceMap.Vlq

theorem digitChar_table :
    ∀ d < 64, (digitChar d).toNat < 128 ∧ digitOf (digitChar d).toNat = some d := by
  decide

theorem encodeNat_digits (n : Nat) :
    ∀ c ∈ encodeNat n, c.toNat < 128 ∧ (digitOf c.toNat).isSome := by
  induction n using Nat.strongRecOn with
  | ind n ih =>
    rw [encodeNat]
    split
    · have h := digitChar_table n (by omega)
      simp [h.1, h.2]
    · intro c hc
      rcases List.mem_cons.mp hc with rfl | hc
      · have h := digitChar_table (n % 32 + 32) (by omega)
        simp [h.1, h.2]
      · exact ih (n / 32) (by omega) c hc

theorem zigzag_lt_iff (v : Int) : zigzag v < 2 ^ 32 ↔ v.natAbs < 2 ^ 31 := by
  unfold zigzag
  split <;> omega

theorem place_split (n shift : Nat) :
    n * 2 ^ shift = n % 32 * 2 ^ shift + n / 32 * 2 ^ (shift + 5) := by
  have hplace : 2 ^ (shift + 5) = 32 * 2 ^ shift := by
    rw [Nat.pow_add, Nat.mul_comm]
  calc n * 2 ^ shift = (n % 32 + n / 32 * 32) * 2 ^ shift := by rw [Nat.mod_add_div']
    _ = n % 32 * 2 ^ shift + n / 32 * 2 ^ (shift + 5) := by
      rw [hplace, Nat.add_mul, Nat.mul_assoc]

/-- Reading the last digit of a value, `n < 32` at its place: the value is closed unless the
total passes 32 bits. -/
theorem decodeBytes_last {n : Nat} (hn : n < 32) (rest : List Nat) (acc : List Int)
    (total shift : Nat) (inside : Bool) :
    decodeBytes ((digitChar n).toNat :: rest) acc total shift inside =
      if 2 ^ 32 ≤ total + n * 2 ^ shift then .error .vlqOverflow
      else decodeBytes rest (unzigzag (total + n * 2 ^ shift) :: acc) 0 0 false := by
  obtain ⟨-, hd⟩ := digitChar_table n (by omega)
  simp only [decodeBytes, hd, Nat.mod_eq_of_lt hn, hn, Nat.shiftLeft_eq, UInt32.size, ↓reduceIte]
  split_ifs <;> first | rfl | omega

/-- Reading a digit with the continuation mark: its low five bits go in at their place, and the
next digit is read five places up, unless the total passes 32 bits or the value runs past eight
digits. -/
theorem decodeBytes_continued (n : Nat) (rest : List Nat) (acc : List Int) (total shift : Nat)
    (inside : Bool) :
    decodeBytes ((digitChar (n % 32 + 32)).toNat :: rest) acc total shift inside =
      if 2 ^ 32 ≤ total + n % 32 * 2 ^ shift then .error .vlqOverflow
      else if 35 < shift + 5 then .error .vlqOverflow
      else decodeBytes rest acc (total + n % 32 * 2 ^ shift) (shift + 5) true := by
  obtain ⟨-, hd⟩ := digitChar_table (n % 32 + 32) (by omega)
  have hd32 : (n % 32 + 32) % 32 = n % 32 := by omega
  have hcont : ¬ n % 32 + 32 < 32 := by omega
  simp only [decodeBytes, hd, hd32, hcont, Nat.shiftLeft_eq, UInt32.size, ↓reduceIte]
  split_ifs <;> first | rfl | omega

/-- Reading the digits of `n`, while `total` and `shift` describe the digits read before it,
adds `n * 2 ^ shift` to the total and closes the value, as long as the whole stays in 32 bits. -/
theorem decodeBytes_encodeNat (n : Nat) : ∀ (total shift : Nat) (rest : List Nat) (acc : List Int)
    (inside : Bool), total + n * 2 ^ shift < 2 ^ 32 →
    decodeBytes ((encodeNat n).map Char.toNat ++ rest) acc total shift inside =
      decodeBytes rest (unzigzag (total + n * 2 ^ shift) :: acc) 0 0 false := by
  induction n using Nat.strongRecOn with
  | ind n ih =>
    intro total shift rest acc inside hfit
    rw [encodeNat]
    split
    · rename_i hn
      rw [List.map_singleton, List.singleton_append, decodeBytes_last hn, if_neg (by omega)]
    · rename_i hn
      have hsplit : total + n * 2 ^ shift =
          total + n % 32 * 2 ^ shift + n / 32 * 2 ^ (shift + 5) := by
        rw [place_split, Nat.add_assoc]
      have hshift : shift + 5 < 32 := by
        have h32 : 2 ^ (shift + 5) ≤ n * 2 ^ shift := by
          rw [Nat.pow_add, Nat.mul_comm]
          exact Nat.mul_le_mul_right _ (by omega)
        exact (Nat.pow_lt_pow_iff_right (show 1 < 2 by omega)).mp (by omega)
      rw [List.map_cons, List.cons_append, decodeBytes_continued, if_neg (by omega),
        if_neg (by omega), ih (n / 32) (by omega) _ _ _ _ _ (by omega), ← hsplit]

/-- Reading the digits of `n` fails with an overflow when the value they finish does not fit in
32 bits: before its last digit is read, the running total passes `2 ^ 32 - 1` or the value runs
past eight digits. -/
theorem decodeBytes_encodeNat_overflow (n : Nat) : ∀ (total shift : Nat) (rest : List Nat)
    (acc : List Int) (inside : Bool), 2 ^ 32 ≤ total + n * 2 ^ shift →
    decodeBytes ((encodeNat n).map Char.toNat ++ rest) acc total shift inside =
      .error .vlqOverflow := by
  induction n using Nat.strongRecOn with
  | ind n ih =>
    intro total shift rest acc inside hbig
    rw [encodeNat]
    split
    · rename_i hn
      rw [List.map_singleton, List.singleton_append, decodeBytes_last hn, if_pos hbig]
    · have hrest : 2 ^ 32 ≤ total + n % 32 * 2 ^ shift + n / 32 * 2 ^ (shift + 5) := by
        rw [Nat.add_assoc, ← place_split]
        exact hbig
      rw [List.map_cons, List.cons_append, decodeBytes_continued]
      split_ifs
      · rfl
      · rfl
      · exact ih (n / 32) (by omega) _ _ _ _ _ hrest

/-- A VLQ is a run of base64 digits in which every digit but the last carries the continuation
mark (is at least 32) and the last does not. -/
theorem encodeNat_shape (n : Nat) : ∃ init last, encodeNat n = init ++ [last] ∧
    (∀ c ∈ init, ∃ d, digitOf c.toNat = some d ∧ 32 ≤ d) ∧
    ∃ d, digitOf last.toNat = some d ∧ d < 32 := by
  induction n using Nat.strongRecOn with
  | ind n ih =>
    rw [encodeNat]
    split
    · rename_i hn
      exact ⟨[], digitChar n, rfl, by simp, n, (digitChar_table n (by omega)).2, hn⟩
    · rename_i hn
      obtain ⟨init, last, heq, hinit, hlast⟩ := ih (n / 32) (by omega)
      refine ⟨digitChar (n % 32 + 32) :: init, last, by rw [heq, List.cons_append], ?_, hlast⟩
      intro c hc
      rcases List.mem_cons.mp hc with rfl | hc
      · exact ⟨n % 32 + 32, (digitChar_table _ (by omega)).2, by omega⟩
      · exact hinit c hc

theorem bytes_ofList_of_ascii {cs : List Char} (h : ∀ c ∈ cs, c.toNat < 128) :
    (String.ofList cs).toUTF8.data.toList.map UInt8.toNat = cs.map Char.toNat := by
  rw [String.toUTF8_eq_toByteArray, String.toByteArray_ofList, List.utf8Encode,
    List.data_toByteArray, List.toList_toArray]
  induction cs with
  | nil => rfl
  | cons c cs ih =>
    have hlt := h c (by simp)
    have hc : c.utf8Size = 1 := by
      rw [Char.utf8Size_eq_one_iff, UInt32.le_iff_toNat_le]
      exact Nat.le_of_lt_succ hlt
    rw [List.flatMap_cons, String.utf8EncodeChar_eq_singleton hc, List.singleton_append,
      List.map_cons, List.map_cons, ih (fun x hx => h x (by simp [hx]))]
    simp only [UInt32.toNat_toUInt8, Char.toNat] at hlt ⊢
    rw [Nat.mod_eq_of_lt (by omega)]

theorem bytes_append (s t : String) :
    (s ++ t).toUTF8.data.toList = s.toUTF8.data.toList ++ t.toUTF8.data.toList := by
  simp [String.toByteArray_append, ByteArray.data_append]

theorem bytes_encode (v : Int) :
    (encode v).toUTF8.data.toList.map UInt8.toNat = (encodeNat (zigzag v)).map Char.toNat :=
  bytes_ofList_of_ascii fun c hc => (encodeNat_digits _ c hc).1

theorem decodeBytes_encode {v : Int} (h : v.natAbs < 2 ^ 31) (rest : List Nat) (acc : List Int)
    (inside : Bool) :
    decodeBytes ((encode v).toUTF8.data.toList.map UInt8.toNat ++ rest) acc 0 0 inside =
      decodeBytes rest (v :: acc) 0 0 false := by
  have hfit : 0 + zigzag v * 2 ^ 0 < 2 ^ 32 := by simpa using (zigzag_lt_iff v).mpr h
  rw [bytes_encode, decodeBytes_encodeNat _ _ _ _ _ _ hfit]
  simp

theorem encodeAll_cons (v : Int) (vs : List Int) :
    encodeAll (v :: vs) = encode v ++ encodeAll vs := by
  simp [encodeAll, String.join_cons]

theorem digitOf_encodeAll (vs : List Int) :
    ∀ c ∈ (encodeAll vs).toList, (digitOf c.toNat).isSome := by
  intro c hc
  simp only [encodeAll, String.toList_join, List.mem_flatMap, List.mem_map] at hc
  obtain ⟨s, ⟨v, -, rfl⟩, hc⟩ := hc
  simp only [encode, String.toList_ofList] at hc
  exact (encodeNat_digits _ c hc).2

theorem encodeAll_cons_ne_empty (v : Int) (vs : List Int) : encodeAll (v :: vs) ≠ "" := by
  rw [encodeAll_cons, encode, encodeNat]
  split <;> simp

theorem decode_encodeAll {vs : List Int} (h : ∀ v ∈ vs, v.natAbs < 2 ^ 31) :
    decode (encodeAll vs) = .ok vs := by
  suffices ∀ acc, decodeBytes ((encodeAll vs).toUTF8.data.toList.map UInt8.toNat) acc 0 0 false =
      .ok (acc.reverse ++ vs) by simpa [decode] using this []
  induction vs with
  | nil => intro acc; simp [encodeAll, decodeBytes]
  | cons v vs ih =>
    intro acc
    rw [encodeAll_cons, bytes_append, List.map_append,
      decodeBytes_encode (h v (by simp)), ih (fun w hw => h w (by simp [hw]))]
    simp

/-- A value whose magnitude is `2 ^ 31` or more does not read back: its VLQ overflows, whatever
follows it. -/
theorem decodeBytes_encode_overflow {v : Int} (h : 2 ^ 31 ≤ v.natAbs) (rest : List Nat)
    (acc : List Int) (inside : Bool) :
    decodeBytes ((encode v).toUTF8.data.toList.map UInt8.toNat ++ rest) acc 0 0 inside =
      .error .vlqOverflow := by
  have hbig : 2 ^ 32 ≤ 0 + zigzag v * 2 ^ 0 := by
    have := mt (zigzag_lt_iff v).mp (by omega)
    simp only [Nat.not_lt] at this
    simpa using this
  rw [bytes_encode, decodeBytes_encodeNat_overflow _ _ _ _ _ _ hbig]

/-- A segment of VLQs reads back exactly when every value's magnitude is below `2 ^ 31`; else
reading fails with an overflow at the first value that is not. -/
theorem decode_encodeAll_eq (vs : List Int) :
    decode (encodeAll vs) =
      if ∀ v ∈ vs, v.natAbs < 2 ^ 31 then .ok vs else .error .vlqOverflow := by
  split
  · next h => exact decode_encodeAll h
  · next h =>
    suffices ∀ acc, decodeBytes ((encodeAll vs).toUTF8.data.toList.map UInt8.toNat) acc 0 0 false =
        .error .vlqOverflow from this []
    induction vs with
    | nil => simp at h
    | cons v vs ih =>
      intro acc
      rw [encodeAll_cons, bytes_append, List.map_append]
      by_cases hv : v.natAbs < 2 ^ 31
      · rw [decodeBytes_encode hv]
        exact ih (fun hall => h (List.forall_mem_cons.mpr ⟨hv, hall⟩)) _
      · exact decodeBytes_encode_overflow (by omega) _ _ _

/-- Writing and reading a segment of VLQs. For values of magnitude below `2 ^ 62`, the
sign-folded value stays below `2 ^ 63`, so writing never overflows a signed 64-bit word; each
value is written as base64 digits with the continuation mark on every digit but the last; and
the segment reads back as the values when every magnitude is at most `2 ^ 31 - 1`, and fails
with an overflow when some magnitude is `2 ^ 31` or more. -/
theorem encodeAll_decode {vs : List Int} (h : ∀ v ∈ vs, v.natAbs < 2 ^ 62) :
    (∀ v ∈ vs, zigzag v < 2 ^ 63) ∧
    (∀ v ∈ vs, ∃ init last, (encode v).toList = init ++ [last] ∧
      (∀ c ∈ init, ∃ d, digitOf c.toNat = some d ∧ 32 ≤ d) ∧
      ∃ d, digitOf last.toNat = some d ∧ d < 32) ∧
    decode (encodeAll vs) =
      if ∀ v ∈ vs, v.natAbs ≤ 2 ^ 31 - 1 then .ok vs else .error .vlqOverflow := by
  refine ⟨fun v hv => ?_, fun v _ => ?_, ?_⟩
  · have := h v hv
    unfold zigzag
    split <;> omega
  · simpa [encode] using encodeNat_shape (zigzag v)
  · have hbound : (∀ v ∈ vs, v.natAbs ≤ 2 ^ 31 - 1) ↔ ∀ v ∈ vs, v.natAbs < 2 ^ 31 :=
      forall₂_congr fun v _ => by omega
    rw [decode_encodeAll_eq, if_congr hbound rfl rfl]

/-- Three values: the largest magnitude that reads back, negative, then one past it. The
first folds to `2 ^ 32 - 1` and reads back; the second folds to `2 ^ 32` and the segment
overflows. -/
theorem encodeAll_decode_sample :
    (∀ v ∈ ([-(2 ^ 31 - 1), 2 ^ 31, 16] : List Int), v.natAbs < 2 ^ 62) ∧
      decode (encodeAll [-(2 ^ 31 - 1), 2 ^ 31, 16]) = .error .vlqOverflow :=
  ⟨by decide, by
    rw [(@encodeAll_decode [-(2 ^ 31 - 1), 2 ^ 31, 16] (by decide)).2.2, if_neg (by decide)]⟩

end CssBundle.SourceMap.Vlq
