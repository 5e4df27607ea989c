import Mathlib.Tactic
import SpriteStage.Text.Utf8

/-!
# Bytes of texts

A text that is encoded in UTF-8 is decoded again.  The decoder reads the bytes of one character after the
other; the four lengths of a character are taken one by one, and in each the first byte tells the length
and the other bytes continue it.

## Main results

* `Text.decodeUtf8_encodeUtf8`
-/

namespace SpriteStage.Text

/-! ## Lists of bytes -/

theorem toList_loop (bytes : ByteArray) (i : ℕ) (before : List UInt8) :
    ByteArray.toList.loop bytes i before = before.reverse ++ bytes.data.toList.drop i := by
  induction hn : bytes.size - i generalizing i before with
  | zero =>
    have hle : bytes.data.toList.length ≤ i := by
      rw [Array.length_toList]
      exact Nat.le_of_sub_eq_zero hn
    rw [ByteArray.toList.loop, if_neg (by omega), List.drop_eq_nil_of_le hle, List.append_nil]
  | succ n ih =>
    have hlt : i < bytes.data.toList.length := by
      rw [Array.length_toList]
      show i < bytes.size
      omega
    have hget : bytes.get! i = bytes.data.toList[i] := getElem!_pos bytes.data i hlt
    rw [ByteArray.toList.loop, if_pos (by omega), ih (i + 1) _ (by omega), hget,
      List.drop_eq_getElem_cons hlt, List.reverse_cons, List.append_assoc, List.singleton_append]

theorem toList_eq_toList_data (bytes : ByteArray) : bytes.toList = bytes.data.toList := by
  rw [ByteArray.toList, toList_loop]
  rfl

/-- The bytes of a text are those of its characters. -/
theorem encodeUtf8_eq (s : String) : encodeUtf8 s = s.toList.flatMap String.utf8EncodeChar := by
  show s.toByteArray.toList = _
  rw [← String.utf8Encode_toList, toList_eq_toList_data]
  exact List.toList_data_toByteArray

/-! ## Bytes of a character -/

section

variable {n m : ℕ}

theorem ofNat_lt (hn : n < 256) (hm : m < 256) : UInt8.ofNat n < UInt8.ofNat m ↔ n < m := by
  rw [UInt8.lt_iff_toNat_lt, UInt8.toNat_ofNat', UInt8.toNat_ofNat', Nat.mod_eq_of_lt hn,
    Nat.mod_eq_of_lt hm]

theorem ofNat_le (hn : n < 256) (hm : m < 256) : UInt8.ofNat n ≤ UInt8.ofNat m ↔ n ≤ m := by
  rw [UInt8.le_iff_toNat_le, UInt8.toNat_ofNat', UInt8.toNat_ofNat', Nat.mod_eq_of_lt hn,
    Nat.mod_eq_of_lt hm]

theorem ofNat_beq (hn : n < 256) (hm : m < 256) :
    (UInt8.ofNat n == UInt8.ofNat m) = decide (n = m) := by
  rw [Bool.eq_iff_iff, beq_iff_eq, decide_eq_true_iff, ← UInt8.toNat_inj, UInt8.toNat_ofNat',
    UInt8.toNat_ofNat', Nat.mod_eq_of_lt hn, Nat.mod_eq_of_lt hm]

/-- The length of a character by the number of its first byte. -/
theorem sequenceLength?_ofNat (hn : n < 256) :
    sequenceLength? (UInt8.ofNat n) =
      if n < 0x80 then some 1
      else if n < 0xC2 then none
      else if n < 0xE0 then some 2
      else if n < 0xF0 then some 3
      else if n < 0xF5 then some 4
      else none := by
  have hlt : ∀ k < 256, (UInt8.ofNat n < UInt8.ofNat k) = (n < k) := fun k hk =>
    propext (ofNat_lt hn hk)
  rw [sequenceLength?]
  show (if UInt8.ofNat n < UInt8.ofNat 0x80 then _ else if UInt8.ofNat n < UInt8.ofNat 0xC2 then _
    else if UInt8.ofNat n < UInt8.ofNat 0xE0 then _ else if UInt8.ofNat n < UInt8.ofNat 0xF0 then _
    else if UInt8.ofNat n < UInt8.ofNat 0xF5 then _ else _) = _
  simp only [hlt 0x80 (by decide), hlt 0xC2 (by decide), hlt 0xE0 (by decide), hlt 0xF0 (by decide),
    hlt 0xF5 (by decide)]

theorem isContinuation_ofNat (hge : 0x80 ≤ n) (hlt : n < 0xC0) :
    isContinuation (UInt8.ofNat n) = true := by
  have hfirst : (0x80 : UInt8) ≤ UInt8.ofNat n := (ofNat_le (by decide) (by omega)).2 hge
  have hsecond : UInt8.ofNat n < (0xC0 : UInt8) := (ofNat_lt (by omega) (by decide)).2 hlt
  simp [isContinuation, hfirst, hsecond]

/-- A second byte that continues the first one and makes it neither overlong nor a surrogate nor too
    large. -/
theorem isSecond_ofNat (hn : n < 256) (hge : 0x80 ≤ m) (hlt : m < 0xC0) (hE0 : n = 0xE0 → 0xA0 ≤ m)
    (hED : n = 0xED → m < 0xA0) (hF0 : n = 0xF0 → 0x90 ≤ m) (hF4 : n = 0xF4 → m < 0x90) :
    isSecond (UInt8.ofNat n) (UInt8.ofNat m) = true := by
  have hm : m < 256 := by omega
  rw [isSecond, isContinuation_ofNat hge hlt, Bool.true_and]
  show (if UInt8.ofNat n == UInt8.ofNat 0xE0 then decide (UInt8.ofNat 0xA0 ≤ UInt8.ofNat m)
    else if UInt8.ofNat n == UInt8.ofNat 0xED then decide (UInt8.ofNat m < UInt8.ofNat 0xA0)
    else if UInt8.ofNat n == UInt8.ofNat 0xF0 then decide (UInt8.ofNat 0x90 ≤ UInt8.ofNat m)
    else if UInt8.ofNat n == UInt8.ofNat 0xF4 then decide (UInt8.ofNat m < UInt8.ofNat 0x90)
    else true) = true
  simp only [ofNat_beq hn (show 0xE0 < 256 by decide), ofNat_beq hn (show 0xED < 256 by decide),
    ofNat_beq hn (show 0xF0 < 256 by decide), ofNat_beq hn (show 0xF4 < 256 by decide),
    decide_eq_true_eq]
  split
  · rename_i h
    exact decide_eq_true ((ofNat_le (by decide) hm).2 (hE0 h))
  split
  · rename_i h
    exact decide_eq_true ((ofNat_lt hm (by decide)).2 (hED h))
  split
  · rename_i h
    exact decide_eq_true ((ofNat_le (by decide) hm).2 (hF0 h))
  split
  · rename_i h
    exact decide_eq_true ((ofNat_lt hm (by decide)).2 (hF4 h))
  · rfl

theorem payload_ofNat (hge : 0x80 ≤ n) (hlt : n < 0xC0) : payload (UInt8.ofNat n) = n - 0x80 := by
  rw [payload, UInt8.toNat_ofNat']
  omega

end

/-! ## Characters -/

section

variable {first b c d : UInt8} (rest : List UInt8)

theorem decodeChar_one (h : sequenceLength? first = some 1) :
    decodeChar first rest = .ok (Char.ofNat first.toNat, 0) := by
  unfold decodeChar
  rw [h]
  cases rest <;> rfl

theorem decodeChar_two (h : sequenceLength? first = some 2) (hb : isSecond first b = true) :
    decodeChar first (b :: rest) = .ok (Char.ofNat (first.toNat % 0x20 * 0x40 + payload b), 1) := by
  unfold decodeChar
  simp only [h, hb]
  rfl

theorem decodeChar_three (h : sequenceLength? first = some 3) (hb : isSecond first b = true)
    (hc : isContinuation c = true) :
    decodeChar first (b :: c :: rest) =
      .ok (Char.ofNat ((first.toNat % 0x10 * 0x40 + payload b) * 0x40 + payload c), 2) := by
  unfold decodeChar
  simp only [h, hb, hc]
  rfl

theorem decodeChar_four (h : sequenceLength? first = some 4) (hb : isSecond first b = true)
    (hc : isContinuation c = true) (hd : isContinuation d = true) :
    decodeChar first (b :: c :: d :: rest) =
      .ok (Char.ofNat (((first.toNat % 8 * 0x40 + payload b) * 0x40 + payload c) * 0x40 + payload d),
        3) := by
  unfold decodeChar
  simp only [h, hb, hc, hd]
  rfl

end

section

variable {v : ℕ} (rest : List UInt8)

theorem decodeChar_oneByte (hlt : v < 0x80) :
    decodeChar (UInt8.ofNat v) rest = .ok (Char.ofNat v, 0) := by
  have hlength : sequenceLength? (UInt8.ofNat v) = some 1 := by
    rw [sequenceLength?_ofNat (by omega), if_pos (by omega)]
  rw [decodeChar_one _ hlength, UInt8.toNat_ofNat', Nat.mod_eq_of_lt (by omega)]

/-- Two bytes, with five and six bits of the code. -/
theorem decodeChar_twoBytes (hge : 0x80 ≤ v) (hlt : v < 0x800) :
    decodeChar (UInt8.ofNat (v / 64 % 32 + 192)) (UInt8.ofNat (v % 64 + 128) :: rest) =
      .ok (Char.ofNat v, 1) := by
  generalize ha : v / 64 % 32 + 192 = a
  generalize hb : v % 64 + 128 = b
  have hlength : sequenceLength? (UInt8.ofNat a) = some 2 := by
    rw [sequenceLength?_ofNat (by omega), if_neg (by omega), if_neg (by omega), if_pos (by omega)]
  have hsecond : isSecond (UInt8.ofNat a) (UInt8.ofNat b) = true := by
    apply isSecond_ofNat <;> omega
  have hcode : a % 2 ^ 8 % 0x20 * 0x40 + (b - 0x80) = v := by omega
  rw [decodeChar_two _ hlength hsecond, UInt8.toNat_ofNat', payload_ofNat (by omega) (by omega), hcode]

/-- Three bytes.  That the code is no surrogate decides what the second byte may be. -/
theorem decodeChar_threeBytes (hge : 0x800 ≤ v) (hlt : v < 0x10000) (hvalid : v < 0xD800 ∨ 0xDFFF < v) :
    decodeChar (UInt8.ofNat (v / 4096 % 16 + 224))
      (UInt8.ofNat (v / 64 % 64 + 128) :: UInt8.ofNat (v % 64 + 128) :: rest) = .ok (Char.ofNat v, 2) := by
  generalize ha : v / 4096 % 16 + 224 = a
  generalize hb : v / 64 % 64 + 128 = b
  generalize hd : v % 64 + 128 = d
  have hlength : sequenceLength? (UInt8.ofNat a) = some 3 := by
    rw [sequenceLength?_ofNat (by omega), if_neg (by omega), if_neg (by omega), if_neg (by omega),
      if_pos (by omega)]
  have hsecond : isSecond (UInt8.ofNat a) (UInt8.ofNat b) = true := by
    apply isSecond_ofNat <;> omega
  have hthird : isContinuation (UInt8.ofNat d) = true := by
    apply isContinuation_ofNat <;> omega
  have hcode : (a % 2 ^ 8 % 0x10 * 0x40 + (b - 0x80)) * 0x40 + (d - 0x80) = v := by omega
  rw [decodeChar_three _ hlength hsecond hthird, UInt8.toNat_ofNat', payload_ofNat (by omega) (by omega),
    payload_ofNat (by omega) (by omega), hcode]

/-- Four bytes.  The second byte is bounded by the greatest code. -/
theorem decodeChar_fourBytes (hge : 0x10000 ≤ v) (hlt : v < 0x110000) :
    decodeChar (UInt8.ofNat (v / 262144 % 8 + 240))
      (UInt8.ofNat (v / 4096 % 64 + 128) :: UInt8.ofNat (v / 64 % 64 + 128)
        :: UInt8.ofNat (v % 64 + 128) :: rest) = .ok (Char.ofNat v, 3) := by
  generalize ha : v / 262144 % 8 + 240 = a
  generalize hb : v / 4096 % 64 + 128 = b
  generalize hd : v / 64 % 64 + 128 = d
  generalize he : v % 64 + 128 = e
  have hlength : sequenceLength? (UInt8.ofNat a) = some 4 := by
    rw [sequenceLength?_ofNat (by omega), if_neg (by omega), if_neg (by omega), if_neg (by omega),
      if_neg (by omega), if_pos (by omega)]
  have hsecond : isSecond (UInt8.ofNat a) (UInt8.ofNat b) = true := by
    apply isSecond_ofNat <;> omega
  have hthird : isContinuation (UInt8.ofNat d) = true := by
    apply isContinuation_ofNat <;> omega
  have hfourth : isContinuation (UInt8.ofNat e) = true := by
    apply isContinuation_ofNat <;> omega
  have hcode : ((a % 2 ^ 8 % 8 * 0x40 + (b - 0x80)) * 0x40 + (d - 0x80)) * 0x40 + (e - 0x80) = v := by
    omega
  rw [decodeChar_four _ hlength hsecond hthird hfourth, UInt8.toNat_ofNat',
    payload_ofNat (by omega) (by omega), payload_ofNat (by omega) (by omega),
    payload_ofNat (by omega) (by omega), hcode]

end

/-- **The bytes of a character are read as it**, whatever follows them. -/
theorem decodeChar_utf8EncodeChar (c : Char) (rest : List UInt8) :
    ∃ first more, String.utf8EncodeChar c = first :: more ∧
      decodeChar first (more ++ rest) = .ok (c, more.length) := by
  obtain ⟨v, hv⟩ : ∃ v, v = c.toNat := ⟨_, rfl⟩
  have hvalid : v < 0xD800 ∨ (0xDFFF < v ∧ v < 0x110000) := hv ▸ c.valid
  have hval : c.val.toNat = v := hv.symm
  have hc : Char.ofNat v = c := by rw [hv, Char.ofNat_toNat]
  rw [String.utf8EncodeChar]
  simp only [hval]
  -- The encoder asks for the length of the code in the same order as the lemmas stand.
  split
  · exact ⟨_, [], rfl, hc ▸ decodeChar_oneByte rest (by omega)⟩
  split
  · exact ⟨_, [_], rfl, hc ▸ decodeChar_twoBytes rest (by omega) (by omega)⟩
  split
  · exact ⟨_, [_, _], rfl, hc ▸ decodeChar_threeBytes rest (by omega) (by omega) (by omega)⟩
  · exact ⟨_, [_, _, _], rfl, hc ▸ decodeChar_fourBytes rest (by omega) (by omega)⟩

/-! ## Texts -/

/-- Bytes that belong to the character before are passed over. -/
theorem decodeFrom_append (start : ℕ) (more rest : List UInt8) :
    decodeFrom start more.length (more ++ rest) = decodeFrom (start + more.length) 0 rest := by
  induction more generalizing start with
  | nil => rfl
  | cons b more ih =>
    rw [List.length_cons, List.cons_append, decodeFrom, ih, Nat.add_assoc, Nat.add_comm 1]

/-- The bytes of characters are decoded to them. -/
theorem decodeFrom_flatMap (start : ℕ) (cs : List Char) :
    decodeFrom start 0 (cs.flatMap String.utf8EncodeChar) = .ok cs := by
  induction cs generalizing start with
  | nil => rfl
  | cons c cs ih =>
    obtain ⟨first, more, hbytes, hdecoded⟩ :=
      decodeChar_utf8EncodeChar c (cs.flatMap String.utf8EncodeChar)
    rw [List.flatMap_cons, hbytes, List.cons_append, decodeFrom, hdecoded]
    simp only [decodeFrom_append, ih]
    rfl

/-- **What is encoded in UTF-8 is decoded again.** -/
theorem decodeUtf8_encodeUtf8 (s : String) : decodeUtf8 (encodeUtf8 s) = .ok s := by
  rw [decodeUtf8, encodeUtf8_eq, decodeFrom_flatMap]
  exact congrArg Except.ok String.ofList_toList

end SpriteStage.Text
