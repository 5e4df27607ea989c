import SpriteStage.Proofs.Json.Keys
import SpriteStage.Proofs.Stage.Chronicle

/-!
# Values whose integers are short

A value has a text exactly if its integers are short, that is, have no more digits than the limit.  A value
without a text fails for that reason alone.  What has been written as JSON was short, and so is what is
read: the reader refuses longer integers.

## Main results

* `Value.quoted_eq_error` is why a value has no text
* `Json.writes_iff` says which values can be written
* `Json.isShort_of_read`
-/

namespace SpriteStage

theorem integerText_eq_error {n : Int} (h : ¬ (Decimal.digitsOf n.natAbs).length ≤ digitLimit) :
    integerText n = .error .digitLimit := by
  rw [integerText, if_pos (Nat.lt_of_not_le h)]

namespace Value

theorem areShort_iff (items : List Value) : areShort items = true ↔ ∀ v ∈ items, v.isShort = true := by
  induction items with
  | nil => simp [areShort]
  | cons v rest ih => simp [areShort, ih]

theorem areShortFields_iff (fields : List (String × Value)) :
    areShortFields fields = true ↔ ∀ f ∈ fields, f.2.isShort = true := by
  induction fields with
  | nil => simp [areShortFields]
  | cons f rest ih => simp [areShortFields, ih]

/-! ## Values without a text -/

mutual

/-- A value with a long integer in it has no text, and the integer is the reason. -/
theorem quoted_eq_error : ∀ v : Value, v.isShort = false → v.quoted = .error .digitLimit
  | .int n, h => integerText_eq_error (of_decide_eq_false h)
  | .list items, h => by rw [quoted, quotedItems_eq_error items h]; rfl
  | .object fields, h => by rw [quoted, quotedFields_eq_error fields h]; rfl

theorem quotedItems_eq_error : ∀ items : List Value, areShort items = false →
    quotedItems items = .error .digitLimit
  | v :: rest, h => by
    rw [quotedItems]
    cases hv : v.isShort with
    | false => rw [quoted_eq_error v hv]; rfl
    | true =>
      obtain ⟨text, htext⟩ := exists_quoted v hv
      rw [areShort, hv, Bool.true_and] at h
      rw [htext, quotedItems_eq_error rest h]
      rfl

theorem quotedFields_eq_error : ∀ fields : List (String × Value), areShortFields fields = false →
    quotedFields fields = .error .digitLimit
  | (key, v) :: rest, h => by
    rw [quotedFields]
    cases hv : v.isShort with
    | false => rw [quoted_eq_error v hv]; rfl
    | true =>
      obtain ⟨text, htext⟩ := exists_quoted v hv
      rw [areShortFields, hv, Bool.true_and] at h
      rw [htext, quotedFields_eq_error rest h]
      rfl

end

/-- A short value has a plain text. -/
theorem exists_plain {v : Value} (h : v.isShort = true) : ∃ text, v.plain = .ok text := by
  cases v with
  | text s => exact ⟨s, rfl⟩
  | _ => exact exists_quoted _ h

theorem plain_eq_error {v : Value} (h : v.isShort = false) : v.plain = .error .digitLimit := by
  cases v with
  | text s => cases h
  | _ => exact quoted_eq_error _ h

end Value

/-! ## Values that are written -/

namespace Json

variable {style : Style}

mutual

/-- A value that has been written is short. -/
theorem isShort_of_write : ∀ (v : Value) {level : ℕ} {s}, write style level v = .ok s →
    v.isShort = true
  | .int n, _, s, h => decide_eq_true (exists_integerText_iff.1 ⟨s, eq_ok_of_mapError h⟩)
  | .list items, _, _, h => by
    obtain ⟨ss, hss, -⟩ := exists_of_bind_eq_ok h
    exact areShort_of_writeItems items hss
  | .object fields, _, _, h => by
    obtain ⟨ss, hss, -⟩ := exists_of_bind_eq_ok h
    exact areShort_of_writeFields fields hss
  | .null, _, _, _ | .bool _, _, _, _ | .float _, _, _, _ | .text _, _, _, _ => rfl

theorem areShort_of_writeItems : ∀ (items : List Value) {level : ℕ} {ss},
    writeItems style level items = .ok ss → Value.areShort items = true
  | [], _, _, _ => rfl
  | v :: rest, _, _, h => by
    obtain ⟨s, hs, h⟩ := exists_of_bind_eq_ok h
    obtain ⟨ss, hss, -⟩ := exists_of_bind_eq_ok h
    rw [Value.areShort, isShort_of_write v hs, areShort_of_writeItems rest hss]
    rfl

theorem areShort_of_writeFields : ∀ (fields : List (String × Value)) {level : ℕ} {ss},
    writeFields style level fields = .ok ss → Value.areShortFields fields = true
  | [], _, _, _ => rfl
  | (key, v) :: rest, _, _, h => by
    obtain ⟨s, hs, h⟩ := exists_of_bind_eq_ok h
    obtain ⟨ss, hss, -⟩ := exists_of_bind_eq_ok h
    rw [Value.areShortFields, isShort_of_write v hs, areShort_of_writeFields rest hss]
    rfl

end

/-- **A value can be written without names** exactly if its doubles are finite and its integers short. -/
theorem writes_iff (hnames : style.names = false) {v : Value} :
    Writes style v ↔ v.isStrict = true ∧ v.isShort = true := by
  constructor
  · intro h
    obtain ⟨s, hs⟩ := h 0
    exact ⟨Value.isStrict_of_write hnames v hs, isShort_of_write v hs⟩
  · rintro ⟨hstrict, hshort⟩
    obtain ⟨text, htext⟩ := Value.exists_quoted v hshort
    exact Value.writes_of_quoted style v hstrict htext

/-! ## Values that are read -/

theorem digitValue?_lt {base d : ℕ} {c : Char} (h : Numeral.digitValue? base c = some d) : d < base := by
  rw [Numeral.digitValue?] at h
  exact of_decide_eq_true (Option.filter_eq_some_iff.1 h).2

theorem foldl_lt_pow {f : ℕ → Char → ℕ} {base : ℕ} (hf : ∀ n c, f n c < (n + 1) * base)
    (cs : List Char) (n : ℕ) : cs.foldl f n < (n + 1) * base ^ cs.length := by
  induction cs generalizing n with
  | nil => simp
  | cons c rest ih =>
    rw [List.foldl_cons, List.length_cons, Nat.pow_succ', ← Nat.mul_assoc]
    exact (ih (f n c)).trans_le (Nat.mul_le_mul_right _ (hf n c))

/-- Characters write a number below the power that has one digit more. -/
theorem valueOf_lt_pow {base : ℕ} (hbase : 0 < base) (cs : List Char) :
    Numeral.valueOf base cs < base ^ cs.length := by
  have hlt : Numeral.valueOf base cs < (0 + 1) * base ^ cs.length := by
    rw [Numeral.valueOf]
    apply foldl_lt_pow
    intro n c
    split
    · rename_i d hd
      rw [Nat.succ_mul]
      exact Nat.add_lt_add_left (digitValue?_lt hd) _
    · -- A character that is no digit is passed over.
      exact Nat.le_mul_of_pos_right (n + 1) hbase
  rwa [Nat.zero_add, Nat.one_mul] at hlt

theorem length_digitsOf_valueOf_le {cs : List Char} (h : cs ≠ []) :
    (Decimal.digitsOf (Numeral.valueOf 10 cs)).length ≤ cs.length :=
  (Nat.length_toDigits_le_iff (by decide) (List.length_pos_iff.2 h)).2 (valueOf_lt_pow (by decide) cs)

theorem isShort_of_readNumber {cs rest : List Char} {v : Value} (h : readNumber cs = .ok (v, rest)) :
    v.isShort = true := by
  unfold readNumber at h
  extract_lets negative digits whole rest at h
  split at h
  · cases h
  rename_i hne
  -- The digits after the point are cut off first.
  split at h
  split at h
  · split at h
    · cases h
    · rename_i hlimit
      cases h
      have hwhole : whole ≠ [] := by simpa using hne
      have habs : (Exact.signed negative (Numeral.valueOf 10 whole)).natAbs =
          Numeral.valueOf 10 whole := by
        rw [Exact.signed]
        split <;> simp
      rw [Value.isShort, habs, decide_eq_true_eq]
      exact (length_digitsOf_valueOf_le hwhole).trans (Nat.le_of_not_lt hlimit)
  · cases h
    rfl

theorem isShort_of_readScalar {cs rest : List Char} {v : Value} (h : readScalar cs = .ok (v, rest)) :
    v.isShort = true := by
  rw [readScalar] at h
  split at h
  · rename_i name w hfind
    cases h
    have hnames : ∀ n ∈ names, n.2.isShort = true := by simp [names, Value.isShort]
    exact hnames _ (List.mem_of_find?_eq_some hfind)
  · exact isShort_of_readNumber h

theorem areShortFields_setField {key : String} {v : Value} {fields : List (String × Value)}
    (hv : v.isShort = true) (h : Value.areShortFields fields = true) :
    Value.areShortFields (Value.setField key v fields) = true := by
  induction fields with
  | nil => simp [Value.setField, Value.areShortFields, hv]
  | cons f rest ih =>
    rw [Value.areShortFields, Bool.and_eq_true] at h
    rw [Value.setField]
    split
    · simp [Value.areShortFields, hv, h.2]
    · simp [Value.areShortFields, h.1, ih h.2]

/-- **What is read is short**, since the reader counts the digits of integers. -/
theorem isShort_of_read {s : String} {v : Value} (h : read s = .ok v) : v.isShort = true := by
  have hshort : HoldsOfRead (·.isShort = true) :=
    { text := fun _ => rfl
      scalar := isShort_of_readScalar
      list := fun {items} => (Value.areShort_iff items).2
      empty := rfl
      field := areShortFields_setField }
  exact hshort.read h

end Json

end SpriteStage
