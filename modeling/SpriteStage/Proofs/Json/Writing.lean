import SpriteStage.Proofs.Failure
import SpriteStage.Json.Printer
import SpriteStage.Run.Payload

/-!
# Values that JSON can write

A value can be written if no double in it is infinite or not-a-number, and no integer in it has too many
digits.  A value that has a text has no such integer, so that what has been logged can be written if its
doubles can.

## Main definitions

* `Json.Writes` says that a value can be written in a style, at every level
* `Value.isStrict` holds of values whose doubles are all finite
-/

namespace SpriteStage

open Json

/-! ## Parts of values -/

namespace Json

/-- A value can be written in a style, however deep it stands. -/
def Writes (style : Style) (v : Value) : Prop := ∀ level, ∃ s, write style level v = .ok s

variable {style : Style}

theorem Writes.null : Writes style .null := fun _ => ⟨_, rfl⟩

theorem Writes.bool (b : Bool) : Writes style (.bool b) := fun _ => ⟨_, rfl⟩

theorem Writes.text (s : String) : Writes style (.text s) := fun _ => ⟨_, rfl⟩

/-- An integer can be written if it has a text. -/
theorem Writes.int {n : Int} {s : String} (h : integerText n = .ok s) : Writes style (.int n) := by
  intro level
  rw [write, h]
  exact ⟨s, rfl⟩

/-- A finite double can be written. -/
theorem Writes.float {x : Float} (h : x.isFinite = true) : Writes style (.float x) := by
  intro level
  have hunpack : x.toModel.unpack.isFinite = true := h
  rw [write, writeFloat, Exact.ofFloat]
  cases hx : x.toModel.unpack with
  | notANumber =>
    rw [hx] at hunpack
    cases hunpack
  | infinity s =>
    rw [hx] at hunpack
    cases hunpack
  | zero s => exact ⟨_, rfl⟩
  | finite s m e hm => exact ⟨_, rfl⟩

theorem exists_writeItems {items : List Value} (h : ∀ v ∈ items, Writes style v) (level : Nat) :
    ∃ ss, writeItems style level items = .ok ss := by
  induction items with
  | nil => exact ⟨[], rfl⟩
  | cons v rest ih =>
    obtain ⟨s, hs⟩ := h v List.mem_cons_self level
    obtain ⟨ss, hss⟩ := ih fun w hw => h w (List.mem_cons_of_mem v hw)
    rw [writeItems, hs, hss]
    exact ⟨s :: ss, rfl⟩

/-- A list of values that can be written can be written. -/
theorem Writes.list {items : List Value} (h : ∀ v ∈ items, Writes style v) :
    Writes style (.list items) := by
  intro level
  obtain ⟨ss, hss⟩ := exists_writeItems h (level + 1)
  rw [write, hss]
  exact ⟨_, rfl⟩

theorem exists_writeFields {fields : List (String × Value)} (h : ∀ f ∈ fields, Writes style f.2)
    (level : Nat) : ∃ ss, writeFields style level fields = .ok ss := by
  induction fields with
  | nil => exact ⟨[], rfl⟩
  | cons f rest ih =>
    obtain ⟨s, hs⟩ := h f List.mem_cons_self level
    obtain ⟨ss, hss⟩ := ih fun g hg => h g (List.mem_cons_of_mem f hg)
    obtain ⟨key, v⟩ := f
    rw [writeFields, hs, hss]
    exact ⟨(key, s) :: ss, rfl⟩

/-- An object of values that can be written can be written. -/
theorem Writes.object {fields : List (String × Value)} (h : ∀ f ∈ fields, Writes style f.2) :
    Writes style (.object fields) := by
  intro level
  obtain ⟨ss, hss⟩ := exists_writeFields h (level + 1)
  rw [write, hss]
  exact ⟨_, rfl⟩

end Json

/-! ## Values with a text -/

/-- An integer has a text exactly if its digits are within the limit. -/
theorem exists_integerText_iff {n : Int} :
    (∃ s, integerText n = .ok s) ↔ (Decimal.digitsOf n.natAbs).length ≤ digitLimit := by
  rw [← Nat.not_lt]
  by_cases hlong : digitLimit < (Decimal.digitsOf n.natAbs).length <;> simp [integerText, hlong]

mutual

/-- Whether all doubles in a value are finite. -/
def Value.isStrict : Value → Bool
  | .float x => x.isFinite
  | .list items => Value.areStrict items
  | .object fields => Value.areStrictFields fields
  | .null | .bool _ | .int _ | .text _ => true

/-- Whether all doubles in some values are finite. -/
def Value.areStrict : List Value → Bool
  | [] => true
  | v :: rest => v.isStrict && Value.areStrict rest

/-- Whether all doubles in some fields are finite. -/
def Value.areStrictFields : List (String × Value) → Bool
  | [] => true
  | (_, v) :: rest => v.isStrict && Value.areStrictFields rest

end

mutual

/-- A value with a text can be written if its doubles can. -/
theorem Value.writes_of_quoted (style : Style) :
    ∀ (v : Value), v.isStrict = true → ∀ {s}, v.quoted = .ok s → Writes style v
  | .null, _, _, _ => .null
  | .bool b, _, _, _ => .bool b
  | .int n, _, _, h => .int h
  | .float x, hstrict, _, _ => .float hstrict
  | .text s, _, _, _ => .text s
  | .list items, hstrict, _, h => by
    obtain ⟨ss, hss, -⟩ := exists_of_bind_eq_ok h
    exact .list (Value.writes_of_quotedItems style items hstrict hss)
  | .object fields, hstrict, _, h => by
    obtain ⟨ss, hss, -⟩ := exists_of_bind_eq_ok h
    exact .object (Value.writes_of_quotedFields style fields hstrict hss)

theorem Value.writes_of_quotedItems (style : Style) :
    ∀ (items : List Value), Value.areStrict items = true → ∀ {ss}, quotedItems items = .ok ss →
      ∀ v ∈ items, Writes style v
  | [], _, _, _ => by simp
  | v :: rest, hstrict, _, h => by
    rw [Value.areStrict, Bool.and_eq_true] at hstrict
    obtain ⟨s, hs, h⟩ := exists_of_bind_eq_ok h
    obtain ⟨ss, hss, -⟩ := exists_of_bind_eq_ok h
    have hv := Value.writes_of_quoted style v hstrict.1 hs
    have hrest := Value.writes_of_quotedItems style rest hstrict.2 hss
    simpa using ⟨hv, hrest⟩

theorem Value.writes_of_quotedFields (style : Style) :
    ∀ (fields : List (String × Value)), Value.areStrictFields fields = true →
      ∀ {ss}, quotedFields fields = .ok ss → ∀ f ∈ fields, Writes style f.2
  | [], _, _, _ => by simp
  | (key, v) :: rest, hstrict, _, h => by
    rw [Value.areStrictFields, Bool.and_eq_true] at hstrict
    obtain ⟨s, hs, h⟩ := exists_of_bind_eq_ok h
    obtain ⟨ss, hss, -⟩ := exists_of_bind_eq_ok h
    have hv := Value.writes_of_quoted style v hstrict.1 hs
    have hrest := Value.writes_of_quotedFields style rest hstrict.2 hss
    intro f hf
    rcases List.mem_cons.1 hf with rfl | hf
    · exact hv
    · exact hrest f hf

end

/-- A double that can be written without a name is finite. -/
theorem Json.isFinite_of_writeFloat {style : Style} (hnames : style.names = false) {x : Float}
    {s : String} (h : writeFloat style x = .ok s) : x.isFinite = true := by
  rw [writeFloat, Exact.ofFloat] at h
  show x.toModel.unpack.isFinite = true
  cases hx : x.toModel.unpack with
  | notANumber => simp [hx, hnames] at h
  | infinity s => simp [hx, hnames] at h
  | zero s => rfl
  | finite s m e hm => rfl

mutual

/-- A value that can be written without names has finite doubles only. -/
theorem Value.isStrict_of_write {style : Style} (hnames : style.names = false) :
    ∀ (v : Value) {level : Nat} {s}, write style level v = .ok s → v.isStrict = true
  | .float x, _, _, h => isFinite_of_writeFloat hnames h
  | .list items, _, _, h => by
    obtain ⟨ss, hss, -⟩ := exists_of_bind_eq_ok h
    exact Value.areStrict_of_writeItems hnames items hss
  | .object fields, _, _, h => by
    obtain ⟨ss, hss, -⟩ := exists_of_bind_eq_ok h
    exact Value.areStrict_of_writeFields hnames fields hss
  | .null, _, _, _ | .bool _, _, _, _ | .int _, _, _, _ | .text _, _, _, _ => rfl

theorem Value.areStrict_of_writeItems {style : Style} (hnames : style.names = false) :
    ∀ (items : List Value) {level : Nat} {ss}, writeItems style level items = .ok ss →
      Value.areStrict items = true
  | [], _, _, _ => rfl
  | v :: rest, _, _, h => by
    obtain ⟨s, hs, h⟩ := exists_of_bind_eq_ok h
    obtain ⟨ss, hss, -⟩ := exists_of_bind_eq_ok h
    rw [Value.areStrict, Value.isStrict_of_write hnames v hs,
      Value.areStrict_of_writeItems hnames rest hss]
    rfl

theorem Value.areStrict_of_writeFields {style : Style} (hnames : style.names = false) :
    ∀ (fields : List (String × Value)) {level : Nat} {ss},
      writeFields style level fields = .ok ss → Value.areStrictFields fields = true
  | [], _, _, _ => rfl
  | (key, v) :: rest, _, _, h => by
    obtain ⟨s, hs, h⟩ := exists_of_bind_eq_ok h
    obtain ⟨ss, hss, -⟩ := exists_of_bind_eq_ok h
    rw [Value.areStrictFields, Value.isStrict_of_write hnames v hs,
      Value.areStrict_of_writeFields hnames rest hss]
    rfl

end

/-! ## Payloads -/

namespace Payload

variable {style : Style}

/-- A double is written as it is or spelled out. -/
theorem writes_ofFloat (x : Float) : Writes style (ofValue (.float x)) := by
  rw [ofValue]
  split
  · rename_i hfinite
    exact .float hfinite
  · exact .text _

/-- What has been logged can be written if its payload is strict. -/
theorem writes_ofValue {v : Value} (hstrict : (ofValue v).isStrict = true) {line : String}
    (hlogged : v.logged = .ok line) : Writes style (ofValue v) := by
  cases v with
  | float x => exact writes_ofFloat x
  | bool b => exact .bool b
  | text s => exact .text s
  | _ => exact Value.writes_of_quoted style _ hstrict hlogged

/-- A sprite can be written if what it says can. -/
theorem writes_ofSprite {s : Sprite} (h : Writes style (ofValue s.speech)) :
    Writes style (ofSprite s) := by
  apply Writes.object
  have htrail : Writes style (.list (s.trail.toList.map ofPoint)) := by
    apply Writes.list
    intro v hv
    obtain ⟨point, -, rfl⟩ := List.mem_map.1 hv
    apply Writes.object
    simp [writes_ofFloat]
  simp [writes_ofFloat, h, htrail]

/-- The result of a run can be written if its number can, and what the sprite says if it completed. -/
theorem writes_ofResult {r : RunResult}
    (hid : (Decimal.digitsOf r.runId.natAbs).length ≤ digitLimit)
    (h : ∀ sprite log, r.outcome = .completed sprite log → Writes style (ofValue sprite.speech)) :
    Writes style (ofResult r) := by
  obtain ⟨digits, hdigits⟩ := exists_integerText_iff.2 hid
  obtain ⟨runId, outcome⟩ := r
  cases outcome with
  | completed sprite log =>
    apply Writes.object
    simp [Writes.int hdigits, Writes.text, Writes.null, writes_ofSprite (h sprite log rfl)]
  | failed error =>
    apply Writes.object
    simp [Writes.int hdigits, Writes.text, Writes.null]

/-- A result that can be written has a number with a text. -/
theorem length_digitsOf_le_of_write {r : RunResult} {level : Nat} {s : String}
    (h : write style level (ofResult r) = .ok s) :
    (Decimal.digitsOf r.runId.natAbs).length ≤ digitLimit := by
  -- The number is the first field.
  obtain ⟨fields, hfields, -⟩ := exists_of_bind_eq_ok h
  obtain ⟨digits, hdigits, -⟩ := exists_of_bind_eq_ok hfields
  exact exists_integerText_iff.1 ⟨digits, eq_ok_of_mapError hdigits⟩

end Payload

end SpriteStage
