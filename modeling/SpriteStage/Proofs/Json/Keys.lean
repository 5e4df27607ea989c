import SpriteStage.Proofs.Failure
import SpriteStage.Proofs.Json.Payload

/-!
# Keys of what is read

The reader keeps one field for each key, so whatever it reads has only objects with different keys.  The
fields that a request brings are of that kind, hence also what its instructions say and what a sprite of a
playground that is reached says.

## Main definitions

* `Json.HoldsOfRead` says what a property has to be like to hold of all that is read

## Main results

* `Json.isKeyed_of_read`
-/

namespace SpriteStage

/-! ## Fields that are looked up -/

namespace Value

theorem field?_cons (key name : String) (v : Value) (rest : List (String × Value)) :
    field? name ((key, v) :: rest) = if key = name then some v else field? name rest := by
  by_cases hkey : key = name
  · simp [field?, hkey]
  · simp [field?, hkey]

theorem mem_of_field? {key : String} {v : Value} {fields : List (String × Value)}
    (h : field? key fields = some v) : (key, v) ∈ fields := by
  obtain ⟨f, hf, rfl⟩ := Option.map_eq_some_iff.1 h
  have hkey : f.1 = key := by simpa using List.find?_some hf
  rw [← hkey]
  exact List.mem_of_find?_eq_some hf

/-! ## Fields that are set -/

variable {key : String} {v : Value} {fields : List (String × Value)}

theorem mem_map_fst_setField {k : String} (h : k ∈ (setField key v fields).map (·.1)) :
    k = key ∨ k ∈ fields.map (·.1) := by
  induction fields with
  | nil => exact .inl (List.mem_singleton.1 h)
  | cons f rest ih =>
    rw [setField] at h
    split at h
    · exact .inr h
    · rcases List.mem_cons.1 h with rfl | h
      · exact .inr List.mem_cons_self
      · exact (ih h).imp_right (List.mem_cons_of_mem _)

theorem nodup_setField (h : (fields.map (·.1)).Nodup) : ((setField key v fields).map (·.1)).Nodup := by
  induction fields with
  | nil => exact List.nodup_singleton key
  | cons f rest ih =>
    rw [List.map_cons, List.nodup_cons] at h
    rw [setField]
    split
    · exact List.nodup_cons.2 h
    · rename_i hne
      refine List.nodup_cons.2 ⟨fun hmem => ?_, ih h.2⟩
      exact (mem_map_fst_setField hmem).elim hne h.1

theorem areKeyed_setField (hv : v.isKeyed = true) (h : areKeyedFields fields = true) :
    areKeyedFields (setField key v fields) = true := by
  induction fields with
  | nil => simp [setField, areKeyedFields, hv]
  | cons f rest ih =>
    obtain ⟨k, w⟩ := f
    rw [areKeyedFields, Bool.and_eq_true] at h
    rw [setField]
    split
    · simp [areKeyedFields, hv, h.2]
    · simp [areKeyedFields, h.1, ih h.2]

/-- Setting a field keeps the keys of an object different. -/
theorem isKeyed_setField (hv : v.isKeyed = true) (h : (object fields).isKeyed = true) :
    (object (setField key v fields)).isKeyed = true := by
  rw [isKeyed, Bool.and_eq_true, decide_eq_true_eq] at h ⊢
  exact ⟨nodup_setField h.1, areKeyed_setField hv h.2⟩

end Value

namespace Json

/-! ## Scalars -/

theorem isKeyed_of_readNumber {cs rest : List Char} {v : Value} (h : readNumber cs = .ok (v, rest)) :
    v.isKeyed = true := by
  unfold readNumber at h
  extract_lets negative digits whole rest at h
  split at h
  · cases h
  · -- The digits after the point are cut off first.
    split at h
    split at h
    · split at h
      · cases h
      · cases h
        rfl
    · cases h
      rfl

theorem isKeyed_of_readScalar {cs rest : List Char} {v : Value} (h : readScalar cs = .ok (v, rest)) :
    v.isKeyed = true := by
  rw [readScalar] at h
  split at h
  · rename_i name w hfind
    cases h
    have hnames : ∀ n ∈ names, n.2.isKeyed = true := by simp [names, Value.isKeyed]
    exact hnames _ (List.mem_of_find?_eq_some hfind)
  · exact isKeyed_of_readNumber h

/-! ## Values -/

/-- A property that all values have that are read: scalars have it, and so do lists and objects that are put
    together from values with it. -/
structure HoldsOfRead (P : Value → Prop) : Prop where
  text : ∀ s, P (.text s)
  scalar : ∀ {cs rest v}, readScalar cs = .ok (v, rest) → P v
  list : ∀ {items}, (∀ v ∈ items, P v) → P (.list items)
  empty : P (.object [])
  field : ∀ {key v fields}, P v → P (.object fields) → P (.object (Value.setField key v fields))

namespace HoldsOfRead

variable {P : Value → Prop}

mutual

theorem readValue (h : HoldsOfRead P) : ∀ (fuel : ℕ) {cs rest : List Char} {v : Value},
    Json.readValue fuel cs = .ok (v, rest) → P v
  | 0, _, _, _, hread => by cases hread
  | fuel + 1, cs, _, _, hread => by
    rw [readValue.eq_def] at hread
    dsimp only at hread
    split at hread
    · obtain ⟨⟨s, rest⟩, -, hread⟩ := exists_of_bind_eq_ok hread
      cases hread
      exact h.text s
    · split at hread
      · cases hread
        exact h.list (by simp)
      · obtain ⟨⟨items, rest⟩, hitems, hread⟩ := exists_of_bind_eq_ok hread
        cases hread
        exact h.list (h.readItems fuel hitems)
    · split at hread
      · cases hread
        exact h.empty
      · obtain ⟨⟨fields, rest⟩, hfields, hread⟩ := exists_of_bind_eq_ok hread
        cases hread
        exact h.readFields fuel h.empty hfields
    · exact h.scalar hread

theorem readItems (h : HoldsOfRead P) : ∀ (fuel : ℕ) {cs rest : List Char} {items : List Value},
    Json.readItems fuel cs = .ok (items, rest) → ∀ v ∈ items, P v
  | 0, _, _, _, hread => by cases hread
  | fuel + 1, cs, _, _, hread => by
    rw [readItems.eq_def] at hread
    obtain ⟨⟨v, rest⟩, hv, hread⟩ := exists_of_bind_eq_ok hread
    have hfirst := h.readValue fuel hv
    dsimp only at hread
    split at hread
    · cases hread
      simpa using hfirst
    · obtain ⟨⟨more, rest⟩, hmore, hread⟩ := exists_of_bind_eq_ok hread
      cases hread
      exact List.forall_mem_cons.2 ⟨hfirst, h.readItems fuel hmore⟩
    · cases hread

theorem readFields (h : HoldsOfRead P) : ∀ (fuel : ℕ) {before fields : List (String × Value)}
    {cs rest : List Char}, P (.object before) →
      Json.readFields fuel before cs = .ok (fields, rest) → P (.object fields)
  | 0, _, _, _, _, _, hread => by cases hread
  | fuel + 1, before, _, cs, _, hbefore, hread => by
    rw [readFields.eq_def] at hread
    dsimp only at hread
    split at hread
    · obtain ⟨⟨key, rest⟩, -, hread⟩ := exists_of_bind_eq_ok hread
      dsimp only at hread
      split at hread
      · obtain ⟨⟨v, rest⟩, hv, hread⟩ := exists_of_bind_eq_ok hread
        have hset : P (.object (Value.setField key v before)) :=
          h.field (h.readValue fuel hv) hbefore
        dsimp only at hread
        split at hread
        · cases hread
          exact hset
        · exact h.readFields fuel hset hread
        · cases hread
      · cases hread
    · cases hread

end

/-- **A whole text is read** to a value that has the property. -/
theorem read (h : HoldsOfRead P) {s : String} {v : Value} (hread : Json.read s = .ok v) : P v := by
  have hlist := eq_ok_of_mapError hread
  rw [readList.eq_def] at hlist
  split at hlist
  · cases hlist
  · obtain ⟨⟨w, rest⟩, hw, hlist⟩ := exists_of_bind_eq_ok hlist
    dsimp only at hlist
    split at hlist
    · cases hlist
      exact h.readValue _ hw
    · cases hlist

end HoldsOfRead

/-- **What is read is keyed**: of two fields with one key only one is kept. -/
theorem isKeyed_of_read {s : String} {v : Value} (h : read s = .ok v) : v.isKeyed = true := by
  have hkeyed : HoldsOfRead (·.isKeyed = true) :=
    { text := fun _ => rfl
      scalar := isKeyed_of_readScalar
      list := fun {items} => (Value.areKeyed_iff items).2
      empty := rfl
      field := Value.isKeyed_setField }
  exact hkeyed.read h

end Json

end SpriteStage
