import Mathlib.Algebra.Order.BigOperators.Group.List
import Mathlib.Algebra.Order.Ring.Nat
import Mathlib.Data.List.Perm.Subperm
import SpriteStage.Proofs.Failure
import SpriteStage.Json.Printer

/-!
# The size of what is written

On one line a value is written in the same way at every level, and the text of an object is the texts of
its fields put together.  So an object with some of the fields of another one, in whatever order, has a
text that is no longer, and so has an object that is itself in a field of the other one.

## Main results

* `Json.exists_write_of_subperm` takes fields away
* `Json.exists_write_of_field` takes an object out of a field
-/

namespace SpriteStage.Json

variable {style : Style}

/-! ## Levels -/

theorem enclose_of_line (hline : style.indent = none) (level : ℕ) (left right : String)
    (parts : List String) : enclose style level left right parts = left ++ ", ".intercalate parts ++ right := by
  cases parts with
  | nil => simp [enclose]
  | cons part parts => simp [enclose, lineBreak, separator, hline]

mutual

/-- On one line a value is written in the same way at every level. -/
theorem write_level (hline : style.indent = none) (level : ℕ) :
    ∀ v : Value, write style level v = write style 0 v
  | .null | .bool _ | .int _ | .float _ | .text _ => rfl
  | .list items => by
    rw [write, write, writeItems_level hline (level + 1) items, writeItems_level hline (0 + 1) items]
    simp only [enclose_of_line hline]
  | .object fields => by
    rw [write, write, writeFields_level hline (level + 1) fields, writeFields_level hline (0 + 1) fields]
    simp only [enclose_of_line hline]

theorem writeItems_level (hline : style.indent = none) (level : ℕ) :
    ∀ items : List Value, writeItems style level items = writeItems style 0 items
  | [] => rfl
  | v :: rest => by
    rw [writeItems, writeItems, write_level hline level v, writeItems_level hline level rest]

theorem writeFields_level (hline : style.indent = none) (level : ℕ) :
    ∀ fields : List (String × Value), writeFields style level fields = writeFields style 0 fields
  | [] => rfl
  | (key, v) :: rest => by
    rw [writeFields, writeFields, write_level hline level v, writeFields_level hline level rest]

end

/-! ## Fields -/

/-- The text of a value that can be written. -/
def textOf (style : Style) (v : Value) : String := (write style 0 v).toOption.getD ""

/-- Fields can be written if all of them can; each is written as if it stood alone. -/
theorem writeFields_eq_ok_iff {fields : List (String × Value)} {texts : List (String × String)} :
    writeFields style 0 fields = .ok texts ↔
      (∀ f ∈ fields, write style 0 f.2 = .ok (textOf style f.2)) ∧
        texts = fields.map fun f => (f.1, textOf style f.2) := by
  induction fields generalizing texts with
  | nil => simp [writeFields, eq_comm]
  | cons f rest ih =>
    obtain ⟨key, v⟩ := f
    rw [writeFields, List.forall_mem_cons]
    constructor
    · intro h
      obtain ⟨head, hhead, h⟩ := exists_of_bind_eq_ok h
      obtain ⟨tail, htail, h⟩ := exists_of_bind_eq_ok h
      obtain ⟨hrest, rfl⟩ := ih.1 htail
      have htext : textOf style v = head := by rw [textOf, hhead]; rfl
      rw [← htext] at hhead h
      cases h
      exact ⟨⟨hhead, hrest⟩, rfl⟩
    · rintro ⟨⟨hhead, hrest⟩, rfl⟩
      rw [hhead, ih.2 ⟨hrest, rfl⟩]
      rfl

/-- How many bytes a field takes, with what divides it from the next one. -/
def fieldSize (style : Style) (f : String × Value) : ℕ :=
  (writeText style.ascii f.1 ++ ": " ++ textOf style f.2).utf8ByteSize + 2

/-- The number of bytes of parts that are divided by two bytes each. -/
theorem utf8ByteSize_intercalate {parts : List String} (hne : parts ≠ []) :
    (", ".intercalate parts).utf8ByteSize + 2 = (parts.map (·.utf8ByteSize + 2)).sum := by
  induction parts with
  | nil => exact absurd rfl hne
  | cons part parts ih =>
    cases parts with
    | nil => simp
    | cons next parts =>
      have hsize : (", " : String).utf8ByteSize = 2 := rfl
      have := ih (by simp)
      rw [String.intercalate_cons_cons, String.utf8ByteSize_append, String.utf8ByteSize_append, hsize,
        List.map_cons, List.sum_cons]
      omega

/-- On one line an object can be written if its fields can, and takes two bytes for the braces and what its
    fields take but for the last division. -/
theorem write_object_eq_ok_iff (hline : style.indent = none) (hsorted : style.sorted = false)
    {level : ℕ} {fields : List (String × Value)} {s : String} :
    write style level (.object fields) = .ok s ↔
      (∀ f ∈ fields, write style 0 f.2 = .ok (textOf style f.2)) ∧
        s = "\x7b" ++ ", ".intercalate
          (fields.map fun f => writeText style.ascii f.1 ++ ": " ++ textOf style f.2) ++ "\x7d" := by
  have harrange : ∀ texts : List (String × String), arrange style texts =
      texts.map fun f => writeText style.ascii f.1 ++ ": " ++ f.2 := by
    intro texts
    rw [arrange, hsorted]
    rfl
  rw [write_level hline, write, writeFields_level hline]
  constructor
  · intro h
    obtain ⟨texts, htexts, h⟩ := exists_of_bind_eq_ok h
    obtain ⟨hfields, rfl⟩ := writeFields_eq_ok_iff.1 htexts
    cases h
    rw [enclose_of_line hline, harrange, List.map_map]
    exact ⟨hfields, rfl⟩
  · rintro ⟨hfields, rfl⟩
    rw [writeFields_eq_ok_iff.2 ⟨hfields, rfl⟩]
    show Except.ok _ = _
    rw [enclose_of_line hline, harrange, List.map_map]
    rfl

theorem utf8ByteSize_object {fields : List (String × Value)} (hne : fields ≠ []) :
    ("\x7b" ++ ", ".intercalate
      (fields.map fun f => writeText style.ascii f.1 ++ ": " ++ textOf style f.2) ++ "\x7d").utf8ByteSize =
      (fields.map (fieldSize style)).sum := by
  have hopen : ("\x7b" : String).utf8ByteSize = 1 := rfl
  have hclose : ("\x7d" : String).utf8ByteSize = 1 := rfl
  have hmap : fields.map (fun f => writeText style.ascii f.1 ++ ": " ++ textOf style f.2) ≠ [] := by
    simpa using hne
  have hparts := utf8ByteSize_intercalate hmap
  rw [List.map_map] at hparts
  rw [String.utf8ByteSize_append, String.utf8ByteSize_append, hopen, hclose]
  refine Eq.trans ?_ hparts
  omega

/-- **With fewer fields an object takes no more bytes**, in whatever order they are. -/
theorem exists_write_of_subperm (hline : style.indent = none) (hsorted : style.sorted = false)
    {fields kept : List (String × Value)} (hkept : kept.Subperm fields) {level : ℕ} {s : String}
    (h : write style level (.object fields) = .ok s) (level' : ℕ) :
    ∃ t, write style level' (.object kept) = .ok t ∧ t.utf8ByteSize ≤ s.utf8ByteSize := by
  obtain ⟨hfields, rfl⟩ := (write_object_eq_ok_iff hline hsorted).1 h
  refine ⟨_, (write_object_eq_ok_iff hline hsorted).2
    ⟨fun f hf => hfields f (hkept.subset hf), rfl⟩, ?_⟩
  by_cases hkeptNil : kept = []
  · -- What is left are the braces.
    subst hkeptNil
    rw [String.utf8ByteSize_append, String.utf8ByteSize_append, String.utf8ByteSize_append,
      String.utf8ByteSize_append]
    simp
  · have hne : fields ≠ [] := by
      rintro rfl
      exact hkeptNil (List.subperm_nil.1 hkept)
    rw [utf8ByteSize_object hkeptNil, utf8ByteSize_object hne]
    obtain ⟨l, hperm, hsub⟩ := hkept
    rw [← (hperm.map (fieldSize style)).sum_eq]
    exact (hsub.map _).sum_le_sum fun _ _ => Nat.zero_le _

/-- **An object in a field of another one takes no more bytes** than that one. -/
theorem exists_write_of_field (hline : style.indent = none) (hsorted : style.sorted = false)
    {fields inner : List (String × Value)} {key : String} (hmem : (key, .object inner) ∈ fields)
    {level : ℕ} {s : String} (h : write style level (.object fields) = .ok s) (level' : ℕ) :
    ∃ t, write style level' (.object inner) = .ok t ∧ t.utf8ByteSize ≤ s.utf8ByteSize := by
  obtain ⟨hfields, rfl⟩ := (write_object_eq_ok_iff hline hsorted).1 h
  refine ⟨_, (write_level hline level' _).trans (hfields _ hmem), ?_⟩
  rw [utf8ByteSize_object (List.ne_nil_of_mem hmem)]
  refine le_trans ?_ (List.single_le_sum (by simp) _ (List.mem_map_of_mem hmem))
  rw [fieldSize, String.utf8ByteSize_append]
  omega

end SpriteStage.Json
