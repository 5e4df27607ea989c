import SpriteStage.Text.Blank
import SpriteStage.Text.Identifier
import SpriteStage.Text.Printable
import Mathlib.Data.List.TakeWhile
import Mathlib.Data.Nat.Notation

/-!
# Facts about blanks

## Main results

* `Text.isBlank_eq_false_of_isIdentifierStart` says that words do not start with a blank
* `Text.stripList_cons` says where blanks are stripped
-/

namespace SpriteStage.Text

/-! ## Blanks -/

variable {c : Char}

theorem isBlank_iff : isBlank c = true ↔ (9 ≤ c.toNat ∧ c.toNat ≤ 13) ∨ (28 ≤ c.toNat ∧ c.toNat ≤ 32) ∨
    c.toNat = 0x85 ∨ c.toNat = 0xA0 ∨ c.toNat = 0x1680 ∨ (0x2000 ≤ c.toNat ∧ c.toNat ≤ 0x200A) ∨
    c.toNat = 0x2028 ∨ c.toNat = 0x2029 ∨ c.toNat = 0x202F ∨ c.toNat = 0x205F ∨ c.toNat = 0x3000 := by
  simp only [isBlank, Bool.or_eq_true, Bool.and_eq_true, decide_eq_true_eq, beq_iff_eq, or_assoc]

/-- Blanks are no letters. -/
theorem toLower_of_isBlank (h : isBlank c = true) : c.toLower = c := by
  refine dif_neg ?_
  rintro ⟨hA, hZ⟩
  have hA : 65 ≤ c.toNat := UInt32.le_iff_toNat_le.1 hA
  have hZ : c.toNat ≤ 90 := UInt32.le_iff_toNat_le.1 hZ
  rw [isBlank_iff] at h
  omega

/-- The blanks beyond ASCII. -/
def wideBlanks : List ℕ :=
  [0x85, 0xA0, 0x1680, 0x2000, 0x2001, 0x2002, 0x2003, 0x2004, 0x2005, 0x2006, 0x2007, 0x2008, 0x2009,
    0x200A, 0x2028, 0x2029, 0x202F, 0x205F, 0x3000]

theorem mem_wideBlanks (h : isBlank c = true) (hc : 0x80 ≤ c.toNat) : c.toNat ∈ wideBlanks := by
  rw [isBlank_iff] at h
  simp only [wideBlanks, List.mem_cons, List.not_mem_nil]
  omega

/-- **Identifiers** do not start with a blank. -/
theorem isBlank_eq_false_of_isIdentifierStart (h : isIdentifierStart c = true) : isBlank c = false := by
  have hwide : ∀ n ∈ wideBlanks, ∀ r ∈ identifierStarts, ¬ (r.1 ≤ n ∧ n ≤ r.2) := by decide +kernel
  rw [← Bool.not_eq_true]
  intro hblank
  rw [isIdentifierStart] at h
  split at h
  · simp only [isAsciiStart, Bool.or_eq_true, Bool.and_eq_true, decide_eq_true_eq, beq_iff_eq] at h
    rw [isBlank_iff] at hblank
    rcases h with (⟨ha, -⟩ | ⟨hA, -⟩) | rfl
    · have ha : 97 ≤ c.toNat := UInt32.le_iff_toNat_le.1 ha
      omega
    · have hA : 65 ≤ c.toNat := UInt32.le_iff_toNat_le.1 hA
      omega
    · revert hblank
      decide
  · obtain ⟨r, hr, hin⟩ := (inRanges_iff _ _).1 h
    exact hwide _ (mem_wideBlanks hblank (by omega)) r hr hin

/-- Of the printable characters of ASCII only the space is blank. -/
theorem isBlank_eq_false_of_isPrintable (hc : c ≠ ' ') (hascii : c.toNat < 0x80)
    (h : isPrintable c = true) : isBlank c = false := by
  rw [isPrintable, if_pos hascii, Bool.and_eq_true, decide_eq_true_eq, decide_eq_true_eq] at h
  have hspace : c.toNat ≠ 32 := fun h => hc (Char.toNat_inj.1 h)
  rw [← Bool.not_eq_true, isBlank_iff]
  omega

/-! ## Stripping -/

/-- Where no blank comes first, blanks are stripped at the end only. -/
theorem stripList_cons (hc : isBlank c = false) (cs : List Char) :
    stripList (c :: cs) = ((c :: cs).reverse.dropWhile isBlank).reverse := by
  rw [stripList, List.dropWhile_cons_of_neg (by simp [hc])]

/-- Nothing but blanks is stripped. -/
theorem stripList_ne_nil (hc : isBlank c = false) (cs : List Char) : stripList (c :: cs) ≠ [] := by
  rw [stripList_cons hc, Ne, List.reverse_eq_nil_iff, List.dropWhile_eq_nil_iff]
  intro hblank
  have := hblank c (List.mem_reverse.2 List.mem_cons_self)
  rw [hc] at this
  cases this

theorem prefix_stripList (hc : isBlank c = false) (cs : List Char) : stripList (c :: cs) <+: c :: cs := by
  have hsuffix := List.reverse_prefix.2 (List.dropWhile_suffix (l := (c :: cs).reverse) isBlank)
  rwa [List.reverse_reverse, ← stripList_cons hc] at hsuffix

end SpriteStage.Text
