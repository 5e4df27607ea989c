import SpriteStage.Proofs.Json.Writing
import SpriteStage.Proofs.Program.Compiled
import SpriteStage.Proofs.Program.RoundTrip
import SpriteStage.Proofs.Run.Invariant

/-!
# Listings of compiled programs

A compiled program is in normal form, since a script has no groups and counts its rounds by naturals.  It
has a listing if the integers in it have texts, and the listing compiles to the program itself.

## Main definitions

* `Program.IntegersFit` says that the integers that operations are called on have texts

## Main results

* `exists_relisting`
-/

namespace SpriteStage

open Script (Expr)

/-- The integers that the operations of a program are called on have texts. -/
def Program.IntegersFit (p : Program) : Prop :=
  ∀ op n, (op, Value.int n) ∈ Program.calls p → (Decimal.digitsOf n.natAbs).length ≤ digitLimit

/-! ## Rounds of compiled loops -/

/-- A number in the range of lengths has few digits. -/
theorem length_digitsOf_of_lt {n : ℕ} (h : n < 2 ^ 63) :
    (Decimal.digitsOf n).length ≤ digitLimit := by
  have hlength : (Decimal.digitsOf n).length ≤ 19 :=
    (Nat.length_toDigits_le_iff (by decide) (by decide)).2 (h.trans_le (by decide))
  exact hlength.trans (by decide)

theorem rangeOf_lt {span : Script.Span} {bounds : List Value} {n : ℕ}
    (h : rangeOf span bounds = .ok n) : n < 2 ^ 63 := by
  have hlength : ∀ {k : ℕ}, (if (k : Int) ≤ Int64.maxValue.toInt then .ok k
      else .error (.operation .lengthRange) : Refusable ℕ) = .ok n → n < 2 ^ 63 := by
    intro k hk
    split at hk
    · rename_i hle
      cases hk
      have hmax : Int64.maxValue.toInt = 2 ^ 63 - 1 := by decide
      omega
    · cases hk
  unfold rangeOf at h
  simp only at h
  split at h
  · exact hlength h
  · exact hlength h
  · split at h
    · cases h
    · exact hlength h
  · cases h

/-- A loop over a range goes fewer rounds than there are lengths. -/
theorem rounds_lt {scope : List String} {range : Expr} {n : ℕ} (h : rounds scope range = .ok n) :
    n < 2 ^ 63 := by
  unfold rounds at h
  split at h
  · split at h
    · cases h
    split at h
    · cases h
    obtain ⟨bounds, -, h⟩ := exists_of_bind_eq_ok h
    exact rangeOf_lt h
  · cases h

theorem Program.mem_loopCounts {p : Program} {times : Value} :
    times ∈ Program.loopCounts p ↔ ∃ i ∈ p, times ∈ i.loopCounts := by
  induction p with
  | nil => simp [loopCounts]
  | cons i p ih => simp [loopCounts, ih]

/-- The loops of a compiled program go as many rounds as a range may have. -/
theorem roundsFit_of_compile {handle text : String} {p : Program}
    (h : (compile handle text).1 = .ok p) : RoundsFit (Program.loopCounts p) := by
  have hcounts : ∀ i ∈ p, RoundsFit i.loopCounts := by
    refine forall_of_compile ⟨?_, ?_, ?_⟩ h
    · intro scope span e i _ hi
      obtain ⟨op, argument, v, -, -, rfl⟩ := exists_expressionInstruction hi
      exact fun times hmem => by cases hmem
    · intro scope span exception i hi
      obtain ⟨message, rfl⟩ := exists_failInstruction hi
      exact fun times hmem => by cases hmem
    · intro scope range n body hn hbody times hmem k hk
      rcases List.mem_cons.1 hmem with rfl | hmem
      · rw [repeatCount_natCast] at hk
        cases hk
        exact rounds_lt hn
      · obtain ⟨i, hi, htimes⟩ := Program.mem_loopCounts.1 hmem
        exact hbody i hi times htimes k hk
  intro times hmem
  obtain ⟨i, hi, htimes⟩ := Program.mem_loopCounts.1 hmem
  exact hcounts i hi times htimes

/-! ## Compiled programs and their listings -/

mutual

theorem Instruction.normalise_of_isCompiled :
    ∀ i : Instruction, i.isCompiled = true → i.normalise = [i]
  | .call op argument, _ => rfl
  | .loop (.int n) body, h => by
    rw [Instruction.isCompiled, Bool.and_eq_true, decide_eq_true_eq] at h
    obtain ⟨k, rfl⟩ := Int.eq_ofNat_of_zero_le h.1
    rw [Instruction.normalise, Program.normalise_of_isCompiled body h.2, Value.rounds,
      repeatCount_natCast]
  | .fail message, _ => rfl

/-- A compiled program is in normal form. -/
theorem Program.normalise_of_isCompiled :
    ∀ p : List Instruction, Program.isCompiled p = true → Program.normalise p = p
  | [], _ => rfl
  | i :: rest, h => by
    rw [Program.isCompiled, Bool.and_eq_true] at h
    rw [Program.normalise, Instruction.normalise_of_isCompiled i h.1,
      Program.normalise_of_isCompiled rest h.2, List.singleton_append]

end

/-- Scalars are constants of program texts, if they have texts. -/
theorem Listing.exists_constant_of_isScalar {v : Value} (h : v.isScalar = true)
    (hfit : ∀ n, v = .int n → (Decimal.digitsOf n.natAbs).length ≤ digitLimit) :
    ∃ s, constant v = .ok s := by
  cases v with
  | bool b => exact ⟨_, rfl⟩
  | text t => exact ⟨_, rfl⟩
  | int n =>
    obtain ⟨s, hs⟩ := exists_integerText_iff.2 (hfit n rfl)
    exact ⟨s, by rw [constant, Value.quoted, hs]; rfl⟩
  | float x =>
    rw [constant]
    cases Exact.ofFloat x <;> exact ⟨_, rfl⟩
  | null => cases h
  | list items => cases h
  | object fields => cases h

mutual

/-- The instructions of a compiled program have lines. -/
theorem Listing.exists_lines (handle : String) :
    ∀ (i : Instruction) (level : ℕ), i.isCompiled = true → Program.IntegersFit [i] →
      RoundsFit i.loopCounts → ∃ ls, lines handle level i = .ok ls
  | .call op v, level, h, hfit, _ => by
    obtain ⟨s, hs⟩ := exists_constant_of_isScalar h fun n hn =>
      hfit op n (by simp [Program.calls, Instruction.calls, hn])
    exact ⟨_, by rw [lines, hs]; rfl⟩
  | .loop (.int n) body, level, h, hfit, hcounts => by
    rw [Instruction.isCompiled, Bool.and_eq_true, decide_eq_true_eq] at h
    obtain ⟨k, rfl⟩ := Int.eq_ofNat_of_zero_le h.1
    have hk := hcounts (.int k) List.mem_cons_self k (repeatCount_natCast k)
    obtain ⟨count, hcount⟩ := exists_integerText_iff.2
      (show (Decimal.digitsOf (k : ℤ).natAbs).length ≤ digitLimit from length_digitsOf_of_lt hk)
    obtain ⟨bs, hbs⟩ := Listing.exists_bodyLines handle body (level + 1) h.2
      (fun op m hmem => hfit op m (by simpa [Program.calls, Instruction.calls] using hmem))
      (fun times hmem => hcounts times (List.mem_cons_of_mem _ hmem))
    rw [lines, repeatCount_natCast, hbs]
    simp only [Except.mapError, bind, Except.bind, hcount]
    exact ⟨_, rfl⟩
  | .fail message, _, _, _, _ => ⟨_, rfl⟩

theorem Listing.exists_bodyLines (handle : String) :
    ∀ (p : List Instruction) (level : ℕ), Program.isCompiled p = true → Program.IntegersFit p →
      RoundsFit (Program.loopCounts p) → ∃ ls, bodyLines handle level p = .ok ls
  | [], _, _, _, _ => ⟨_, rfl⟩
  | i :: rest, level, h, hfit, hcounts => by
    rw [Program.isCompiled, Bool.and_eq_true] at h
    obtain ⟨ls, hls⟩ := Listing.exists_lines handle i level h.1
      (fun op n hmem => hfit op n (by simp_all [Program.calls]))
      (fun times hmem => hcounts times (List.mem_append_left _ hmem))
    obtain ⟨ms, hms⟩ := Listing.exists_bodyLines handle rest level h.2
      (fun op n hmem => hfit op n (List.mem_append_right _ hmem))
      (fun times hmem => hcounts times (List.mem_append_right _ hmem))
    exact ⟨ls ++ ms, by rw [bodyLines, hls, hms]; rfl⟩

end

/-- **A compiled program has a listing**, if its integers have texts; and the listing compiles to the
    program, if its loops are not nested too deep. -/
theorem exists_relisting {handle text : String} {p : Program}
    (hname : Text.isIdentifier handle.toList = true) (hnormal : Text.IsNormal handle.toList)
    (hkeyword : Script.isKeyword handle.toList = false)
    (hcompiled : (compile handle text).1 = .ok p) (hfit : Program.IntegersFit p) :
    ∃ listing, Listing.ofProgram handle p = .ok listing ∧
      (Program.loopDepth p < Script.levelLimit → (compile handle listing).1 = .ok p) := by
  have hp := isCompiled_of_compile hcompiled
  have hcounts := roundsFit_of_compile hcompiled
  obtain ⟨ls, hls⟩ := Listing.exists_bodyLines handle p 0 hp hfit hcounts
  have hlisting : Listing.ofProgram handle p = .ok (String.join (ls.map (· ++ "\n"))) := by
    rw [Listing.ofProgram, hls]
    rfl
  refine ⟨_, hlisting, fun hdepth => ?_⟩
  obtain ⟨xs, htranscript⟩ := Listing.exists_transcript_ofProgram hdepth hcounts hlisting
  have hcompiles := htranscript.compile hname hnormal hkeyword
  rwa [Program.normalise_of_isCompiled p hp] at hcompiles

end SpriteStage
