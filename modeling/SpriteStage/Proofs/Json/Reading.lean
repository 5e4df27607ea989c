import SpriteStage.Proofs.Json.Numeral
import SpriteStage.Proofs.Json.Text

/-!
# Reading what has been written

A value that is written in any style is read back, if no object in it has two fields of one key: of such
fields the reader would keep only one.  A style that sorts the fields of objects gives them back in that
order.

Written values are put together from parts that the reader takes one by one.  What a part must satisfy is
`Json.ReadsAs`: it is read as its value whatever ends the value after it.  This is shown for scalars first,
then for lists and objects of parts, and last for everything that the printer writes.

## Main definitions

* `Value.isKeyed` tells whether all fields of an object have different keys, throughout a value
* `Value.arranged` puts the fields of objects in the order of their keys
* `Json.ReadsAs` says which value characters are read as

## Main results

* `Json.read_print` reads back what has been printed; `Json.read_print_unsorted` is the case of a style
  that does not sort fields
-/

namespace SpriteStage

/-! ## Keys -/

mutual

/-- Whether no object in a value has two fields of one key. -/
def Value.isKeyed : Value → Bool
  | .list items => Value.areKeyed items
  | .object fields => decide (fields.map (·.1)).Nodup && Value.areKeyedFields fields
  | .null | .bool _ | .int _ | .float _ | .text _ => true

/-- Whether no object in some values has two fields of one key. -/
def Value.areKeyed : List Value → Bool
  | [] => true
  | v :: rest => v.isKeyed && Value.areKeyed rest

/-- Whether no object in the values of some fields has two fields of one key. -/
def Value.areKeyedFields : List (String × Value) → Bool
  | [] => true
  | (_, v) :: rest => v.isKeyed && Value.areKeyedFields rest

end

/-- Fields in the order of their keys, if they are to be sorted. -/
def Value.sortFields {α : Type} (sorted : Bool) (fields : List (String × α)) : List (String × α) :=
  if sorted then fields.mergeSort (fun f g => f.1 ≤ g.1) else fields

mutual

/-- A value with the fields of its objects in the order of their keys, if they are to be sorted. -/
def Value.arranged (sorted : Bool) : Value → Value
  | .list items => .list (Value.arrangedItems sorted items)
  | .object fields => .object (Value.sortFields sorted (Value.arrangedFields sorted fields))
  | .null => .null
  | .bool b => .bool b
  | .int n => .int n
  | .float x => .float x
  | .text s => .text s

/-- Values with the fields of their objects in order. -/
def Value.arrangedItems (sorted : Bool) : List Value → List Value
  | [] => []
  | v :: rest => v.arranged sorted :: Value.arrangedItems sorted rest

/-- Fields with the fields of the objects in their values in order. -/
def Value.arrangedFields (sorted : Bool) : List (String × Value) → List (String × Value)
  | [] => []
  | (key, v) :: rest => (key, v.arranged sorted) :: Value.arrangedFields sorted rest

end

namespace Value

mutual

/-- A value whose fields are not sorted stays as it is. -/
theorem arranged_false : ∀ v : Value, v.arranged false = v
  | .list items => congrArg Value.list (arrangedItems_false items)
  | .object fields => congrArg Value.object (arrangedFields_false fields)
  | .null | .bool _ | .int _ | .float _ | .text _ => rfl

theorem arrangedItems_false : ∀ items : List Value, arrangedItems false items = items
  | [] => rfl
  | v :: rest => congrArg₂ List.cons (arranged_false v) (arrangedItems_false rest)

theorem arrangedFields_false : ∀ fields : List (String × Value), arrangedFields false fields = fields
  | [] => rfl
  | (key, v) :: rest =>
    congrArg₂ List.cons (congrArg (Prod.mk key) (arranged_false v)) (arrangedFields_false rest)

end

/-- Arranging the values of fields keeps the keys. -/
theorem map_fst_arrangedFields (sorted : Bool) (fields : List (String × Value)) :
    (arrangedFields sorted fields).map (·.1) = fields.map (·.1) := by
  induction fields with
  | nil => rfl
  | cons f rest ih =>
    obtain ⟨key, v⟩ := f
    simp [arrangedFields, ih]

theorem sortFields_perm {α : Type} (sorted : Bool) (fields : List (String × α)) :
    (sortFields sorted fields).Perm fields := by
  rw [sortFields]
  split
  · exact List.mergeSort_perm _ _
  · exact .refl _

/-- The field of a new key stands last. -/
theorem setField_of_notMem {key : String} {v : Value} {fields : List (String × Value)}
    (h : key ∉ fields.map (·.1)) : setField key v fields = fields ++ [(key, v)] := by
  induction fields with
  | nil => rfl
  | cons f rest ih =>
    obtain ⟨k, w⟩ := f
    rw [List.map_cons, List.mem_cons, not_or] at h
    rw [setField, if_neg (Ne.symm h.1), ih h.2, List.cons_append]

end Value

namespace Json

/-! ## Space -/

/-- Characters that the reader passes over. -/
def IsGap (gap : List Char) : Prop := ∀ c ∈ gap, isSpace c = true

theorem skipSpace_append {gap : List Char} (hgap : IsGap gap) {c : Char} (hc : isSpace c = false)
    (cs : List Char) : skipSpace (gap ++ c :: cs) = c :: cs := by
  rw [skipSpace, List.dropWhile_append_of_pos hgap, List.dropWhile_cons_of_neg (by simp [hc])]

theorem skipSpace_cons {c : Char} (hc : isSpace c = false) (cs : List Char) :
    skipSpace (c :: cs) = c :: cs :=
  skipSpace_append (fun _ h => absurd h List.not_mem_nil) hc cs

/-- What closes or separates after a gap ends a value. -/
theorem endsValue_append {gap : List Char} (hgap : IsGap gap) {c : Char}
    (hc : c = ',' ∨ c = ']' ∨ c = '\x7d') (cs : List Char) : EndsValue (gap ++ c :: cs) := by
  intro d hd
  cases gap with
  | nil =>
    obtain rfl := Option.some.inj hd
    exact .inr hc
  | cons b gap =>
    obtain rfl := Option.some.inj hd
    exact .inl (hgap _ List.mem_cons_self)

theorem endsValue_cons {c : Char} (hc : c = ',' ∨ c = ']' ∨ c = '\x7d') (cs : List Char) :
    EndsValue (c :: cs) :=
  endsValue_append (fun _ h => absurd h List.not_mem_nil) hc cs

/-! ## Parts -/

/-- A character that may start a value: it is no space and closes no list, nor is it a mark before the
    text. -/
def StartsValue (c : Char) : Prop := isSpace c = false ∧ c ≠ ']' ∧ c ≠ '\uFEFF'

/-- Characters that are read as a value, whatever ends the value after them. -/
structure ReadsAs (cs : List Char) (v : Value) : Prop where
  opens : ∃ c tail, cs = c :: tail ∧ StartsValue c
  reads : ∀ {fuel : ℕ} {rest : List Char}, cs.length ≤ fuel → EndsValue rest →
    readValue fuel (cs ++ rest) = .ok (v, rest)

/-- Characters that are read as a field. -/
def ReadsAsField (cs : List Char) (f : String × Value) : Prop :=
  ∃ ascii ts, cs = (writeText ascii f.1).toList ++ (':' :: ' ' :: ts) ∧ ReadsAs ts f.2

/-- Names and numbers start with a letter, a digit or a sign. -/
theorem readsAs_scalar {cs : List Char} {v : Value}
    (hopens : ∃ c tail, cs = c :: tail ∧ (c.isAlphanum = true ∨ c = '-'))
    (hreads : ∀ rest, EndsValue rest → readScalar (cs ++ rest) = .ok (v, rest)) : ReadsAs cs v := by
  obtain ⟨c, tail, rfl, hc⟩ := hopens
  -- The first character opens neither a text nor a list nor an object.
  have hne : ∀ d : Char, d.isAlphanum = false → d ≠ '-' → c ≠ d := by
    rintro d halpha hsign rfl
    rcases hc with hc | hc
    · rw [halpha] at hc
      cases hc
    · exact hsign hc
  refine ⟨⟨c, tail, rfl, ?_, hne _ (by decide) (by decide), hne _ (by decide) (by decide)⟩, ?_⟩
  · simp [isSpace, hne ' ' (by decide) (by decide), hne '\t' (by decide) (by decide),
      hne '\n' (by decide) (by decide), hne '\r' (by decide) (by decide)]
  · intro fuel rest hfuel hrest
    cases fuel with
    | zero => exact absurd hfuel (Nat.not_succ_le_zero _)
    | succ fuel =>
      rw [List.cons_append, readValue]
      · exact hreads rest hrest
      · rintro t ⟨⟩
        exact hne _ (by decide) (by decide) rfl
      · rintro t ⟨⟩
        exact hne _ (by decide) (by decide) rfl
      · rintro t ⟨⟩
        exact hne _ (by decide) (by decide) rfl

/-- A text between quotes is read as the text. -/
theorem readsAs_text (ascii : Bool) (s : String) :
    ReadsAs (writeText ascii s).toList (.text s) := by
  rw [toList_writeText]
  refine ⟨⟨'"', _, rfl, by simp [StartsValue, isSpace]⟩, ?_⟩
  intro fuel rest hfuel _
  cases fuel with
  | zero => exact absurd hfuel (Nat.not_succ_le_zero _)
  | succ fuel =>
    rw [List.cons_append, List.append_assoc, List.singleton_append, readValue,
      readString_writeText]
    rfl

/-! ## Lists -/

section

variable {opening gap close : List Char} (hopening : IsGap opening) (hgap : IsGap gap)
  (hclose : IsGap close)

/-- Parts that start values are separated to something that starts a value. -/
theorem exists_cons_intercalate {S : Char → Prop} {tss : List (List Char)} (hne : tss ≠ [])
    (h : ∀ ts ∈ tss, ∃ c tail, ts = c :: tail ∧ S c) (sep : List Char) :
    ∃ c tail, sep.intercalate tss = c :: tail ∧ S c := by
  cases tss with
  | nil => exact absurd rfl hne
  | cons ts tss =>
    obtain ⟨c, tail, rfl, hc⟩ := h ts List.mem_cons_self
    cases tss with
    | nil => exact ⟨c, tail, List.intercalate_singleton, hc⟩
    | cons ts tss => exact ⟨c, _, by rw [List.intercalate_cons_cons]; rfl, hc⟩

theorem forall_opens {tss : List (List Char)} {vs : List Value} (h : List.Forall₂ ReadsAs tss vs) :
    ∀ ts ∈ tss, ∃ c tail, ts = c :: tail ∧ StartsValue c := by
  induction h with
  | nil => simp
  | cons hv _ ih => exact List.forall_mem_cons.2 ⟨hv.opens, ih⟩

include hgap hclose in
/-- Parts between separators are read up to the closing bracket. -/
theorem readItems_intercalate {tss : List (List Char)} {vs : List Value}
    (h : List.Forall₂ ReadsAs tss vs) (hne : tss ≠ []) (rest : List Char) (fuel : ℕ)
    (hfuel : ((',' :: gap).intercalate tss).length < fuel) :
    readItems fuel ((',' :: gap).intercalate tss ++ (close ++ ']' :: rest)) = .ok (vs, rest) := by
  induction h generalizing fuel with
  | nil => exact absurd rfl hne
  | @cons ts v tss vs hv hvs ih =>
    obtain ⟨fuel, rfl⟩ := Nat.exists_eq_succ_of_ne_zero (Nat.ne_zero_of_lt hfuel)
    cases tss with
    | nil =>
      -- The last part stands before the closing bracket.
      cases hvs
      rw [List.intercalate_singleton] at hfuel ⊢
      rw [readItems, hv.reads (Nat.le_of_lt_succ hfuel)
        (endsValue_append hclose (.inr (.inl rfl)) rest)]
      simp only [bind, Except.bind, skipSpace_append hclose (c := ']') rfl]
      rfl
    | cons ts' tss =>
      -- Any other one stands before a separator, behind which the next one begins.
      obtain ⟨c, tail, htail, hc, -⟩ := exists_cons_intercalate (List.cons_ne_nil ts' tss)
        (forall_opens hvs) (',' :: gap)
      rw [List.intercalate_cons_cons, List.length_append, List.length_append, List.length_cons] at hfuel
      have hmore := ih (List.cons_ne_nil _ _) fuel (by omega)
      rw [htail, List.cons_append] at hmore
      have hsplit : (',' :: gap).intercalate (ts :: ts' :: tss) ++ (close ++ ']' :: rest) =
          ts ++ (',' :: (gap ++ c :: (tail ++ (close ++ ']' :: rest)))) := by
        rw [List.intercalate_cons_cons, htail]
        simp
      rw [hsplit, readItems, hv.reads (by omega) (endsValue_cons (.inl rfl) _)]
      simp only [bind, Except.bind, skipSpace_cons (c := ',') rfl, skipSpace_append hgap hc, hmore]
      rfl

include hopening hgap hclose in
/-- Parts between brackets are read as the list of their values. -/
theorem readsAs_list {tss : List (List Char)} {vs : List Value}
    (h : List.Forall₂ ReadsAs tss vs) (hne : tss ≠ []) :
    ReadsAs ('[' :: (opening ++ (',' :: gap).intercalate tss ++ close ++ [']'])) (.list vs) := by
  refine ⟨⟨'[', _, rfl, by simp [StartsValue, isSpace]⟩, ?_⟩
  intro fuel rest hfuel _
  obtain ⟨c, tail, htail, hspace, hbracket, -⟩ :=
    exists_cons_intercalate hne (forall_opens h) (',' :: gap)
  cases fuel with
  | zero => exact absurd hfuel (Nat.not_succ_le_zero _)
  | succ fuel =>
    have hitems := readItems_intercalate hgap hclose h hne rest fuel (by
      simp only [List.length_cons, List.length_append] at hfuel
      omega)
    have hsplit : '[' :: (opening ++ (',' :: gap).intercalate tss ++ close ++ [']']) ++ rest =
        '[' :: (opening ++ c :: (tail ++ (close ++ ']' :: rest))) := by
      rw [htail]
      simp
    rw [htail, List.cons_append] at hitems
    rw [hsplit, readValue, skipSpace_append hopening hspace]
    split
    · rename_i heq
      exact absurd (List.cons.inj heq).1 hbracket
    · simp only [hitems, bind, Except.bind]
      rfl

/-! ## Objects -/

theorem forall_quoted {tss : List (List Char)} {fs : List (String × Value)}
    (h : List.Forall₂ ReadsAsField tss fs) : ∀ ts ∈ tss, ∃ c tail, ts = c :: tail ∧ c = '"' := by
  induction h with
  | nil => simp
  | cons hf _ ih =>
    obtain ⟨ascii, ts, rfl, -⟩ := hf
    exact List.forall_mem_cons.2 ⟨⟨'"', _, by rw [toList_writeText]; rfl, rfl⟩, ih⟩

/-- The key of a field is read up to its value. -/
theorem readFields_key (ascii : Bool) (key : String) (before : List (String × Value)) {ts : List Char}
    {v : Value} (hv : ReadsAs ts v) {rest : List Char} (hrest : EndsValue rest) {fuel : ℕ}
    (hfuel : ts.length ≤ fuel) :
    readFields (fuel + 1) before ((writeText ascii key).toList ++ (':' :: ' ' :: ts) ++ rest) =
      match skipSpace rest with
      | '\x7d' :: rest => .ok (Value.setField key v before, rest)
      | ',' :: rest => readFields fuel (Value.setField key v before) (skipSpace rest)
      | rest => .error (.before .comma rest) := by
  obtain ⟨c, tail, rfl, hc, -⟩ := hv.opens
  have hsplit : (writeText ascii key).toList ++ (':' :: ' ' :: c :: tail) ++ rest =
      '"' :: (key.toList.flatMap (escapeChar ascii) ++ '"' :: (':' :: ' ' :: c :: (tail ++ rest))) := by
    rw [toList_writeText]
    simp
  have hvalue := hv.reads hfuel hrest
  rw [List.cons_append] at hvalue
  have hgap : skipSpace (' ' :: c :: (tail ++ rest)) = c :: (tail ++ rest) :=
    skipSpace_append (show IsGap [' '] by simp [IsGap, isSpace]) hc _
  rw [hsplit, readFields]
  simp only [readString_writeText, bind, Except.bind, skipSpace_cons (c := ':') rfl, hgap, hvalue]
  rfl

include hgap hclose in
/-- Fields between separators are read up to the closing brace, after those read before. -/
theorem readFields_intercalate {tss : List (List Char)} {fs : List (String × Value)}
    (h : List.Forall₂ ReadsAsField tss fs) (hne : tss ≠ []) (before : List (String × Value))
    (hkeys : ((before ++ fs).map (·.1)).Nodup) (rest : List Char) (fuel : ℕ)
    (hfuel : ((',' :: gap).intercalate tss).length < fuel) :
    readFields fuel before ((',' :: gap).intercalate tss ++ (close ++ '\x7d' :: rest)) =
      .ok (before ++ fs, rest) := by
  induction h generalizing fuel before with
  | nil => exact absurd rfl hne
  | @cons cs f tss fs hf hfs ih =>
    obtain ⟨fuel, rfl⟩ := Nat.exists_eq_succ_of_ne_zero (Nat.ne_zero_of_lt hfuel)
    obtain ⟨key, v⟩ := f
    obtain ⟨ascii, ts, hts, hv⟩ := hf
    obtain rfl : cs = (writeText ascii key).toList ++ (':' :: ' ' :: ts) := hts
    -- The key is none of those before.
    have hnew : key ∉ before.map (·.1) := by
      rw [List.map_append, List.map_cons] at hkeys
      intro hmem
      exact (List.disjoint_of_nodup_append hkeys) hmem List.mem_cons_self
    have hset : Value.setField key v before = before ++ [(key, v)] := Value.setField_of_notMem hnew
    have hlength : ts.length ≤ ((writeText ascii key).toList ++ (':' :: ' ' :: ts)).length := by
      simp only [List.length_append, List.length_cons]
      omega
    cases tss with
    | nil =>
      cases hfs
      rw [List.intercalate_singleton] at hfuel ⊢
      rw [readFields_key ascii key before hv (endsValue_append hclose (.inr (.inr rfl)) rest) (by omega),
        hset]
      simp only [skipSpace_append hclose (c := '\x7d') rfl]
    | cons ts' tss =>
      obtain ⟨c, tail, htail, rfl⟩ := exists_cons_intercalate (List.cons_ne_nil ts' tss)
        (forall_quoted hfs) (',' :: gap)
      rw [List.intercalate_cons_cons, List.length_append, List.length_append, List.length_cons] at hfuel
      have hmore := ih (List.cons_ne_nil _ _) (before ++ [(key, v)])
        (by rwa [List.append_assoc, List.singleton_append]) fuel (by omega)
      rw [htail, List.cons_append, List.append_assoc, List.singleton_append] at hmore
      have hsplit : (',' :: gap).intercalate
          (((writeText ascii key).toList ++ (':' :: ' ' :: ts)) :: ts' :: tss) ++
            (close ++ '\x7d' :: rest) =
          (writeText ascii key).toList ++ (':' :: ' ' :: ts) ++
            (',' :: (gap ++ '"' :: (tail ++ (close ++ '\x7d' :: rest)))) := by
        rw [List.intercalate_cons_cons, htail]
        simp
      rw [hsplit, readFields_key ascii key before hv (endsValue_cons (.inl rfl) _) (by omega), hset]
      simp only [skipSpace_cons (c := ',') rfl, skipSpace_append hgap (c := '"') rfl, hmore]

include hopening hgap hclose in
/-- Fields between braces are read as the object of them. -/
theorem readsAs_object {tss : List (List Char)} {fs : List (String × Value)}
    (h : List.Forall₂ ReadsAsField tss fs) (hne : tss ≠ []) (hkeys : (fs.map (·.1)).Nodup) :
    ReadsAs ('\x7b' :: (opening ++ (',' :: gap).intercalate tss ++ close ++ ['\x7d'])) (.object fs) := by
  refine ⟨⟨'\x7b', _, rfl, by simp [StartsValue, isSpace]⟩, ?_⟩
  intro fuel rest hfuel _
  obtain ⟨c, tail, htail, rfl⟩ := exists_cons_intercalate hne (forall_quoted h) (',' :: gap)
  cases fuel with
  | zero => exact absurd hfuel (Nat.not_succ_le_zero _)
  | succ fuel =>
    -- The fields are read behind the white space, with the first one not empty.
    have hfields := readFields_intercalate hgap hclose h hne [] hkeys rest fuel (by
      simp only [List.length_cons, List.length_append] at hfuel
      omega)
    have hsplit : '\x7b' :: (opening ++ (',' :: gap).intercalate tss ++ close ++ ['\x7d']) ++ rest =
        '\x7b' :: (opening ++ '"' :: (tail ++ (close ++ '\x7d' :: rest))) := by
      rw [htail]
      simp
    rw [htail, List.cons_append, List.nil_append] at hfields
    rw [hsplit, readValue, skipSpace_append hopening (c := '"') rfl]
    split
    · rename_i heq
      exact absurd (List.cons.inj heq).1 (by decide)
    · simp only [hfields, bind, Except.bind]
      rfl

end

/-! ## Brackets and braces -/

theorem isGap_lineBreak (style : Style) (level : ℕ) : IsGap (lineBreak style level).toList := by
  rw [lineBreak]
  cases style.indent with
  | none => simp [IsGap]
  | some width =>
    intro c hc
    rw [String.toList_ofList, List.mem_cons] at hc
    rcases hc with rfl | hc
    · rfl
    · rw [List.eq_of_mem_replicate hc]
      rfl

theorem exists_separator (style : Style) (level : ℕ) :
    ∃ gap, (separator style level).toList = ',' :: gap ∧ IsGap gap := by
  rw [separator]
  split
  · exact ⟨_, by rw [String.toList_append]; rfl, isGap_lineBreak style level⟩
  · exact ⟨[' '], rfl, by simp [IsGap, isSpace]⟩

theorem toList_enclose (style : Style) (level : ℕ) (left right : String) {parts : List String}
    (hne : parts ≠ []) :
    (enclose style level left right parts).toList =
      left.toList ++ ((lineBreak style (level + 1)).toList ++
        (separator style (level + 1)).toList.intercalate (parts.map String.toList) ++
          (lineBreak style level).toList ++ right.toList) := by
  have hempty : parts.isEmpty = false := by simpa using hne
  rw [enclose, hempty, if_neg Bool.false_ne_true]
  simp only [String.toList_append, String.toList_intercalate, List.append_assoc]

/-- Written values between brackets are read as the list of them. -/
theorem readsAs_enclose_items (style : Style) (level : ℕ) {parts : List String} {vs : List Value}
    (h : List.Forall₂ (fun s v => ReadsAs s.toList v) parts vs) :
    ReadsAs (enclose style level "[" "]" parts).toList (.list vs) := by
  cases parts with
  | nil =>
    cases h
    have hchars : (enclose style level "[" "]" []).toList = ['[', ']'] := by simp [enclose]
    rw [hchars]
    refine ⟨⟨'[', _, rfl, by simp [StartsValue, isSpace]⟩, ?_⟩
    intro fuel rest hfuel _
    cases fuel with
    | zero => exact absurd hfuel (by decide)
    | succ fuel => rfl
  | cons s parts =>
    obtain ⟨gap, hseparator, hgap⟩ := exists_separator style (level + 1)
    rw [toList_enclose style level _ _ (List.cons_ne_nil s parts), hseparator]
    exact readsAs_list (isGap_lineBreak style _) hgap (isGap_lineBreak style _)
      (List.forall₂_map_left_iff.2 h) (List.cons_ne_nil _ _)

/-- Written fields between braces are read as the object of them. -/
theorem readsAs_enclose_fields (style : Style) (level : ℕ) {parts : List String}
    {fs : List (String × Value)} (h : List.Forall₂ (fun s f => ReadsAsField s.toList f) parts fs)
    (hkeys : (fs.map (·.1)).Nodup) :
    ReadsAs (enclose style level "\x7b" "\x7d" parts).toList (.object fs) := by
  cases parts with
  | nil =>
    cases h
    have hchars : (enclose style level "\x7b" "\x7d" []).toList = ['\x7b', '\x7d'] := by simp [enclose]
    rw [hchars]
    refine ⟨⟨'\x7b', _, rfl, by simp [StartsValue, isSpace]⟩, ?_⟩
    intro fuel rest hfuel _
    cases fuel with
    | zero => exact absurd hfuel (by decide)
    | succ fuel => rfl
  | cons s parts =>
    obtain ⟨gap, hseparator, hgap⟩ := exists_separator style (level + 1)
    rw [toList_enclose style level _ _ (List.cons_ne_nil s parts), hseparator]
    exact readsAs_object (isGap_lineBreak style _) hgap (isGap_lineBreak style _)
      (List.forall₂_map_left_iff.2 h) (List.cons_ne_nil _ _) hkeys

/-- Related fields stay related when both sides are sorted by the same keys. -/
theorem forall₂_sortFields {α β : Type} {R : String × α → String × β → Prop} (sorted : Bool)
    {fs : List (String × α)} {gs : List (String × β)} (h : List.Forall₂ R fs gs)
    (hkey : ∀ f g, R f g → f.1 = g.1) :
    List.Forall₂ R (Value.sortFields sorted fs) (Value.sortFields sorted gs) := by
  rw [Value.sortFields, Value.sortFields]
  split
  · -- Both sides are sides of one list of related pairs, which is sorted by the key of either.
    obtain ⟨hlength, hrel⟩ := List.forall₂_iff_zip.1 h
    have hfst : (fs.zip gs).map Prod.fst = fs := List.map_fst_zip hlength.le
    have hsnd : (fs.zip gs).map Prod.snd = gs := List.map_snd_zip hlength.ge
    have hkeys : ∀ z ∈ fs.zip gs, z.1.1 = z.2.1 := fun z hz => hkey _ _ (hrel hz)
    generalize fs.zip gs = zs at hfst hsnd hkeys hrel
    subst hfst hsnd
    rw [← List.map_mergeSort (r := fun z w => decide (z.1.1 ≤ w.1.1)) (by simp),
      ← List.map_mergeSort (r := fun z w => decide (z.1.1 ≤ w.1.1)) (by
        intro z hz w hw
        rw [hkeys z hz, hkeys w hw]),
      List.forall₂_map_left_iff, List.forall₂_map_right_iff, List.forall₂_same]
    exact fun z hz => hrel (List.mem_mergeSort.1 hz)
  · exact h

/-! ## Written values -/

/-- A written double is read as the double. -/
theorem readsAs_writeFloat {style : Style} {x : Float} {s : String} (h : writeFloat style x = .ok s) :
    ReadsAs s.toList (.float x) := by
  rw [writeFloat] at h
  cases hexact : Exact.ofFloat x with
  | finite n m e =>
    have hfinite := Double.isFinite_of_ofFloat hexact
    rw [hexact] at h
    cases h
    obtain ⟨p, isNegative, hp, -, -, htext, -⟩ := Double.exists_signedChars hfinite
    exact readsAs_scalar (htext ▸ head_signedChars hp isNegative)
      fun rest hrest => readScalar_text hfinite hrest
  | nan =>
    -- What JSON cannot write has a name, which is let through or refused.
    have hlogged : Double.logged x = "NaN" := by rw [Double.logged, hexact]
    simp only [hexact, hlogged] at h
    split at h
    · cases h
      rw [Double.eq_nan_of_ofFloat hexact]
      exact readsAs_scalar ⟨'N', _, rfl, by decide⟩ fun rest _ => rfl
    · cases h
  | infinite n =>
    have hlogged : Double.logged x = if n then "-Infinity" else "Infinity" := by
      rw [Double.logged, hexact]
    simp only [hexact, hlogged] at h
    split at h
    · cases h
      rw [Double.eq_infinity_of_ofFloat hexact]
      cases n
      · exact readsAs_scalar ⟨'I', _, rfl, by decide⟩ fun rest _ => rfl
      · exact readsAs_scalar ⟨'-', _, rfl, by decide⟩ fun rest _ => rfl
    · cases h

mutual

/-- **A written value is read as the value**, with the fields of its objects in the order of the style. -/
theorem readsAs_write {style : Style} : ∀ (v : Value) {level : ℕ} {s : String}, v.isKeyed = true →
    write style level v = .ok s → ReadsAs s.toList (v.arranged style.sorted)
  | .null, _, _, _, h => by
    cases h
    exact readsAs_scalar ⟨'n', _, rfl, by decide⟩ fun rest _ => rfl
  | .bool true, _, _, _, h => by
    cases h
    exact readsAs_scalar ⟨'t', _, rfl, by decide⟩ fun rest _ => rfl
  | .bool false, _, _, _, h => by
    cases h
    exact readsAs_scalar ⟨'f', _, rfl, by decide⟩ fun rest _ => rfl
  | .int n, _, s, _, h => by
    have htext : integerText n = .ok s := eq_ok_of_mapError h
    refine readsAs_scalar ?_ fun rest hrest => readScalar_integerText htext hrest
    rw [toList_integerText htext]
    exact head_signedChars (Script.wellFormed_digitsOf n.natAbs) _
  | .float x, _, _, _, h => readsAs_writeFloat h
  | .text t, _, _, _, h => by
    cases h
    exact readsAs_text style.ascii t
  | .list items, level, _, hkeyed, h => by
    obtain ⟨ss, hss, h⟩ := exists_of_bind_eq_ok h
    cases h
    exact readsAs_enclose_items style level (readsAs_writeItems items hkeyed hss)
  | .object fields, level, _, hkeyed, h => by
    obtain ⟨ts, hts, h⟩ := exists_of_bind_eq_ok h
    cases h
    rw [Value.isKeyed, Bool.and_eq_true, decide_eq_true_eq] at hkeyed
    have hfields := forall₂_sortFields style.sorted (readsAs_writeFields fields hkeyed.2 hts)
      fun _ _ h => h.1
    -- The order of the style changes neither the fields nor which keys there are.
    refine readsAs_enclose_fields style level (List.forall₂_map_left_iff.2 (hfields.imp ?_)) ?_
    · rintro ⟨key, t⟩ ⟨_, v⟩ ⟨rfl, hv⟩
      exact ⟨style.ascii, t.toList, by simp [String.toList_append], hv⟩
    · rw [((Value.sortFields_perm _ _).map _).nodup_iff, Value.map_fst_arrangedFields]
      exact hkeyed.1

theorem readsAs_writeItems {style : Style} : ∀ (items : List Value) {level : ℕ} {ss : List String},
    Value.areKeyed items = true → writeItems style level items = .ok ss →
      List.Forall₂ (fun s v => ReadsAs s.toList v) ss (Value.arrangedItems style.sorted items)
  | [], _, _, _, h => by
    cases h
    exact .nil
  | v :: rest, _, _, hkeyed, h => by
    rw [Value.areKeyed, Bool.and_eq_true] at hkeyed
    obtain ⟨s, hs, h⟩ := exists_of_bind_eq_ok h
    obtain ⟨ss, hss, h⟩ := exists_of_bind_eq_ok h
    cases h
    exact .cons (readsAs_write v hkeyed.1 hs) (readsAs_writeItems rest hkeyed.2 hss)

theorem readsAs_writeFields {style : Style} : ∀ (fields : List (String × Value)) {level : ℕ}
    {ts : List (String × String)}, Value.areKeyedFields fields = true →
      writeFields style level fields = .ok ts →
        List.Forall₂ (fun t f => t.1 = f.1 ∧ ReadsAs t.2.toList f.2) ts
          (Value.arrangedFields style.sorted fields)
  | [], _, _, _, h => by
    cases h
    exact .nil
  | (key, v) :: rest, _, _, hkeyed, h => by
    rw [Value.areKeyedFields, Bool.and_eq_true] at hkeyed
    obtain ⟨s, hs, h⟩ := exists_of_bind_eq_ok h
    obtain ⟨ts, hts, h⟩ := exists_of_bind_eq_ok h
    cases h
    exact .cons ⟨rfl, readsAs_write v hkeyed.1 hs⟩ (readsAs_writeFields rest hkeyed.2 hts)

end

/-- **What has been printed is read back**: the value, if its objects are keyed, with their fields in the
    order of the style. -/
theorem read_print {style : Style} {v : Value} {s : String} (hkeyed : v.isKeyed = true)
    (h : print style v = .ok s) : read s = .ok (v.arranged style.sorted) := by
  have hreads := readsAs_write v hkeyed h
  obtain ⟨c, tail, htail, hspace, -, hmark⟩ := hreads.opens
  have hvalue := @ReadsAs.reads _ _ hreads (s.toList.length + 1) [] (by omega) (by simp [EndsValue])
  rw [List.append_nil, htail] at hvalue
  rw [read, htail, readList]
  · rw [skipSpace_cons hspace, hvalue]
    rfl
  · rintro t ⟨⟩
    exact hmark rfl

/-- What has been printed in a style that does not sort fields is read back as it was. -/
theorem read_print_unsorted {style : Style} (hsorted : style.sorted = false) {v : Value} {s : String}
    (hkeyed : v.isKeyed = true) (h : print style v = .ok s) : read s = .ok v := by
  rw [read_print hkeyed h, hsorted, Value.arranged_false]

end Json

end SpriteStage
