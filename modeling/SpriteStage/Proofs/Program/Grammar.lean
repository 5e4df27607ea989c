import SpriteStage.Program.Payload
import SpriteStage.Proofs.Json.Short

/-!
# The grammar of payloads

A payload is a program if it is a list of objects with known tags and the fields that their tags ask for,
and the bodies in it are such lists again.  All of them are decoded, and everything else is refused, unless
the decoder stumbles on its way to the first fault: it cannot look up a tag that is a list or an object, and
it cannot write a message, or a tag that it does not know, if an integer in it is too long.

## Main definitions

* `Payload.IsProgram` is the grammar
* `Payload.Stumbles` tells what the decoder stumbles over
* `PayloadError.isRefusal` tells refusals from the other errors

## Main results

* `Payload.decoded_iff_isProgram`
-/

namespace SpriteStage

/-- Whether an error is the refusal of a payload that is no program. -/
def PayloadError.isRefusal : PayloadError → Bool
  | .notList | .notObject | .missingField .. | .unknownTag _ | .unsupported _ => true
  | .operation _ => false

namespace Payload

/-! ## The grammar -/

mutual

/-- An object that is an instruction.  What a failure may have for a message is left open. -/
inductive IsInstruction (Message : Value → Prop) : Value → Prop where
  | call {fields : List (String × Value)} (op : Operation)
      (htag : Value.field? "op" fields = some (.text op.name))
      (hargument : (Value.field? op.argumentName fields).isSome = true) :
      IsInstruction Message (.object fields)
  | loop {fields : List (String × Value)} (htag : Value.field? "op" fields = some (.text "repeat"))
      (htimes : (Value.field? "times" fields).isSome = true)
      (hbody : ∀ body, Value.field? "body" fields = some body → IsProgram Message body) :
      IsInstruction Message (.object fields)
  | group {fields : List (String × Value)} (htag : Value.field? "op" fields = some (.text "sequence"))
      (hbody : ∀ body, Value.field? "body" fields = some body → IsProgram Message body) :
      IsInstruction Message (.object fields)
  | fail {fields : List (String × Value)} (htag : Value.field? "op" fields = some (.text "fail"))
      (hmessage : ∀ message, Value.field? "message" fields = some message → Message message) :
      IsInstruction Message (.object fields)

/-- A list of instructions. -/
inductive IsProgram (Message : Value → Prop) : Value → Prop where
  | list {items : List Value} (hitems : ∀ v ∈ items, IsInstruction Message v) :
      IsProgram Message (.list items)

end

/-- A payload in the grammar all of whose messages can be written. -/
abbrev IsPlainInstruction : Value → Prop := IsInstruction (·.isShort = true)

/-! ## What the decoder stumbles over -/

/-- A value that cannot be looked up among the tags, or that is no tag and cannot be written in the
    refusal. -/
inductive TagStumbles : OperationError → Value → Prop where
  | list (items : List Value) : TagStumbles (.unhashable .list) (.list items)
  | object (fields : List (String × Value)) : TagStumbles (.unhashable .object) (.object fields)
  | long {n : Int} (hlong : digitLimit < (Decimal.digitsOf n.natAbs).length) :
      TagStumbles .digitLimit (.int n)

mutual

/-- Decoding an instruction comes upon something that fails before anything else is wrong. -/
inductive StumblesAt (error : OperationError) : Value → Prop where
  | tag {fields : List (String × Value)} {tag : Value}
      (htag : Value.field? "op" fields = some tag) (h : TagStumbles error tag) :
      StumblesAt error (.object fields)
  | loop {fields : List (String × Value)} {body : Value}
      (htag : Value.field? "op" fields = some (.text "repeat"))
      (htimes : (Value.field? "times" fields).isSome = true)
      (hbody : Value.field? "body" fields = some body) (h : Stumbles error body) :
      StumblesAt error (.object fields)
  | group {fields : List (String × Value)} {body : Value}
      (htag : Value.field? "op" fields = some (.text "sequence"))
      (hbody : Value.field? "body" fields = some body) (h : Stumbles error body) :
      StumblesAt error (.object fields)
  | message {fields : List (String × Value)} {message : Value}
      (htag : Value.field? "op" fields = some (.text "fail"))
      (hmessage : Value.field? "message" fields = some message) (hlong : message.isShort = false)
      (herror : error = .digitLimit) : StumblesAt error (.object fields)

/-- Decoding a program comes upon something that fails before anything else is wrong. -/
inductive Stumbles (error : OperationError) : Value → Prop where
  | item {before after : List Value} {v : Value} (hbefore : ∀ w ∈ before, IsPlainInstruction w)
      (h : StumblesAt error v) : Stumbles error (.list (before ++ v :: after))

end

/-! ## Tags -/

/-- The text that is a tag in payloads. -/
def Tag.word : Tag → String
  | .call op => op.name
  | .loop => "repeat"
  | .group => "sequence"
  | .fail => "fail"

theorem tag?_word (t : Tag) : tag? (.text t.word) = .ok t := by
  cases t with
  | call op => cases op <;> rfl
  | _ => rfl

/-- A value is a tag, or it is refused, or the decoder stumbles over it. -/
theorem tag?_cases (v : Value) :
    (∃ t : Tag, v = .text t.word) ∨ (∃ shown, tag? v = .error (.unknownTag shown)) ∨
      ∃ error, tag? v = .error (.operation error) ∧ TagStumbles error v := by
  cases v with
  | list items => exact .inr (.inr ⟨_, rfl, .list items⟩)
  | object fields => exact .inr (.inr ⟨_, rfl, .object fields⟩)
  | int n =>
    -- An integer is no tag, but it is shown in the refusal.
    by_cases hlong : digitLimit < (Decimal.digitsOf n.natAbs).length
    · refine .inr (.inr ⟨.digitLimit, ?_, .long hlong⟩)
      simp only [tag?, Value.quoted, integerText_eq_error (Nat.not_le.2 hlong)]
    · obtain ⟨shown, hshown⟩ := exists_integerText_iff.2 (Nat.le_of_not_lt hlong)
      refine .inr (.inl ⟨shown, ?_⟩)
      simp only [tag?, Value.quoted, hshown]
  | text s =>
    -- The decoder asks for the words one by one, so that all of them have to be ruled out.
    by_cases hword : ∃ t : Tag, s = t.word
    · obtain ⟨t, rfl⟩ := hword
      exact .inl ⟨t, rfl⟩
    · refine .inr (.inl ⟨Text.quote s, ?_⟩)
      have hname : Operation.ofName? s = none := by
        cases hop : Operation.ofName? s with
        | none => rfl
        | some op =>
          have hs : op.name = s := by simpa using List.find?_some hop
          exact absurd ⟨.call op, hs.symm⟩ hword
      have hloop : s ≠ "repeat" := fun h => hword ⟨.loop, h⟩
      have hgroup : s ≠ "sequence" := fun h => hword ⟨.group, h⟩
      have hfail : s ≠ "fail" := fun h => hword ⟨.fail, h⟩
      simp [tag?, hname, hloop, hgroup, hfail, Value.quoted]
  | _ => exact .inr (.inl ⟨_, rfl⟩)

/-! ## The grammar step by step -/

section

variable {Message : Value → Prop} {fields : List (String × Value)}

/-- The tag of an object in the grammar. -/
theorem IsInstruction.exists_tag (h : IsInstruction Message (.object fields)) :
    ∃ t : Tag, Value.field? "op" fields = some (.text t.word) := by
  cases h with
  | call op htag => exact ⟨.call op, htag⟩
  | loop htag => exact ⟨.loop, htag⟩
  | group htag => exact ⟨.group, htag⟩
  | fail htag => exact ⟨.fail, htag⟩

/-- What the tag of an object asks for. -/
def Fits (Message : Value → Prop) (fields : List (String × Value)) : Tag → Prop
  | .call op => (Value.field? op.argumentName fields).isSome = true
  | .loop => (Value.field? "times" fields).isSome = true ∧
      ∀ body, Value.field? "body" fields = some body → IsProgram Message body
  | .group => ∀ body, Value.field? "body" fields = some body → IsProgram Message body
  | .fail => ∀ message, Value.field? "message" fields = some message → Message message

theorem Tag.word_injective : Function.Injective Tag.word := by
  intro t t' h
  have hok := tag?_word t
  rw [h, tag?_word t'] at hok
  exact (Except.ok.inj hok).symm

/-- An object has one tag. -/
theorem word_unique {v : Option Value} {t t' : Tag} (ht : v = some (.text t.word))
    (ht' : v = some (.text t'.word)) : t = t' := by
  rw [ht] at ht'
  exact Tag.word_injective (Value.text.inj (Option.some.inj ht'))

theorem isInstruction_iff {t : Tag} (ht : Value.field? "op" fields = some (.text t.word)) :
    IsInstruction Message (.object fields) ↔ Fits Message fields t := by
  constructor
  · -- Each form has a tag of its own, so that only the form of this tag is left.
    intro h
    cases h with
    | call op htag hargument =>
      obtain rfl : .call op = t := word_unique htag ht
      exact hargument
    | loop htag htimes hbody =>
      obtain rfl : .loop = t := word_unique htag ht
      exact ⟨htimes, hbody⟩
    | group htag hbody =>
      obtain rfl : .group = t := word_unique htag ht
      exact hbody
    | fail htag hmessage =>
      obtain rfl : .fail = t := word_unique htag ht
      exact hmessage
  · intro h
    cases t with
    | call op => exact .call op ht h
    | loop => exact .loop ht h.1 h.2
    | group => exact .group ht h
    | fail => exact .fail ht h

/-- What the decoder stumbles over in an object with a tag. -/
def Trips (error : OperationError) (fields : List (String × Value)) : Tag → Prop
  | .call _ => False
  | .loop => (Value.field? "times" fields).isSome = true ∧
      ∃ body, Value.field? "body" fields = some body ∧ Stumbles error body
  | .group => ∃ body, Value.field? "body" fields = some body ∧ Stumbles error body
  | .fail => ∃ message, Value.field? "message" fields = some message ∧ message.isShort = false ∧
      error = .digitLimit

theorem TagStumbles.ne_word {error : OperationError} {v : Value} (h : TagStumbles error v) (t : Tag) :
    v ≠ .text t.word := by
  rintro rfl
  cases h

theorem stumblesAt_iff {error : OperationError} {t : Tag}
    (ht : Value.field? "op" fields = some (.text t.word)) :
    StumblesAt error (.object fields) ↔ Trips error fields t := by
  constructor
  · -- Each way to stumble has a tag of its own, so that only the way of this tag is left.
    intro h
    cases h with
    | tag htag hstumbles =>
      rw [ht] at htag
      cases htag
      exact absurd rfl (hstumbles.ne_word t)
    | loop htag htimes hbody h =>
      obtain rfl : .loop = t := word_unique htag ht
      exact ⟨htimes, _, hbody, h⟩
    | group htag hbody h =>
      obtain rfl : .group = t := word_unique htag ht
      exact ⟨_, hbody, h⟩
    | message htag hmessage hlong herror =>
      obtain rfl : .fail = t := word_unique htag ht
      exact ⟨_, hmessage, hlong, herror⟩
  · intro h
    cases t with
    | call op => exact h.elim
    | loop =>
      obtain ⟨htimes, body, hbody, h⟩ := h
      exact .loop ht htimes hbody h
    | group =>
      obtain ⟨body, hbody, h⟩ := h
      exact .group ht hbody h
    | fail =>
      obtain ⟨message, hmessage, hlong, herror⟩ := h
      exact .message ht hmessage hlong herror

/-- What is decoded from the fields of an object with a tag. -/
def ofTag (fields : List (String × Value)) : Tag → Except PayloadError Instruction
  | .call op => (argument op fields).map (.call op)
  | .loop =>
    match Value.field? "times" fields with
    | none => .error (.missingField "repeat" "times")
    | some times => (toBody fields).map (.loop (toNumeric times))
  | .group => (toBody fields).map .group
  | .fail => (failMessage fields).map .fail

theorem toInstruction_of_tag {t : Tag} (ht : Value.field? "op" fields = some (.text t.word)) :
    toInstruction (.object fields) = ofTag fields t := by
  rw [toInstruction, ht, Option.getD_some, tag?_word]
  cases t <;> rfl

theorem toInstruction_of_tag_error {e : PayloadError}
    (he : tag? ((Value.field? "op" fields).getD .null) = .error e) :
    toInstruction (.object fields) = .error e := by
  rw [toInstruction, he]
  rfl

end

/-- A decoded object has a tag. -/
theorem exists_ofTag {fields : List (String × Value)} {i : Instruction}
    (h : toInstruction (.object fields) = .ok i) : ∃ t, ofTag fields t = .ok i := by
  rw [toInstruction] at h
  obtain ⟨t, -, h⟩ := exists_of_bind_eq_ok h
  refine ⟨t, ?_⟩
  rw [← h]
  cases t <;> rfl

/-! ## Decoding decides the grammar -/

/-- A part of a payload is decoded if it is plain, the decoder stumbles over it as it is told, and what is
    refused is not in the grammar. -/
structure Decides {α : Type} (plain : Prop) (stumbles : OperationError → Prop) (grammar : Prop)
    (x : Except PayloadError α) : Prop where
  ok_iff : (∃ a, x = .ok a) ↔ plain
  operation_iff : ∀ error, x = .error (.operation error) ↔ stumbles error
  not_grammar : ∀ e, x = .error e → e.isRefusal = true → ¬ grammar

namespace Decides

variable {α β : Type} {plain plain' grammar grammar' : Prop} {stumbles stumbles' : OperationError → Prop}
  {x : Except PayloadError α}

theorem of_ok {a : α} (hx : x = .ok a) (hplain : plain) (hstumbles : ∀ error, ¬ stumbles error) :
    Decides plain stumbles grammar x where
  ok_iff := iff_of_true ⟨a, hx⟩ hplain
  operation_iff error := iff_of_false (by simp [hx]) (hstumbles error)
  not_grammar e he := by simp [hx] at he

theorem of_refusal {e : PayloadError} (hx : x = .error e) (he : e.isRefusal = true) (hplain : ¬ plain)
    (hstumbles : ∀ error, ¬ stumbles error) (hgrammar : ¬ grammar) :
    Decides plain stumbles grammar x where
  ok_iff := iff_of_false (by simp [hx]) hplain
  operation_iff error := by
    refine iff_of_false ?_ (hstumbles error)
    rw [hx]
    rintro ⟨⟩
    cases he
  not_grammar _ _ _ := hgrammar

theorem of_operation {error : OperationError} (hx : x = .error (.operation error)) (hplain : ¬ plain)
    (hstumbles : ∀ error', stumbles error' ↔ error' = error) : Decides plain stumbles grammar x where
  ok_iff := iff_of_false (by simp [hx]) hplain
  operation_iff error' := by
    rw [hx, hstumbles]
    simp [eq_comm]
  not_grammar e he hrefusal := by
    rw [hx] at he
    cases he
    cases hrefusal

theorem congr (h : Decides plain stumbles grammar x) (hplain : plain' ↔ plain)
    (hstumbles : ∀ error, stumbles' error ↔ stumbles error) (hgrammar : grammar' → grammar) :
    Decides plain' stumbles' grammar' x where
  ok_iff := h.ok_iff.trans hplain.symm
  operation_iff error := (h.operation_iff error).trans (hstumbles error).symm
  not_grammar e he hrefusal hin := h.not_grammar e he hrefusal (hgrammar hin)

theorem map (h : Decides plain stumbles grammar x) (f : α → β) :
    Decides plain stumbles grammar (x.map f) where
  ok_iff := by
    rw [← h.ok_iff]
    cases x <;> simp [Except.map]
  operation_iff error := by
    rw [← h.operation_iff]
    cases x <;> simp [Except.map]
  not_grammar e he := h.not_grammar e (error_of_map he)

/-- Of two parts the second is decoded only if the first one is. -/
theorem both {γ : Type} {y : Except PayloadError β} (hx : Decides plain stumbles grammar x)
    (hy : Decides plain' stumbles' grammar' y) (f : α → β → γ) :
    Decides (plain ∧ plain') (fun error => stumbles error ∨ plain ∧ stumbles' error) (grammar ∧ grammar')
      (x >>= fun a => y >>= fun b => pure (f a b)) := by
  cases x with
  | error e =>
    -- The second part is not looked at, whatever it is.
    have hplain : ¬ plain := fun hp => by
      obtain ⟨a, ha⟩ := hx.ok_iff.2 hp
      cases ha
    refine ⟨iff_of_false ?_ fun h => hplain h.1, fun error => ?_, fun e' he' hrefusal hin => ?_⟩
    · rintro ⟨c, hc⟩
      cases hc
    · rw [or_iff_left fun h => hplain h.1, ← hx.operation_iff]
      simp [bind, Except.bind]
    · cases he'
      exact hx.not_grammar e rfl hrefusal hin.1
  | ok a =>
    have hplain : plain := hx.ok_iff.1 ⟨a, rfl⟩
    have hstumbles (error : OperationError) : ¬ stumbles error := fun h => by
      cases (hx.operation_iff error).2 h
    exact (hy.map (f a)).congr (by simp [hplain]) (by simp [hplain, hstumbles]) And.right

end Decides

/-! ### Lists of instructions -/

section

variable {Message : Value → Prop} {error : OperationError} {v : Value} {items : List Value}

theorem isProgram_iff : IsProgram Message (.list items) ↔ ∀ v ∈ items, IsInstruction Message v :=
  ⟨fun ⟨h⟩ => h, .list⟩

theorem not_stumbles_nil : ¬ Stumbles error (.list []) := by
  intro h
  generalize hitems : Value.list [] = w at h
  cases h with
  | item hbefore h => simp at hitems

theorem stumbles_cons_iff : Stumbles error (.list (v :: items)) ↔
    StumblesAt error v ∨ IsPlainInstruction v ∧ Stumbles error (.list items) := by
  constructor
  · intro h
    generalize hitems : Value.list (v :: items) = w at h
    cases h with
    | @item before after u hbefore h =>
      -- What is stumbled over is the first item, or stands behind it.
      cases before with
      | nil =>
        cases hitems
        exact .inl h
      | cons first before =>
        cases hitems
        rw [List.forall_mem_cons] at hbefore
        exact .inr ⟨hbefore.1, .item hbefore.2 h⟩
  · rintro (h | ⟨hv, h⟩)
    · exact @Stumbles.item error [] items v (by simp) h
    · cases h with
      | @item before after u hbefore h =>
        exact @Stumbles.item error (v :: before) after u (List.forall_mem_cons.2 ⟨hv, hbefore⟩) h

end

/-- Deciding whether a value is a list of instructions. -/
abbrev DecidesProgram (v : Value) (x : Except PayloadError (List Instruction)) : Prop :=
  Decides (IsProgram (·.isShort = true) v) (Stumbles · v) (IsProgram (fun _ => True) v) x

/-- Deciding whether the body of an object, if it has one, is a list of instructions. -/
abbrev DecidesBody (fields : List (String × Value)) (x : Except PayloadError (List Instruction)) : Prop :=
  Decides (∀ body, Value.field? "body" fields = some body → IsProgram (·.isShort = true) body)
    (fun error => ∃ body, Value.field? "body" fields = some body ∧ Stumbles error body)
    (∀ body, Value.field? "body" fields = some body → IsProgram (fun _ => True) body) x

/-! ### Instructions -/

section

variable {Message : Value → Prop} {fields : List (String × Value)}

/-- An object without a tag that is known is in no grammar. -/
theorem not_isInstruction (hword : ∀ t : Tag, Value.field? "op" fields ≠ some (.text t.word)) :
    ¬ IsInstruction Message (.object fields) := by
  intro h
  obtain ⟨t, ht⟩ := h.exists_tag
  exact hword t ht

/-- Without a tag that is known there is only the tag to stumble over. -/
theorem stumblesAt_iff_tag (hword : ∀ t : Tag, Value.field? "op" fields ≠ some (.text t.word))
    {error : OperationError} : StumblesAt error (.object fields) ↔
      ∃ tag, Value.field? "op" fields = some tag ∧ TagStumbles error tag := by
  constructor
  · intro h
    cases h with
    | tag htag h => exact ⟨_, htag, h⟩
    | loop htag => exact absurd htag (hword .loop)
    | group htag => exact absurd htag (hword .group)
    | message htag => exact absurd htag (hword .fail)
  · rintro ⟨tag, htag, h⟩
    exact .tag htag h

/-- A tag is stumbled over for one reason. -/
theorem TagStumbles.unique {error error' : OperationError} {v : Value} (h : TagStumbles error v)
    (h' : TagStumbles error' v) : error' = error := by
  cases h <;> cases h' <;> rfl

theorem not_tagStumbles_of_unknown {error : OperationError} {v : Value} {shown : String}
    (hv : tag? v = .error (.unknownTag shown)) : ¬ TagStumbles error v := by
  rintro (items | entries | hlong)
  · cases hv
  · cases hv
  · simp only [tag?, Value.quoted, integerText_eq_error (Nat.not_le.2 hlong)] at hv
    cases hv

/-- What a tag asks for is decided if the body is. -/
theorem decides_ofTag (hbody : DecidesBody fields (toBody fields)) (t : Tag) :
    Decides (Fits (·.isShort = true) fields t) (Trips · fields t) (Fits (fun _ => True) fields t)
      (ofTag fields t) := by
  cases t with
  | call op =>
    rw [ofTag, argument]
    cases hargument : Value.field? op.argumentName fields with
    | none => exact .of_refusal rfl rfl (by simp [Fits, hargument]) (fun _ => id) (by simp [Fits, hargument])
    | some v => exact .of_ok rfl (by simp [Fits, hargument]) (fun _ => id)
  | loop =>
    rw [ofTag]
    cases htimes : Value.field? "times" fields with
    | none =>
      exact .of_refusal rfl rfl (by simp [Fits, htimes]) (by simp [Trips, htimes]) (by simp [Fits, htimes])
    | some times =>
      -- With its times a loop is as good as its body.
      exact (hbody.map _).congr (by simp [Fits, htimes]) (by simp [Trips, htimes]) And.right
  | group => exact hbody.map _
  | fail =>
    rw [ofTag, failMessage]
    cases hmessage : Value.field? "message" fields with
    | none => exact .of_ok rfl (by simp [Fits, hmessage]) (by simp [Trips, hmessage])
    | some message =>
      rw [Option.getD_some]
      -- Only a long integer keeps the message from being written.
      cases hshort : message.isShort with
      | true =>
        obtain ⟨text, htext⟩ := Value.exists_plain hshort
        rw [htext]
        exact .of_ok rfl (by simp [Fits, hmessage, hshort]) (by simp [Trips, hmessage, hshort])
      | false =>
        rw [Value.plain_eq_error hshort]
        exact .of_operation rfl (by simp [Fits, hmessage, hshort]) (by simp [Trips, hmessage, hshort])

/-- An object is decided if its body is. -/
theorem decides_object (hbody : DecidesBody fields (toBody fields)) :
    Decides (IsPlainInstruction (.object fields)) (StumblesAt · (.object fields))
      (IsInstruction (fun _ => True) (.object fields)) (toInstruction (.object fields)) := by
  cases htag : Value.field? "op" fields with
  | none =>
    -- A missing tag is looked up as null.
    have hword : ∀ t : Tag, Value.field? "op" fields ≠ some (.text t.word) := by simp [htag]
    have hunknown : toInstruction (.object fields) = .error (.unknownTag "None") :=
      toInstruction_of_tag_error (by rw [htag]; rfl)
    exact .of_refusal hunknown rfl (not_isInstruction hword)
      (fun error => by simp [stumblesAt_iff_tag hword, htag]) (not_isInstruction hword)
  | some tag =>
    have herror {e : PayloadError} (h : tag? tag = .error e) : toInstruction (.object fields) = .error e :=
      toInstruction_of_tag_error (by rw [htag]; exact h)
    rcases tag?_cases tag with ⟨t, rfl⟩ | ⟨shown, hshown⟩ | ⟨error, hoperation, hstumbles⟩
    · rw [toInstruction_of_tag htag]
      exact (decides_ofTag hbody t).congr (isInstruction_iff htag) (fun _ => stumblesAt_iff htag)
        (isInstruction_iff htag).1
    · have hword : ∀ t : Tag, Value.field? "op" fields ≠ some (.text t.word) := by
        rintro t ht
        cases htag.symm.trans ht
        simp [tag?_word] at hshown
      have hnot (error : OperationError) : ¬ TagStumbles error tag := not_tagStumbles_of_unknown hshown
      exact .of_refusal (herror hshown) rfl (not_isInstruction hword)
        (fun error => by simp [stumblesAt_iff_tag hword, htag, hnot]) (not_isInstruction hword)
    · have hword : ∀ t : Tag, Value.field? "op" fields ≠ some (.text t.word) := by
        rintro t ht
        cases htag.symm.trans ht
        exact hstumbles.ne_word t rfl
      refine .of_operation (herror hoperation) (not_isInstruction hword) fun error' => ?_
      rw [stumblesAt_iff_tag hword, htag]
      constructor
      · rintro ⟨_, ⟨⟩, h⟩
        exact hstumbles.unique h
      · rintro rfl
        exact ⟨tag, rfl, hstumbles⟩

/-- A body is found in the first field if that is its key, and otherwise among the others. -/
theorem decides_field {key : String} {v : Value} {x y : Except PayloadError (List Instruction)}
    (hv : DecidesProgram v x) (hrest : DecidesBody fields y) :
    DecidesBody ((key, v) :: fields) (if key = "body" then x else y) := by
  rw [DecidesBody, Value.field?_cons]
  by_cases hkey : key = "body"
  · simp only [if_pos hkey]
    exact hv.congr (by simp) (by simp) (by simp)
  · simp only [if_neg hkey]
    exact hrest

/-- What is no list is no program, and the decoder says so. -/
theorem decides_not_list {v : Value} (hv : ∀ items, v ≠ .list items) :
    DecidesProgram v (.error .notList) := by
  refine .of_refusal rfl rfl ?_ ?_ ?_
  · rintro ⟨⟩
    exact hv _ rfl
  · rintro error ⟨⟩
    exact hv _ rfl
  · rintro ⟨⟩
    exact hv _ rfl

/-- What is no object is no instruction, and the decoder says so. -/
theorem decides_not_object {v : Value} (hv : ∀ fields, v ≠ .object fields)
    (hx : toInstruction v = .error .notObject) : Decides (IsPlainInstruction v) (StumblesAt · v)
      (IsInstruction (fun _ => True) v) (toInstruction v) := by
  refine .of_refusal hx rfl ?_ ?_ ?_
  · rintro ⟨⟩ <;> exact hv _ rfl
  · rintro error ⟨⟩ <;> exact hv _ rfl
  · rintro ⟨⟩ <;> exact hv _ rfl

end

-- The recursion is that of the decoder.
mutual

/-- Decoding an instruction decides the grammar. -/
theorem decides_toInstruction : ∀ v : Value, Decides (IsPlainInstruction v) (StumblesAt · v)
    (IsInstruction (fun _ => True) v) (toInstruction v)
  | .object fields => decides_object (decides_toBody fields)
  | .null | .bool _ | .int _ | .float _ | .text _ | .list _ => decides_not_object (by simp) rfl

/-- Decoding a body decides the grammar, of which having no body is a part. -/
theorem decides_toBody : ∀ fields : List (String × Value), DecidesBody fields (toBody fields)
  | [] => .of_ok rfl (by simp [Value.field?]) (by simp [Value.field?])
  | (key, .list items) :: rest => by
    rw [toBody]
    exact decides_field (decides_toInstructions items) (decides_toBody rest)
  | (key, .null) :: rest | (key, .bool _) :: rest | (key, .int _) :: rest | (key, .float _) :: rest
  | (key, .text _) :: rest | (key, .object _) :: rest => by
    rw [toBody]
    · exact decides_field (decides_not_list (by simp)) (decides_toBody rest)
    · simp

/-- Decoding a list of instructions decides the grammar. -/
theorem decides_toInstructions : ∀ items : List Value, DecidesProgram (.list items) (toInstructions items)
  | [] => .of_ok rfl (isProgram_iff.2 (by simp)) (fun _ => not_stumbles_nil)
  | v :: rest => by
    have hboth := (decides_toInstruction v).both (decides_toInstructions rest) List.cons
    refine hboth.congr ?_ (fun _ => stumbles_cons_iff) ?_
    · simp [isProgram_iff]
    · simp [isProgram_iff]

end

theorem decides_toProgram (v : Value) : DecidesProgram v (toProgram v) := by
  cases v with
  | list items => exact decides_toInstructions items
  | _ => exact decides_not_list (by simp)

/-! ## Decoded, refused, stumbled over -/

mutual

theorem IsInstruction.mono {Message Message' : Value → Prop} (hmessage : ∀ v, Message v → Message' v)
    {v : Value} : IsInstruction Message v → IsInstruction Message' v
  | .call op htag hargument => .call op htag hargument
  | .loop htag htimes hbody => .loop htag htimes fun body h => (hbody body h).mono hmessage
  | .group htag hbody => .group htag fun body h => (hbody body h).mono hmessage
  | .fail htag h => .fail htag fun message hm => hmessage message (h message hm)

theorem IsProgram.mono {Message Message' : Value → Prop} (hmessage : ∀ v, Message v → Message' v)
    {v : Value} : IsProgram Message v → IsProgram Message' v
  | .list hitems => .list fun v hv => (hitems v hv).mono hmessage

end

section

variable (payload : Value)

theorem toProgram_eq_operation_iff (error : OperationError) :
    toProgram payload = .error (.operation error) ↔ Stumbles error payload :=
  (decides_toProgram payload).operation_iff error

/-- A payload is decoded if it is in the grammar and has nothing to stumble over. -/
theorem exists_toProgram_iff : (∃ p, toProgram payload = .ok p) ↔
    IsProgram (fun _ => True) payload ∧ ∀ error, ¬ Stumbles error payload := by
  have hdecides := decides_toProgram payload
  simp only [← toProgram_eq_operation_iff]
  constructor
  · rintro ⟨p, hp⟩
    have hplain := hdecides.ok_iff.1 ⟨p, hp⟩
    exact ⟨hplain.mono fun _ _ => trivial, by simp [hp]⟩
  · rintro ⟨hgrammar, hnot⟩
    cases hx : toProgram payload with
    | ok p => exact ⟨p, rfl⟩
    | error e =>
      -- What is in the grammar is not refused, so the error is no refusal.
      cases e with
      | operation error => exact absurd hx (hnot error)
      | _ => exact absurd hgrammar (hdecides.not_grammar _ hx rfl)

/-- A payload is refused if it is not in the grammar and the decoder gets as far as the fault. -/
theorem exists_refusal_iff : (∃ e, toProgram payload = .error e ∧ e.isRefusal = true) ↔
    ¬ IsProgram (fun _ => True) payload ∧ ∀ error, ¬ Stumbles error payload := by
  have hdecides := decides_toProgram payload
  constructor
  · rintro ⟨e, he, hrefusal⟩
    refine ⟨hdecides.not_grammar e he hrefusal, fun error hstumbles => ?_⟩
    rw [(toProgram_eq_operation_iff payload error).2 hstumbles] at he
    cases he
    cases hrefusal
  · rintro ⟨hgrammar, hnot⟩
    cases hx : toProgram payload with
    | ok p => exact absurd ((exists_toProgram_iff payload).1 ⟨p, hx⟩).1 hgrammar
    | error e =>
      refine ⟨e, rfl, ?_⟩
      cases e with
      | operation error => exact absurd ((toProgram_eq_operation_iff payload error).1 hx) (hnot error)
      | _ => rfl

end

/-- **The decoder decides the grammar**: it decodes a payload exactly if it is in the grammar and refuses it
    exactly if it is not, unless it stumbles over the payload.  Then the error is what it stumbles over. -/
theorem decoded_iff_isProgram (payload : Value) :
    ((∃ p, toProgram payload = .ok p) ↔
      IsProgram (fun _ => True) payload ∧ ∀ error, ¬ Stumbles error payload) ∧
    ((∃ e, toProgram payload = .error e ∧ e.isRefusal = true) ↔
      ¬ IsProgram (fun _ => True) payload ∧ ∀ error, ¬ Stumbles error payload) ∧
    ∀ error, toProgram payload = .error (.operation error) ↔ Stumbles error payload :=
  ⟨exists_toProgram_iff payload, exists_refusal_iff payload, toProgram_eq_operation_iff payload⟩

/-- A tag that is a list is an unknown tag, and yet it is not refused. -/
theorem list_tag_is_not_refused :
    ¬ IsProgram (fun _ => True) (.list [.object [("op", .list [])]]) ∧
    toProgram (.list [.object [("op", .list [])]]) = .error (.operation (.unhashable .list)) ∧
    (PayloadError.operation (.unhashable .list)).isRefusal = false := by
  refine ⟨?_, rfl, rfl⟩
  rintro ⟨hitems⟩
  obtain ⟨t, ht⟩ := (hitems _ (List.mem_singleton_self _)).exists_tag
  cases ht

end Payload

end SpriteStage
