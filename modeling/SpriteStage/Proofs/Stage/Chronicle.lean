import SpriteStage.Proofs.Stage.Change
import SpriteStage.Proofs.Json.Writing

/-!
# What a stage records

Every operation either fails and leaves the stage as it is, or it logs one line and changes what it is
meant to change.  The first part rests on the order in which an operation does its work: once it has
changed the stage, its line can be written, because an argument that has passed the arithmetic has a
text.  Only what is said passes no arithmetic; there the integers must be short enough.

## Main definitions

* `Value.isShort` holds of values whose integers have no more digits than the limit
* `Stage.Follows` relates a stage to the one after a successful call
* `Stage.Records` relates a stage to the successful calls on it

## Main results

* `Stage.perform_cases` is what one call does
* `Stage.records_after` is what any calls have left
-/

namespace SpriteStage

/-! ## Values that have a text -/

mutual

/-- Whether the integers in a value have no more digits than the limit. -/
def Value.isShort : Value → Bool
  | .int n => (Decimal.digitsOf n.natAbs).length ≤ digitLimit
  | .list items => Value.areShort items
  | .object fields => Value.areShortFields fields
  | .null | .bool _ | .float _ | .text _ => true

/-- Whether the integers in some values have no more digits than the limit. -/
def Value.areShort : List Value → Bool
  | [] => true
  | v :: rest => v.isShort && Value.areShort rest

/-- Whether the integers in the values of some fields have no more digits than the limit. -/
def Value.areShortFields : List (String × Value) → Bool
  | [] => true
  | (_, v) :: rest => v.isShort && Value.areShortFields rest

end

namespace Value

mutual

/-- A value whose integers are short has a text. -/
theorem exists_quoted : ∀ v : Value, v.isShort = true → ∃ text, v.quoted = .ok text
  | .null, _ => ⟨_, rfl⟩
  | .bool _, _ => ⟨_, rfl⟩
  | .float _, _ => ⟨_, rfl⟩
  | .text _, _ => ⟨_, rfl⟩
  | .int n, h => exists_integerText_iff.2 (of_decide_eq_true h)
  | .list items, h => by
    obtain ⟨texts, htexts⟩ := exists_quotedItems items h
    exact ⟨_, by rw [quoted, htexts]; rfl⟩
  | .object fields, h => by
    obtain ⟨texts, htexts⟩ := exists_quotedFields fields h
    exact ⟨_, by rw [quoted, htexts]; rfl⟩

theorem exists_quotedItems : ∀ items : List Value, areShort items = true →
    ∃ texts, quotedItems items = .ok texts
  | [], _ => ⟨_, rfl⟩
  | v :: rest, h => by
    rw [areShort, Bool.and_eq_true] at h
    obtain ⟨head, hhead⟩ := exists_quoted v h.1
    obtain ⟨texts, htexts⟩ := exists_quotedItems rest h.2
    exact ⟨_, by rw [quotedItems, hhead, htexts]; rfl⟩

theorem exists_quotedFields : ∀ fields : List (String × Value), areShortFields fields = true →
    ∃ texts, quotedFields fields = .ok texts
  | [], _ => ⟨_, rfl⟩
  | (key, v) :: rest, h => by
    rw [areShortFields, Bool.and_eq_true] at h
    obtain ⟨head, hhead⟩ := exists_quoted v h.1
    obtain ⟨texts, htexts⟩ := exists_quotedFields rest h.2
    exact ⟨_, by rw [quotedFields, hhead, htexts]; rfl⟩

end

theorem exists_logged {v : Value} (h : v.isShort = true) : ∃ text, v.logged = .ok text := by
  cases v with
  | bool b => exact ⟨_, rfl⟩
  | float x => exact ⟨_, rfl⟩
  | text s => exact ⟨_, rfl⟩
  | _ => exact exists_quoted _ h

/-! ## Numbers as arguments -/

/-- A widened value that counts as a number is a truth value or a double. -/
theorem widen_cases {v : Value} {n : Number} (h : v.widen.number? = some n) :
    (∃ b, v.widen = .bool b) ∨ ∃ x, v.widen = .float x := by
  cases v with
  | bool b => exact .inl ⟨b, rfl⟩
  | int k => exact .inr ⟨_, rfl⟩
  | float x => exact .inr ⟨x, rfl⟩
  | _ => cases h

/-- What comes of repetition is a text or a list. -/
theorem number?_of_applyOther {l r v : Value} (h : applyOther .mul l r = .ok v) : v.number? = none := by
  unfold applyOther at h
  split at h <;> first
    | obtain ⟨k, -, rfl⟩ := exists_of_map_eq_ok h
      rfl
    | cases h <;> rfl

/-- If a product counts as a number, so does its first factor. -/
theorem exists_number_of_mul {l r v : Value} {n : Number} (h : apply .mul l r = .ok v)
    (hv : v.number? = some n) : ∃ a, l.number? = some a := by
  rw [apply] at h
  split at h
  · rename_i a b ha hb
    exact ⟨a, ha⟩
  · rw [number?_of_applyOther h] at hv
    cases hv

/-- A number can be compared with an integer. -/
theorem holds_int {v : Value} {n : Number} (h : v.number? = some n) (c : Comparison) (k : Int) :
    holds c v (.int k) = .ok (Number.compare? n (.int k) == some c.ordering) := by
  cases v with
  | bool _ | int _ | float _ =>
    cases h
    rfl
  | null | text _ | list _ | object _ => cases h

/-- The magnitude of a widened number has a text. -/
theorem exists_logged_magnitude {v : Value} {n : Number} (h : v.widen.number? = some n) :
    ∃ w text, v.widen.magnitude = .ok w ∧ w.logged = .ok text := by
  rcases widen_cases h with ⟨b, hb⟩ | ⟨x, hx⟩
  · rw [hb]
    cases b <;> exact ⟨_, _, rfl, rfl⟩
  · rw [hx]
    exact ⟨_, _, rfl, rfl⟩

end Value

namespace Stage

theorem exists_number_of_times {x y : Float} {v : Value} (h : times x v = .ok y) :
    ∃ n, v.number? = some n := by
  cases v with
  | bool _ | int _ | float _ => exact ⟨_, rfl⟩
  | null | text _ | list _ | object _ => cases h

theorem exists_number_of_plus {x y : Float} {v : Value} (h : plus x v = .ok y) :
    ∃ n, v.number? = some n := by
  cases v with
  | bool _ | int _ | float _ => exact ⟨_, rfl⟩
  | null | text _ | list _ | object _ => cases h

/-! ## One call -/

variable {config : StageConfig} {op : Operation} {argument : Value} {s t : Stage}

/-- After the change of an operation its line can be written. -/
theorem exists_line (hshort : argument.isShort = true) (h : change config op argument s = .ok t) :
    ∃ text, line op argument = .ok text := by
  cases op with
  | move =>
    obtain ⟨position, hposition, -⟩ := exists_of_map_eq_ok h
    obtain ⟨distance, hdistance, hrest⟩ := exists_of_bind_eq_ok hposition
    obtain ⟨cosine, -, hrest⟩ := exists_of_bind_eq_ok hrest
    obtain ⟨dx, hdx, -⟩ := exists_of_bind_eq_ok hrest
    -- The distance has been used as a number, so the steps are one: repetition would give a text or a list.
    obtain ⟨n, hn⟩ := exists_number_of_times hdx
    obtain ⟨a, ha⟩ := Value.exists_number_of_mul hdistance hn
    rcases Value.widen_cases ha with ⟨b, hb⟩ | ⟨x, hx⟩
    · exact ⟨_, by rw [line, hb]; rfl⟩
    · exact ⟨_, by rw [line, hx]; rfl⟩
  | turn =>
    obtain ⟨d, hd, -⟩ := exists_of_map_eq_ok h
    obtain ⟨n, hn⟩ := exists_number_of_plus hd
    obtain ⟨w, text, hw, htext⟩ := Value.exists_logged_magnitude hn
    obtain ⟨isRight, hright⟩ : ∃ isRight, Value.holds .greater argument.widen (.int 0) = .ok isRight :=
      ⟨_, Value.holds_int hn _ _⟩
    simp only [line, hright, hw, htext, bind, Except.bind, pure, Except.pure, Except.ok.injEq,
      exists_eq']
  | say =>
    -- Only here does the length of integers matter, for nothing has been made of the argument.
    obtain ⟨text, htext⟩ := Value.exists_logged hshort
    exact ⟨_, by rw [line, htext]; rfl⟩
  | wait =>
    obtain ⟨length, hlength, -⟩ := exists_of_map_eq_ok h
    exact ⟨_, by rw [line, hlength]; rfl⟩

/-- With a double as scale, an operation that has changed the stage does not fail over its delay. -/
theorem exists_delay {scale : Float} (hscale : config.waitScale = .float scale)
    (h : change config op argument s = .ok t) : ∃ delay, Stage.delay config op argument = .ok delay := by
  cases op with
  | wait =>
    obtain ⟨seconds, hseconds, -⟩ := exists_of_map_eq_ok h
    exact ⟨_, delay_wait config hscale hseconds⟩
  | _ => exact ⟨none, rfl⟩

/-- What a successful call does to a stage: it logs one line, and each part of the sprite changes only by
    the operation that is meant to change it. -/
structure Follows (op : Operation) (argument : Value) (s t : Stage) : Prop where
  log : ∃ text, t.log = s.log.push text
  trail : t.sprite.trail =
    if op = .move then s.sprite.trail.push ⟨t.sprite.x, t.sprite.y⟩ else s.sprite.trail
  position : op ≠ .move → t.sprite.x = s.sprite.x ∧ t.sprite.y = s.sprite.y
  direction : op ≠ .turn → t.sprite.direction = s.sprite.direction
  speech : t.sprite.speech = if op = .say then argument else s.sprite.speech

theorem follows_change (h : change config op argument s = .ok t) (text : String) :
    Follows op argument s (t.logging text) := by
  cases op with
  | move =>
    obtain ⟨position, -, rfl⟩ := exists_of_map_eq_ok h
    exact ⟨⟨text, rfl⟩, rfl, fun hne => absurd rfl hne, fun _ => rfl, rfl⟩
  | turn =>
    obtain ⟨direction, -, rfl⟩ := exists_of_map_eq_ok h
    exact ⟨⟨text, rfl⟩, rfl, fun _ => ⟨rfl, rfl⟩, fun hne => absurd rfl hne, rfl⟩
  | say =>
    cases h
    exact ⟨⟨text, rfl⟩, rfl, fun _ => ⟨rfl, rfl⟩, fun _ => rfl, rfl⟩
  | wait =>
    obtain ⟨seconds, -, rfl⟩ := exists_of_map_eq_ok h
    exact ⟨⟨text, rfl⟩, rfl, fun _ => ⟨rfl, rfl⟩, fun _ => rfl, rfl⟩

/-- **A call either fails and leaves the stage, or it succeeds and does what it is meant to do.** -/
theorem perform_cases {scale : Float} (hscale : config.waitScale = .float scale) (op : Operation)
    (hshort : argument.isShort = true) (s : Stage) :
    (∃ e, s.perform config op argument = (.error e, s)) ∨
      ∃ delay t, s.perform config op argument = (.ok delay, t) ∧ Follows op argument s t := by
  rw [perform_eq]
  cases hchange : change config op argument s with
  | error e => exact .inl ⟨e, rfl⟩
  | ok t =>
    obtain ⟨text, htext⟩ := exists_line hshort hchange
    obtain ⟨delay, hdelay⟩ := exists_delay hscale hchange
    exact .inr ⟨delay, t.logging text, by simp only [htext, hdelay], follows_change hchange text⟩

/-! ## Any number of calls -/

/-- The calls among some that succeed, each on the stage that the ones before it have left. -/
def successful (config : StageConfig) : List (Operation × Value) → Stage → List (Operation × Value)
  | [], _ => []
  | call :: calls, s =>
    let (outcome, t) := s.perform config call.1 call.2
    if outcome.isOk then call :: successful config calls t else successful config calls t

/-- What a stage has recorded of the calls that have succeeded on it: a line for each of them, a point for
    each move after the origin, up to where the sprite is, and what was said last. -/
structure Records (done : List (Operation × Value)) (s : Stage) : Prop where
  size_log : s.log.size = done.length
  origin : s.sprite.trail[0]? = some ⟨0.0, 0.0⟩
  size_trail : s.sprite.trail.size = 1 + done.countP (·.1 = .move)
  position : s.sprite.trail.back? = some ⟨s.sprite.x, s.sprite.y⟩
  speech : s.sprite.speech = ((done.reverse.find? (·.1 = .say)).map (·.2)).getD .null

theorem Records.fresh : Records [] {} := ⟨rfl, rfl, rfl, rfl, rfl⟩

theorem Records.step {done : List (Operation × Value)} (hs : Records done s)
    (h : Follows op argument s t) : Records (done ++ [(op, argument)]) t := by
  obtain ⟨text, hlog⟩ := h.log
  have hpos : 0 < s.sprite.trail.size := by
    rw [hs.size_trail]
    omega
  constructor
  · simp [hlog, hs.size_log]
  · -- A point at the end of the trail does not change its beginning.
    rw [h.trail]
    split
    · rw [Array.getElem?_push_lt hpos, ← Array.getElem?_eq_getElem hpos, hs.origin]
    · exact hs.origin
  · rw [h.trail]
    by_cases hop : op = .move <;> simp [hop, hs.size_trail]
    omega
  · rw [h.trail]
    split
    · simp
    · obtain ⟨hx, hy⟩ := h.position ‹_›
      rw [hx, hy, hs.position]
  · rw [h.speech, hs.speech]
    by_cases hop : op = .say <;> simp [hop]

/-- By induction on the calls: a call that succeeds is one more that has been done. -/
theorem records_successful {scale : Float} (hscale : config.waitScale = .float scale)
    {done calls : List (Operation × Value)} (hshort : ∀ call ∈ calls, call.2.isShort = true)
    (hs : Records done s) : Records (done ++ successful config calls s) (after config calls s) := by
  induction calls generalizing s done with
  | nil => simpa [successful, after] using hs
  | cons call calls ih =>
    have hlater : ∀ c ∈ calls, c.2.isShort = true := fun c hc => hshort c (List.mem_cons_of_mem _ hc)
    rw [successful, after, List.foldl_cons, ← after]
    rcases perform_cases hscale call.1 (hshort call (by simp)) s with
      ⟨e, he⟩ | ⟨delay, t, ht, hfollows⟩
    · rw [he]
      exact ih hlater hs
    · rw [ht]
      show Records (done ++ call :: successful config calls t) (after config calls t)
      simpa using ih hlater (hs.step hfollows)

/-- **What a stage records.**  Let a stage scale waits by a double, and make any calls of operations on a
    fresh one, with arguments of any kind whose integers are short.  However many of them fail, the stage
    has logged a line for each call that succeeded; its trail starts at the origin, has one more point for
    each move that succeeded, and ends where the sprite is; and the sprite says what was said last with
    success.  Any further call fails and leaves the stage as it is, or it logs one line, adds to the trail
    and moves the sprite only if it is a move, turns it only if it is a turn, and sets what it says only
    if it says something. -/
theorem records_after {scale : Float} (hscale : config.waitScale = .float scale)
    {calls : List (Operation × Value)} (hshort : ∀ call ∈ calls, call.2.isShort = true) :
    Records (successful config calls {}) (after config calls {}) ∧
      ∀ op argument, argument.isShort = true →
        (∃ e, (after config calls {}).perform config op argument = (.error e, after config calls {})) ∨
          ∃ delay t, (after config calls {}).perform config op argument = (.ok delay, t) ∧
            Follows op argument (after config calls {}) t :=
  ⟨by simpa using records_successful hscale hshort .fresh, fun op _ h => perform_cases hscale op h _⟩

/-- Two of the calls fail, one of them only after its text has been multiplied; the others are recorded. -/
theorem records_after_failed_moves :
    let config : StageConfig := {}
    let calls : List (Operation × Value) := [(.say, .int 7), (.move, .text "ab"), (.turn, .list []),
      (.turn, .float (-90.0)), (.wait, .bool true), (.say, .null), (.move, .float Double.nan)]
    Records [(.say, .int 7), (.turn, .float (-90.0)), (.wait, .bool true), (.say, .null),
      (.move, .float Double.nan)] (after config calls {}) := by
  intro config calls
  have hscale : config.waitScale = .float 0.25 := rfl
  have hshort : ∀ call ∈ calls, call.2.isShort = true := by decide +kernel
  have hdone : successful config calls {} = [(.say, .int 7), (.turn, .float (-90.0)), (.wait, .bool true),
      (.say, .null), (.move, .float Double.nan)] := by
    simp only [calls, successful]
    rw [if_pos (by decide +kernel), if_neg (by decide +kernel), if_neg (by decide +kernel),
      if_pos (by decide +kernel), if_pos (by decide +kernel), if_pos (by decide +kernel),
      if_pos (by decide +kernel)]
  have hrecords := (records_after hscale hshort).1
  rwa [hdone] at hrecords

end Stage

end SpriteStage
