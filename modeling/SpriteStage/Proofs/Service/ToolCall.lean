import SpriteStage.Proofs.Client.Delivery
import SpriteStage.Proofs.Program.Grammar
import SpriteStage.Proofs.Service.Answering
import SpriteStage.Proofs.Service.Outcome

/-!
# The statuses of tool calls

What comes of a tool call is told by a table.  Its rows look at the name and the arguments that are given,
and for two of the tools at whether a run owns the playground.  Every call is in a row, and what the row says
comes true, whatever happens to the service later.

## Main definitions

* `Playground.CallRow` is the table, and `Playground.ToolRow` the part of it that is about known tools
* `Verdict.Holds` is what the verdict of a row means

## Main results

* `Playground.tool_call_meets_its_row`
-/

namespace SpriteStage

/-- What comes of a tool call. -/
inductive Verdict where
  /-- It is answered at once, with a status. -/
  | answered (status : ℕ)
  /-- It is answered at once with what the playground shows. -/
  | shown
  /-- It starts a run, and is answered with the result. -/
  | run
  /-- It is not answered at all. -/
  | unanswered
  deriving DecidableEq, Repr

/-- What a call is given for arguments stands for these fields: those of an object, or none if what is given
    counts as false. -/
def Value.StandsFor (given : Value) (arguments : List (String × Value)) : Prop :=
  given = .object arguments ∨ given.isTruthy = false ∧ arguments = []

open Payload (IsProgram Stumbles)

/-- The arguments call for a run: the instructions are a program, or there are none, and the source, if it
    is given, is a text. -/
def CallsForRun (arguments : List (String × Value)) : Prop :=
  (∃ payload, Value.field? "instructions" arguments = some payload ∧
    IsProgram (fun _ => True) payload ∧ ∀ error, ¬ Stumbles error payload) ∨
  Value.field? "instructions" arguments = none ∧
    ∀ source, Value.field? "source" arguments = some source → source = .null ∨ ∃ text, source = .text text

namespace Playground

/-- The rows of a tool: its arguments, whether a run owns the playground, and the verdict. -/
inductive ToolRow (p : Playground) (arguments : List (String × Value)) : Tool → Verdict → Prop where
  | badSource {source : Value} (hinstructions : Value.field? "instructions" arguments = none)
      (hsource : Value.field? "source" arguments = some source) (hnull : source ≠ .null)
      (htext : ∀ text, source ≠ .text text) : ToolRow p arguments .runProgram (.answered 400)
  | badInstructions {payload : Value} (hpayload : Value.field? "instructions" arguments = some payload)
      (hgrammar : ¬ IsProgram (fun _ => True) payload) (hnot : ∀ error, ¬ Stumbles error payload) :
      ToolRow p arguments .runProgram (.answered 400)
  | stumbled {payload : Value} {error : OperationError}
      (hpayload : Value.field? "instructions" arguments = some payload)
      (hstumbles : Stumbles error payload) : ToolRow p arguments .runProgram .unanswered
  | busy (hrun : CallsForRun arguments) (hactive : p.active ≠ none) :
      ToolRow p arguments .runProgram (.answered 409)
  | run (hrun : CallsForRun arguments) (hidle : p.active = none) : ToolRow p arguments .runProgram .run
  | unknownSample {title : String}
      (htitle : ((Value.field? "title" arguments).getD (.text "")).plain = .ok title)
      (hsample : Sample.find? title = none) : ToolRow p arguments .loadSample (.answered 404)
  | busyForSample {title : String} {sample : Sample}
      (htitle : ((Value.field? "title" arguments).getD (.text "")).plain = .ok title)
      (hsample : Sample.find? title = some sample) (hactive : p.active ≠ none) :
      ToolRow p arguments .loadSample (.answered 409)
  | sample {title : String} {sample : Sample}
      (htitle : ((Value.field? "title" arguments).getD (.text "")).plain = .ok title)
      (hsample : Sample.find? title = some sample) (hidle : p.active = none) :
      ToolRow p arguments .loadSample .shown
  | reset : ToolRow p arguments .resetStage (.answered 200)
  | state : ToolRow p arguments .getState .shown

/-- The rows of the table: the name and what is given for arguments, and the verdict. -/
inductive CallRow (p : Playground) (given : Value) : Value → Verdict → Prop where
  | badArguments (name : Value) (htruthy : given.isTruthy = true)
      (hobject : ∀ fields, given ≠ .object fields) : CallRow p given name (.answered 400)
  | unknownTool {name : Value} {arguments : List (String × Value)} (hgiven : given.StandsFor arguments)
      (hname : ∀ tool : Tool, name ≠ .text tool.name) : CallRow p given name (.answered 404)
  | tool {tool : Tool} {arguments : List (String × Value)} {verdict : Verdict}
      (hgiven : given.StandsFor arguments) (hrow : p.ToolRow arguments tool verdict) :
      CallRow p given (.text tool.name) verdict

end Playground

/-- What a verdict about a request means.  A playground is shown if what its sprite says can be written, and
    so is a result, if its number has a text.  There is an answer to a run as soon as its sleeps have ended,
    unless it is given up. -/
def Verdict.Holds (p : Playground) (r : Request) : Verdict → Prop
  | .answered status => ∀ later, ∃ a, p.answer? r later = some a ∧ a.status? = some status
  | .shown => ∀ later, ∃ a, p.answer? r later = some a ∧
      a.SentIf ((p.attend (.request r)).sprite.speech.isShowable = true)
  | .run =>
    (∀ later a, p.answer? r later = some a → ∃ result, a = .ofResult result ∧
      a.SentIf ((Decimal.digitsOf p.nextId.natAbs).length ≤ digitLimit ∧
        ∀ s ∈ result.outcome.sprite?, s.speech.isShowable = true)) ∧
    ∀ later, .cancel p.nextId ∉ later →
      ∃ n, (p.answer? r (later ++ List.replicate n (.wake p.nextId .elapsed))).isSome = true
  | .unanswered => ∀ later, ∃ a, p.answer? r later = some a ∧ a.status? = none

/-! ## What calls ask for -/

namespace Value.StandsFor

variable {given : Value} {arguments : List (String × Value)}

/-- What is given is handed on as an object. -/
theorem ite_isTruthy (h : given.StandsFor arguments) :
    (if given.isTruthy then given else .object []) = .object arguments := by
  rcases h with rfl | ⟨hfalse, rfl⟩
  · cases arguments <;> rfl
  · rw [hfalse]
    rfl

theorem isShort (h : given.StandsFor arguments) (hshort : given.isShort = true) :
    Value.areShortFields arguments = true := by
  rcases h with rfl | ⟨-, rfl⟩
  · exact hshort
  · rfl

end Value.StandsFor

namespace Action

variable {arguments : List (String × Value)} {payload : Value}

/-- A name that no tool has is refused, if it has a text. -/
theorem exists_ofTool_eq_refuse {name : Value} (hshort : name.isShort = true)
    (hname : ∀ tool : Tool, name ≠ .text tool.name) :
    ∃ shown, ofTool name (.object arguments) = .refuse (.unknownTool shown) := by
  obtain ⟨shown, hshown⟩ := Value.exists_plain hshort
  have hunknown : ofUnknownName name = .refuse (.unknownTool shown) := by rw [ofUnknownName, hshown]
  refine ⟨shown, ?_⟩
  cases name with
  | text s =>
    -- Another value than a text is no name in the first place.
    have hnone : Tool.ofName? s = none := by
      cases htool : Tool.ofName? s with
      | none => rfl
      | some tool =>
        have hs : tool.name = s := by simpa using List.find?_some htool
        exact absurd (congrArg Value.text hs.symm) (hname tool)
    rw [ofTool, hnone]
    exact hunknown
  | _ => exact hunknown

theorem ofTool_of_not_object {name given : Value} (h : ∀ fields, given ≠ .object fields) :
    ofTool name given = .refuse .badArguments := by
  cases given with
  | object fields => exact absurd rfl (h fields)
  | _ => rfl

theorem ofRun_of_instructions (h : Value.field? "instructions" arguments = some payload) :
    ofRun arguments = ofInstructions payload := by
  rw [ofRun, h]

theorem ofInstructions_of_stumbles {error : OperationError} (h : Stumbles error payload) :
    ofInstructions payload = .fail error := by
  rw [ofInstructions, (Payload.toProgram_eq_operation_iff payload error).2 h]

theorem exists_ofInstructions_eq_refuse (hgrammar : ¬ IsProgram (fun _ => True) payload)
    (hnot : ∀ error, ¬ Stumbles error payload) :
    ∃ e, ofInstructions payload = .refuse (.badProgram e) := by
  obtain ⟨e, he, hrefusal⟩ := (Payload.exists_refusal_iff payload).2 ⟨hgrammar, hnot⟩
  refine ⟨e, ?_⟩
  rw [ofInstructions, he]
  cases e with
  | operation error => cases hrefusal
  | _ => rfl

/-- Arguments that call for a run start one. -/
theorem exists_ofRun_eq_run (h : CallsForRun arguments) : ∃ program, ofRun arguments = .run program := by
  rcases h with ⟨payload, hpayload, hgrammar⟩ | ⟨hinstructions, hsource⟩
  · obtain ⟨p, hp⟩ := (Payload.exists_toProgram_iff payload).2 hgrammar
    exact ⟨some (.program p), by rw [ofRun_of_instructions hpayload, ofInstructions, hp]⟩
  · rw [ofRun, hinstructions]
    cases hgiven : Value.field? "source" arguments with
    | none => exact ⟨none, rfl⟩
    | some source =>
      rcases hsource source hgiven with rfl | ⟨text, rfl⟩
      · exact ⟨none, rfl⟩
      · exact ⟨some (.text text), rfl⟩

theorem ofRun_of_badSource {source : Value} (hinstructions : Value.field? "instructions" arguments = none)
    (hsource : Value.field? "source" arguments = some source) (hnull : source ≠ .null)
    (htext : ∀ text, source ≠ .text text) : ofRun arguments = .refuse .badSource := by
  rw [ofRun, hinstructions, hsource]
  cases source with
  | null => exact absurd rfl hnull
  | text text => exact absurd rfl (htext text)
  | _ => rfl

theorem ofTitle_of_plain {title : String}
    (h : ((Value.field? "title" arguments).getD (.text "")).plain = .ok title) :
    ofTitle arguments = .loadSample title := by
  rw [ofTitle, h]

end Action

/-- The values in a request have been read, so their integers are short. -/
theorem Request.isShort_of_field {r : Request} {fields : List (String × Value)} (h : r.fields = .ok fields)
    (key : String) : ((Value.field? key fields).getD .null).isShort = true := by
  have hshort : Value.areShortFields fields = true := by
    rcases read_of_fields h with rfl | ⟨text, hread⟩
    · rfl
    · exact Json.isShort_of_read hread
  cases hfield : Value.field? key fields with
  | none => rfl
  | some v => exact (Value.areShortFields_iff _).1 hshort _ (Value.mem_of_field? hfield)

/-! ## Verdicts that hold -/

namespace Verdict

variable {p q : Playground} {r : Request}

/-- A refusal is answered with its status. -/
theorem holds_of_refusal? {refusal : Refusal} (h : p.refusal? r.action = some refusal) :
    Holds p r (.answered refusal.status) := by
  intro later
  have hhandle : p.handle r = (p, .answer (.ofRefusal refusal)) := Playground.perform_of_refusal? h
  exact ⟨_, Playground.answer?_of_reply (by rw [hhandle]) later, Answer.status?_ofRefusal refusal⟩

theorem holds_of_refuse {refusal : Refusal} (h : r.action = .refuse refusal) :
    Holds p r (.answered refusal.status) := by
  apply holds_of_refusal?
  rw [h]
  rfl

/-- What a request has done is shown. -/
theorem holds_of_handle (hspeaks : q.sprite.Speaks fun _ => True)
    (h : p.handle r = (q, .answer q.stateResponse)) : Holds p r .shown := by
  intro later
  obtain ⟨-, line, hlogged⟩ := hspeaks
  have hattend : p.attend (.request r) = q := by rw [Playground.attend, h]
  refine ⟨_, Playground.answer?_of_reply (by rw [h]) later, ?_⟩
  rw [hattend]
  exact Answer.sentIf_ofPayload (Playground.isServed_stateResponse hlogged)

theorem holds_of_fail {error : OperationError} (h : r.action = .fail error) : Holds p r .unanswered := by
  intro later
  have hhandle : (p.handle r).2 = .answer (.error (.operation error)) := by
    rw [Playground.handle, h]
    rfl
  exact ⟨_, Playground.answer?_of_reply hhandle later, rfl⟩

/-- A reset is always shown, because nothing is said after it. -/
theorem holds_of_reset (h : r.action = .reset) : Holds p r (.answered 200) := by
  have hhandle : p.handle r = (p.reset, .answer p.reset.stateResponse) := by
    rw [Playground.handle, h]
    rfl
  have hshown := holds_of_handle ⟨trivial, "None", rfl⟩ hhandle
  intro later
  obtain ⟨a, ha, hsent⟩ := hshown later
  have hattend : p.attend (.request r) = p.reset := by rw [Playground.attend, hhandle]
  exact ⟨a, ha, hsent.sent (by rw [hattend]; rfl)⟩

end Verdict

namespace Playground

variable {p : Playground} {l : Ledger} {r : Request} {arguments : List (String × Value)}

/-- While a run owns the playground, no sample is loaded. -/
theorem refusal?_loadSample_of_active {title : String} {sample : Sample} {runId : Int}
    (hsample : Sample.find? title = some sample) (hactive : p.active = some runId) :
    p.refusal? (.loadSample title) = some (.playground (.busy runId)) := by
  simp [refusal?, loadSample, requireIdle, hsample, hactive, bind, Except.bind]

theorem refusal?_loadSample_of_unknown {title : String} (hsample : Sample.find? title = none) :
    p.refusal? (.loadSample title) = some (.playground (.unknownSample title)) := by
  simp [refusal?, loadSample, hsample, throw, throwThe, MonadExceptOf.throw]

/-- **The row of a tool comes true.** -/
theorem ToolRow.holds (hl : Accounts none p l) (hspeaks : p.sprite.Speaks fun _ => True) {tool : Tool}
    {verdict : Verdict} (hrow : p.ToolRow arguments tool verdict)
    (haction : r.action = .ofCall tool arguments) : verdict.Holds p r := by
  cases hrow with
  | badSource hinstructions hsource hnull htext =>
    exact Verdict.holds_of_refuse
      (haction.trans (Action.ofRun_of_badSource hinstructions hsource hnull htext))
  | badInstructions hpayload hgrammar hnot =>
    obtain ⟨e, he⟩ := Action.exists_ofInstructions_eq_refuse hgrammar hnot
    exact Verdict.holds_of_refuse ((haction.trans (Action.ofRun_of_instructions hpayload)).trans he)
  | stumbled hpayload hstumbles =>
    exact Verdict.holds_of_fail ((haction.trans (Action.ofRun_of_instructions hpayload)).trans
      (Action.ofInstructions_of_stumbles hstumbles))
  | busy hrun hactive =>
    obtain ⟨program, hprogram⟩ := Action.exists_ofRun_eq_run hrun
    obtain ⟨runId, hrunId⟩ := Option.ne_none_iff_exists'.1 hactive
    have hrefusal : p.refusal? r.action = some (.playground (.busy runId)) := by
      rw [haction.trans hprogram, refusal?, hrunId]
      rfl
    exact Verdict.holds_of_refusal? hrefusal
  | run hrun hidle =>
    obtain ⟨program, hprogram⟩ := Action.exists_ofRun_eq_run hrun
    have hstarts := haction.trans hprogram
    exact ⟨fun later a => sentIf_of_run hl hidle hstarts,
      fun later => exists_answer?_of_run hl hidle hstarts⟩
  | unknownSample htitle hsample =>
    have hrefusal := refusal?_loadSample_of_unknown (p := p) hsample
    rw [← haction.trans (Action.ofTitle_of_plain htitle)] at hrefusal
    exact Verdict.holds_of_refusal? hrefusal
  | busyForSample htitle hsample hactive =>
    obtain ⟨runId, hrunId⟩ := Option.ne_none_iff_exists'.1 hactive
    have hrefusal := refusal?_loadSample_of_active hsample hrunId
    rw [← haction.trans (Action.ofTitle_of_plain htitle)] at hrefusal
    exact Verdict.holds_of_refusal? hrefusal
  | sample htitle hsample hidle =>
    -- The sprite is the one from before.
    have hload := loadSample_of_idle hidle hsample
    refine Verdict.holds_of_handle ?_ (by
      rw [handle, haction.trans (Action.ofTitle_of_plain htitle), perform, performWith, hload])
    exact hspeaks
  | reset => exact Verdict.holds_of_reset haction
  | state =>
    refine Verdict.holds_of_handle hspeaks ?_
    rw [handle, haction]
    rfl

/-- Every call of a tool is in a row, since the titles of samples are written as texts. -/
theorem exists_toolRow (p : Playground) (tool : Tool) (hshort : Value.areShortFields arguments = true) :
    ∃ verdict, p.ToolRow arguments tool verdict := by
  cases tool with
  | resetStage => exact ⟨_, .reset⟩
  | getState => exact ⟨_, .state⟩
  | loadSample =>
    obtain ⟨title, htitle⟩ : ∃ title,
        ((Value.field? "title" arguments).getD (.text "")).plain = .ok title := by
      cases hfield : Value.field? "title" arguments with
      | none => exact ⟨"", rfl⟩
      | some v =>
        exact Value.exists_plain ((Value.areShortFields_iff _).1 hshort _ (Value.mem_of_field? hfield))
    cases hsample : Sample.find? title with
    | none => exact ⟨_, .unknownSample htitle hsample⟩
    | some sample =>
      by_cases hidle : p.active = none
      · exact ⟨_, .sample htitle hsample hidle⟩
      · exact ⟨_, .busyForSample htitle hsample hidle⟩
  | runProgram =>
    have hcalls (hrun : CallsForRun arguments) : ∃ verdict, p.ToolRow arguments .runProgram verdict := by
      by_cases hidle : p.active = none
      · exact ⟨_, .run hrun hidle⟩
      · exact ⟨_, .busy hrun hidle⟩
    -- Instructions come first: the source is looked at only if there are none.
    cases hinstructions : Value.field? "instructions" arguments with
    | some payload =>
      by_cases hstumbles : ∃ error, Stumbles error payload
      · obtain ⟨error, hstumbles⟩ := hstumbles
        exact ⟨_, .stumbled hinstructions hstumbles⟩
      have hnot := not_exists.1 hstumbles
      by_cases hgrammar : IsProgram (fun _ => True) payload
      · exact hcalls (.inl ⟨payload, hinstructions, hgrammar, hnot⟩)
      · exact ⟨_, .badInstructions hinstructions hgrammar hnot⟩
    | none =>
      by_cases hsource : ∀ source, Value.field? "source" arguments = some source →
          source = .null ∨ ∃ text, source = .text text
      · exact hcalls (.inr ⟨hinstructions, hsource⟩)
      · push Not at hsource
        obtain ⟨source, hgiven, hnull, htext⟩ := hsource
        exact ⟨_, .badSource hinstructions hgiven hnull htext⟩

/-- **The row of a call comes true.** -/
theorem CallRow.holds (hl : Accounts none p l) (hspeaks : p.sprite.Speaks fun _ => True)
    {name given : Value} (hname : name.isShort = true) {verdict : Verdict}
    (hrow : p.CallRow given name verdict)
    (haction : r.action = .ofTool name (if given.isTruthy then given else .object [])) :
    verdict.Holds p r := by
  cases hrow with
  | badArguments name htruthy hobject =>
    rw [if_pos htruthy, Action.ofTool_of_not_object hobject] at haction
    exact Verdict.holds_of_refuse haction
  | unknownTool hgiven hunknown =>
    obtain ⟨shown, hrefuse⟩ := Action.exists_ofTool_eq_refuse hname hunknown
    rw [hgiven.ite_isTruthy, hrefuse] at haction
    exact Verdict.holds_of_refuse haction
  | tool hgiven hrow =>
    rw [hgiven.ite_isTruthy, Action.ofTool_name] at haction
    exact hrow.holds hl hspeaks haction

/-- Every call is in a row. -/
theorem exists_callRow (p : Playground) {given : Value} (name : Value) (hshort : given.isShort = true) :
    ∃ verdict, p.CallRow given name verdict := by
  -- Either what is given is no object and counts as true, or it stands for some arguments.
  by_cases hbad : given.isTruthy = true ∧ ∀ fields, given ≠ .object fields
  · exact ⟨_, .badArguments name hbad.1 hbad.2⟩
  obtain ⟨arguments, hgiven⟩ : ∃ arguments, given.StandsFor arguments := by
    by_cases htruthy : given.isTruthy = true
    · simp only [htruthy, true_and, not_forall, not_not] at hbad
      exact hbad.imp fun _ => .inl
    · exact ⟨[], .inr ⟨by simpa using htruthy, rfl⟩⟩
  by_cases hname : ∃ tool : Tool, name = .text tool.name
  · obtain ⟨tool, rfl⟩ := hname
    obtain ⟨verdict, hrow⟩ := p.exists_toolRow tool (hgiven.isShort hshort)
    exact ⟨verdict, .tool hgiven hrow⟩
  · exact ⟨_, .unknownTool hgiven (not_exists.1 hname)⟩

/-- **Every tool call is in a row of the table, and its verdict holds**, in every playground that is reached.
    The status of the answer follows from the name, from what is given for arguments, and from whether a run
    owns the playground. -/
theorem tool_call_meets_its_row (config : StageConfig) (first : Int) (history : List Service.Event)
    {r : Request} {fields : List (String × Value)} (hmethod : r.method = .post)
    (hpath : r.path = "/tools/call") (hfields : r.fields = .ok fields) :
    let p := ({ config := config, nextId := first } : Playground).attendAll history
    let name := (Value.field? "name" fields).getD .null
    let given := (Value.field? "arguments" fields).getD .null
    (∃ verdict, p.CallRow given name verdict) ∧
      ∀ verdict, p.CallRow given name verdict → verdict.Holds p r := by
  intro p name given
  obtain ⟨l, hl⟩ := exists_accounts_attendAll config first history
  have hspeaks := speaks_attendAll config first history
  have hshort (key : String) : ((Value.field? key fields).getD .null).isShort = true :=
    Request.isShort_of_field hfields key
  have haction : r.action = .ofTool name (if given.isTruthy then given else .object []) := by
    simp [Request.action, hmethod, hfields, Request.call, hpath, name, given]
  exact ⟨p.exists_callRow name (hshort "arguments"),
    fun verdict hrow => hrow.holds hl hspeaks (hshort "name") haction⟩

/-- While a run sleeps, a call with instructions is refused with a conflict, whatever happens later. -/
theorem tool_call_meets_its_row_of_busy :
    let wait : Service.Event := .request
      { method := .post, path := "/run", contentLength := some "48"
        body := Text.encodeUtf8 "\x7b\"instructions\": [\x7b\"op\": \"wait\", \"seconds\": 1\x7d]\x7d" }
    let text := "\x7b\"name\": \"run_program\", \"arguments\": " ++
      "\x7b\"instructions\": [\x7b\"op\": \"fail\"\x7d]\x7d\x7d"
    let r : Request :=
      { method := .post, path := "/tools/call", contentLength := some "72", body := Text.encodeUtf8 text }
    let p := ({} : Playground).attendAll [wait]
    p.active = some 1 ∧ ∀ later, ∃ a, p.answer? r later = some a ∧ a.status? = some 409 := by
  intro wait text r p
  have hactive : p.active = some 1 := by decide +kernel
  have hbytes : r.bytes = .ok (Text.encodeUtf8 text) :=
    Request.bytes_of_length (n := 72) (by decide +kernel) (by decide +kernel)
  have hprint : Json.print {} (.object [("name", .text "run_program"),
      ("arguments", .object [("instructions", .list [.object [("op", .text "fail")]])])]) = .ok text := by
    decide +kernel
  have hfields := Request.fields_of_bytes (by decide +kernel) hbytes
    (Json.read_print_unsorted rfl (by decide +kernel) hprint)
  have hgrammar := (Payload.exists_toProgram_iff (.list [.object [("op", .text "fail")]])).1 ⟨_, rfl⟩
  have hrow : p.CallRow (.object [("instructions", .list [.object [("op", .text "fail")]])])
      (.text Tool.runProgram.name) (.answered 409) :=
    .tool (.inl rfl) (.busy (.inl ⟨_, rfl, hgrammar⟩) (by simp [hactive]))
  exact ⟨hactive, (tool_call_meets_its_row {} 1 [wait] rfl rfl hfields).2 _ hrow⟩

/-- A call with a list for a tag is not answered at all, and an empty list passes for arguments. -/
theorem list_tag_is_not_answered :
    let tagged : Request :=
      { method := .post, path := "/tools/call", contentLength := some "68"
        body := Text.encodeUtf8 ("\x7b\"name\": \"run_program\", \"arguments\": " ++
          "\x7b\"instructions\": [\x7b\"op\": []\x7d]\x7d\x7d") }
    let listed : Request :=
      { method := .post, path := "/tools/call", contentLength := some "38"
        body := Text.encodeUtf8 "\x7b\"name\": \"get_state\", \"arguments\": []\x7d" }
    (({} : Playground).answer? tagged []).map Answer.status? = some none ∧
      (({} : Playground).answer? listed []).map Answer.status? = some (some 200) := by
  decide +kernel

end Playground

end SpriteStage
