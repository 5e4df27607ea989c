import SpriteStage.Client.Bridge
import SpriteStage.Proofs.Client.Agreement
import SpriteStage.Proofs.Json.Size

/-!
# Bridged tools

A bridge offers all tools of a service, but it passes them on by calls of its own: three of the four go to
other paths than the one for tools.  Nevertheless they ask for the same actions, because an argument that
is not given is left out on either way, and the service finds the others by their keys.

## Main definitions

* `Tool.parameters` are the arguments that a tool takes

## Main results

* `Bridge.action_call?` compares what is asked for
* `Playground.bridged_tool_eq_tool` compares what comes of it
-/

namespace SpriteStage

/-- The arguments that a tool takes. -/
def Tool.parameters : Tool → List String
  | .runProgram => ["source", "instructions"]
  | .loadSample => ["title"]
  | .resetStage | .getState => []

/-! ## What is offered -/

theorem Bridge.map_tool_offers : (Bridge.offers (Tool.all.map Payload.ofTool)).map (·.tool) = Tool.all := by
  decide

/-- A service lists all its tools. -/
theorem Playground.exchange_listTools (a : ServiceAddress) (p : Playground) :
    p.exchange a.text .listTools = (p, .ok (.list (Tool.all.map Payload.ofTool))) := by
  have haction : (Message.request ⟨.get, "/tools", none⟩ a.text).action = .showTools := by
    show Request.lookUp (pathOf _) = _
    rw [a.pathOf_url ⟨.get, "/tools", none⟩ rfl]
    rfl
  obtain ⟨body, hbody⟩ :
      ∃ body, Json.print {} (.object [("tools", .list (Tool.all.map Payload.ofTool))]) = .ok body :=
    ⟨_, rfl⟩
  rw [exchange_eq_serve (rfl : Call.listTools.message = .ok ⟨.get, "/tools", none⟩), serve_eq, haction]
  simp only [respond, Answer.ofOutcome, Answer.ofPayload, hbody]
  rw [Call.ofAnswer, Call.result, ServiceReply.fields_of_success isKeyed_tools hbody]
  rfl

/-! ## What is asked for -/

namespace Bridge

variable {tool : Tool} {arguments : List (String × Value)} {call : Call}

theorem field?_filter_given (source instructions : Value) :
    Value.field? "source" (Call.runFields source instructions) =
        (if source.kind = .null then none else some source) ∧
      Value.field? "instructions" (Call.runFields source instructions) =
        (if instructions.kind = .null then none else some instructions) := by
  by_cases hsource : source.kind = .null <;> by_cases hinstructions : instructions.kind = .null <;>
    simp [Call.runFields, Value.field?, hsource, hinstructions]

theorem eq_null_of_kind {v : Value} (h : v.kind = .null) : v = .null := by
  cases v with
  | null => rfl
  | _ => cases h

/-- A run does not tell apart an argument that is left out from one that is `null`, as long as the
    instructions are not `null`. -/
theorem ofRun_runFields
    (hgiven : ∀ v, Value.field? "instructions" arguments = some v → v.kind ≠ .null) :
    Action.ofRun (Call.runFields ((Value.field? "source" arguments).getD .null)
      ((Value.field? "instructions" arguments).getD .null)) = Action.ofRun arguments := by
  obtain ⟨hsource, hinstructions⟩ := field?_filter_given
    ((Value.field? "source" arguments).getD .null) ((Value.field? "instructions" arguments).getD .null)
  rw [Action.ofRun, hsource, hinstructions, Action.ofRun]
  cases hfound : Value.field? "instructions" arguments with
  | some v => simp [hgiven v hfound]
  | none =>
    have hnone : Value.kind .null = .null := rfl
    simp only [Option.getD_none, hnone, if_true]
    by_cases hnull : ((Value.field? "source" arguments).getD .null).kind = .null
    · rw [eq_null_of_kind hnull, hnone]
      rfl
    · simp [hnull]

/-- **A tool that is called through a bridge asks for what the tool itself asks for.** -/
theorem action_call? (hcall : call? tool arguments = some call)
    (hgiven : ∀ f ∈ arguments, f.2.kind ≠ .null) :
    call.action = .ofTool (.text tool.name) (.object arguments) := by
  rw [Action.ofTool_name]
  cases tool with
  | runProgram =>
    cases hcall
    exact ofRun_runFields fun v hv => hgiven _ (Value.mem_of_field? hv)
  | resetStage =>
    cases hcall
    rfl
  | getState =>
    cases hcall
    rfl
  | loadSample =>
    obtain ⟨title, htitle, rfl⟩ := Option.map_eq_some_iff.1 hcall
    rw [Call.action, Action.ofTool_name, Action.ofCall, Action.ofCall, Action.ofTitle, Action.ofTitle, htitle]
    rfl

/-- The call of a bridge gets the body of its answer as it is, if the arguments can be given. -/
theorem isPlain_call? (hcall : call? tool arguments = some call)
    (hkeyed : (Value.object arguments).isKeyed = true) : call.isPlain = true := by
  rw [Value.isKeyed, Bool.and_eq_true] at hkeyed
  have hargument : ∀ key, ((Value.field? key arguments).getD .null).isKeyed = true := by
    intro key
    cases hfound : Value.field? key arguments with
    | none => rfl
    | some v => exact Value.isKeyed_of_field? hkeyed.2 hfound
  cases tool with
  | runProgram =>
    cases hcall
    rw [Call.isPlain, Bool.and_eq_true]
    exact ⟨hargument "source", hargument "instructions"⟩
  | loadSample =>
    obtain ⟨title, htitle, rfl⟩ := Option.map_eq_some_iff.1 hcall
    exact Value.isKeyed_of_field? hkeyed.2 htitle
  | resetStage =>
    cases hcall
    rfl
  | getState =>
    cases hcall
    rfl

end Bridge

/-! ## What is sent -/

theorem Message.size_post (path body : String) :
    Message.size ⟨.post, path, some body⟩ = body.utf8ByteSize := by
  show (Text.encodeUtf8 body).length = _
  rw [Text.encodeUtf8, Text.toList_eq_toList_data, Array.length_toList]
  rfl

/-- What is posted for a payload that can be written. -/
theorem Message.post_eq_ok_iff {path : String} {payload : Value} {m : Message} :
    Message.post path payload = .ok m ↔
      ∃ body, Json.print { names := true } payload = .ok body ∧ m = ⟨.post, path, some body⟩ := by
  rw [Message.post]
  cases Json.print { names := true } payload with
  | error e => simp
  | ok body => simp [eq_comm]

namespace Bridge

variable {tool : Tool} {arguments : List (String × Value)} {call : Call}

/-- The fields that a run is given are among its arguments. -/
theorem runFields_subperm : (Call.runFields ((Value.field? "source" arguments).getD .null)
    ((Value.field? "instructions" arguments).getD .null)).Subperm arguments := by
  refine List.subperm_of_subset (.filter _ ?_) fun f hf => ?_
  · simp
  · obtain ⟨hmem, hgiven⟩ := List.mem_filter.1 hf
    have hfound : ∀ key, ((Value.field? key arguments).getD .null).kind ≠ .null →
        (key, (Value.field? key arguments).getD .null) ∈ arguments := by
      intro key hne
      cases hv : Value.field? key arguments with
      | none =>
        rw [hv] at hne
        exact absurd rfl hne
      | some v => exact Value.mem_of_field? hv
    rcases List.mem_cons.1 hmem with rfl | hmem
    · exact hfound "source" (by simpa using hgiven)
    · obtain rfl := List.mem_singleton.1 hmem
      exact hfound "instructions" (by simpa using hgiven)

/-- If a tool is called with the only argument that it takes, that is all it is called with. -/
theorem eq_singleton_of_field? {key : String} {v : Value} (hkeys : (arguments.map (·.1)).Nodup)
    (htaken : ∀ f ∈ arguments, f.1 = key) (hv : Value.field? key arguments = some v) :
    arguments = [(key, v)] := by
  match arguments with
  | [] => cases hv
  | [f] =>
    obtain ⟨k, w⟩ := f
    obtain rfl : k = key := htaken (k, w) (by simp)
    simpa [Value.field?] using hv
  | f :: g :: rest =>
    have hsame : f.1 = g.1 := (htaken f (by simp)).trans (htaken g (by simp)).symm
    simp [hsame] at hkeys

/-- **A bridge sends no more than a tool is sent**: its call has a message that is no longer. -/
theorem exists_message_call? (hcall : call? tool arguments = some call)
    (hkeyed : (Value.object arguments).isKeyed = true)
    (htaken : ∀ f ∈ arguments, f.1 ∈ tool.parameters) {m : Message}
    (hm : (Call.callTool (.text tool.name) (.object arguments)).message = .ok m) :
    ∃ m', call.message = .ok m' ∧ m'.size ≤ m.size := by
  have hname : tool.name.isEmpty = false := by cases tool <;> rfl
  have hgiven : (if (Value.object arguments).isTruthy then Value.object arguments else .object []) =
      .object arguments := by
    cases arguments <;> rfl
  have htool := hm
  rw [Call.message, Call.toolMessage, hname, hgiven] at htool
  obtain ⟨body, hbody, rfl⟩ := Message.post_eq_ok_iff.1 htool
  -- What is sent to the tool holds the object of arguments.
  have hobject : ∀ kept : List (String × Value), kept.Subperm arguments → ∀ path,
      ∃ m', Message.post path (.object kept) = .ok m' ∧
        m'.size ≤ Message.size ⟨.post, "/tools/call", some body⟩ := by
    intro kept hkept path
    have hfield : ("arguments", Value.object arguments) ∈
        [("name", .text tool.name), ("arguments", .object arguments)] := by simp
    obtain ⟨inner, hinner, hle⟩ := Json.exists_write_of_field rfl rfl hfield hbody 0
    obtain ⟨text, htext, hle'⟩ := Json.exists_write_of_subperm rfl rfl hkept hinner 0
    refine ⟨_, Message.post_eq_ok_iff.2 ⟨text, htext, rfl⟩, ?_⟩
    rw [Message.size_post, Message.size_post]
    exact hle'.trans hle
  cases tool with
  | runProgram =>
    cases hcall
    rw [Call.message, Call.field_append_field]
    exact hobject _ runFields_subperm "/run"
  | resetStage =>
    cases hcall
    exact hobject [] (List.nil_subperm) "/reset"
  | getState =>
    cases hcall
    exact ⟨_, rfl, Nat.zero_le _⟩
  | loadSample =>
    obtain ⟨title, htitle, rfl⟩ := Option.map_eq_some_iff.1 hcall
    rw [Value.isKeyed, Bool.and_eq_true, decide_eq_true_eq] at hkeyed
    obtain rfl := eq_singleton_of_field? hkeyed.1 (fun f hf => List.mem_singleton.1 (htaken f hf)) htitle
    exact ⟨_, hm, le_rfl⟩

end Bridge

/-! ## What comes of it -/

/-- Plain calls read an answer in the same way. -/
theorem Call.ofAnswer_congr {call call' : Call} (h : call.isPlain = true) (h' : call'.isPlain = true)
    (answer : Answer) : call.ofAnswer answer = call'.ofAnswer answer := by
  have hvalue : call.value = call'.value := by
    funext fields
    rw [value_of_isPlain h, value_of_isPlain h']
  cases answer with
  | error e => rfl
  | ok r => rw [ofAnswer, ofAnswer, result, result, hvalue]

namespace Playground

/-- **A bridge agrees with the tools of its service.**  Whatever state a playground is in, its service lists
    all tools, and a bridge offers those that are listed.  Take arguments of a tool, none of them `null`, with
    which the tool can be called, and suppose that the call of the tool with these arguments can be sent.
    Then the call that the bridge passes the tool on by can be sent as well; it has the same outcome, be it a
    value or an error, and leaves the playground in the same state.  Also while others use the playground,
    the request does the same to it and gets the same reply at once, so that the same follows from it. -/
theorem bridged_tool_eq_tool (a : ServiceAddress) (p : Playground) {tool : Tool}
    {arguments : List (String × Value)} (hkeyed : (Value.object arguments).isKeyed = true)
    (htaken : ∀ f ∈ arguments, f.1 ∈ tool.parameters ∧ f.2.kind ≠ .null) {call : Call}
    (hcall : Bridge.call? tool arguments = some call) {m : Message}
    (hm : (Call.callTool (.text tool.name) (.object arguments)).message = .ok m)
    (hsize : m.size < 2 ^ 63) :
    (∃ advertised, p.exchange a.text .listTools = (p, .ok (.list advertised)) ∧
      (Bridge.offers advertised).map (·.tool) = Tool.all) ∧
    p.exchange a.text call = p.exchange a.text (.callTool (.text tool.name) (.object arguments)) ∧
    ∃ m', call.message = .ok m' ∧ p.handle (m'.request a.text) = p.handle (m.request a.text) := by
  have hplain := Bridge.isPlain_call? hcall hkeyed
  have hname : tool.name ≠ "" := by cases tool <;> decide
  have hplainTool : (Call.callTool (.text tool.name) (.object arguments)).isPlain = true := by
    simp [Call.isPlain, hname, hkeyed]
  obtain ⟨m', hm', hle⟩ := Bridge.exists_message_call? hcall hkeyed (fun f hf => (htaken f hf).1) hm
  have hsize' : m'.size < 2 ^ 63 := hle.trans_lt hsize
  -- Both requests are delivered and ask for the same action.
  have haction : (m'.request a.text).action = (m.request a.text).action := by
    rw [call.action_request a hplain hm' (length_digitsOf_of_lt hsize'), if_pos hsize',
      Call.action_request a hplainTool hm (length_digitsOf_of_lt hsize), if_pos hsize,
      Bridge.action_call? hcall fun f hf => (htaken f hf).2]
    rfl
  refine ⟨⟨_, p.exchange_listTools a, Bridge.map_tool_offers⟩, ?_, m', hm', ?_⟩
  · rw [exchange_eq_serve hm', exchange_eq_serve hm, serve, serve, haction,
      Call.ofAnswer_congr hplain hplainTool]
  · rw [handle, handle, haction]

/-- The tool that runs a program, called while another run sleeps: the bridge posts to another path than the
    tool, with the same outcome. -/
theorem bridged_tool_eq_tool_of_busy :
    let a : ServiceAddress :=
      { scheme := "http", host := "stage.test", slashes := 1, scheme_ok := by simp, host_ne := by simp,
        host_ok := by simp }
    let wait : Service.Event := .request
      { method := .post, path := "/run", contentLength := some "48"
        body := Text.encodeUtf8 "\x7b\"instructions\": [\x7b\"op\": \"wait\", \"seconds\": 1\x7d]\x7d" }
    let p := ({} : Playground).attendAll [wait]
    let tool : Call := .callTool (.text "run_program") (.object [("source", .text "move(3)")])
    let bridged : Call := .runProgram (.text "move(3)") .null
    p.active = some 1 ∧ p.flights.map (·.run.runId) = [1] ∧
      p.exchange a.text bridged = p.exchange a.text tool ∧
      ∃ m m' : Message, tool.message = .ok m ∧ bridged.message = .ok m' ∧
        m.path = "/tools/call" ∧ m'.path = "/run" ∧
        p.handle (m'.request a.text) = p.handle (m.request a.text) := by
  intro a wait p tool bridged
  obtain ⟨m, hm, hsize, hpath⟩ : ∃ m, tool.message = .ok m ∧ m.size < 2 ^ 63 ∧ m.path = "/tools/call" :=
    ⟨_, rfl, by decide +kernel, rfl⟩
  have hkeyed : (Value.object [("source", .text "move(3)")]).isKeyed = true := by decide +kernel
  have hcall : Bridge.call? .runProgram [("source", .text "move(3)")] = some bridged := rfl
  obtain ⟨-, hexchange, m', hm', hhandle⟩ := bridged_tool_eq_tool a p hkeyed
    (by simp [Tool.parameters, Value.kind]) hcall hm hsize
  refine ⟨by decide +kernel, by decide +kernel, hexchange, m, m', hm, hm', hpath, ?_, hhandle⟩
  cases hm'
  rfl

end Playground

end SpriteStage
