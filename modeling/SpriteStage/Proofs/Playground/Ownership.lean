import SpriteStage.Playground.Event

/-!
# Who owns a playground

Runs of a playground may be started, woken, given up and abandoned in any order.  A `Ledger` keeps
account of them, by what the events of a history answer and not by what the playground remembers.
`active_run_owns_playground` compares the two: the active run is the only one that is live, and a run
that has been abandoned never changes what is shown.

## Main definitions

* `Ledger` lists the runs that were started, have ended and were abandoned
* `Playground.ledger` is the account of a history
* `Playground.shown` is what a playground shows, and which run owns it
* `Playground.Accounts` is the invariant: a playground and an account agree
-/

namespace SpriteStage

/-! ## The account of a history -/

/-- The numbers of the runs that were started, that have ended and that were abandoned. -/
structure Ledger where
  started : List Int := []
  ended : List Int := []
  abandoned : List Int := []

namespace Ledger

/-- A run is live from its start to its end, unless it is abandoned. -/
def Live (l : Ledger) (runId : Int) : Prop :=
  runId ∈ l.started ∧ runId ∉ l.ended ∧ runId ∉ l.abandoned

/-- The account after a run has been started. -/
def start (l : Ledger) (runId : Int) : Ledger := { l with started := runId :: l.started }

/-- The account after a run has ended, or has been given up. -/
def close (l : Ledger) (runId : Int) : Ledger := { l with ended := runId :: l.ended }

/-- The account after a run has been abandoned, if there is one. -/
def abandon (l : Ledger) (runId : Option Int) : Ledger :=
  { l with abandoned := runId.toList ++ l.abandoned }

/-- The account after a run has got on. -/
def progress (l : Ledger) (runId : Int) : Progress → Ledger
  | .asleep _ => l
  | .ended _ => l.close runId

/-- The account after an event in a playground. -/
def record (l : Ledger) (p : Playground) : Playground.Event → Ledger
  | .start program =>
    match p.start program with
    | .ok (_, runId, progress) => (l.start runId).progress runId progress
    | .error _ => l
  | .wake runId reason =>
    match p.wake runId reason with
    | some (_, progress) => l.progress runId progress
    | none => l
  | .cancel runId => if (p.cancel runId).isSome then l.close runId else l
  | .reset => l.abandon p.active
  | .setSource _ => l
  | .loadSample _ => l

end Ledger

namespace Playground

/-- The account of a history that goes on from one. -/
def ledgerFrom (p : Playground) (l : Ledger) : List Event → Ledger
  | [] => l
  | e :: history => (p.step e).ledgerFrom (l.record p e) history

/-- The account of a history. -/
def ledger (p : Playground) (history : List Event) : Ledger := p.ledgerFrom {} history

/-- What a playground shows, and which run owns it. -/
def shown (p : Playground) : Sprite × String × String × Option RunResult × Option Int :=
  (p.sprite, p.output, p.source, p.lastResult, p.active)

end Playground

/-! ## The numbers of results -/

/-- Whatever a computation is told when it is woken, all its answers have a property. -/
def Resumption.Answers {α : Type} (P : α → Prop) : Resumption α → Prop
  | .done a => P a
  | .sleeping _ resume => ∀ w, (resume w).Answers P

theorem Resumption.Answers.bind {α β : Type} {P : β → Prop} {next : α → Resumption β}
    (hnext : ∀ a, (next a).Answers P) : ∀ x : Resumption α, (x.bind next).Answers P
  | .done a => hnext a
  | .sleeping _ resume => fun w => Answers.bind hnext (resume w)

/-- The result of a run has the number of the run. -/
theorem Run.answers_course (r : Run) : r.course.Answers (·.runId = r.runId) := by
  rw [Run.course]
  cases r.program.1 with
  | error e => exact rfl
  | ok p =>
    refine Resumption.Answers.bind (fun x => ?_) _
    exact rfl

namespace Playground

/-! ## Runs that get on -/

section

variable (p : Playground)

theorem start_of_active {owner : Int} (hactive : p.active = some owner)
    (program : Option RunSource) : p.start program = .error (.busy owner) := by
  simp [start, requireIdle, hactive, bind, Except.bind]

theorem start_of_idle (hactive : p.active = none) (program : Option RunSource) :
    p.start program =
      let (q, run) := p.engage program
      .ok ((q.advance run.launch run.course).1, run.runId, (q.advance run.launch run.course).2) := by
  simp [start, requireIdle, hactive, bind, Except.bind, pure, Except.pure]

/-- A run that is found among those that sleep is one of them, with the number looked for. -/
theorem mem_of_flight? {runId : Int} {f : Flight} (hf : p.flight? runId = some f) :
    f ∈ p.flights ∧ f.run.runId = runId :=
  ⟨List.mem_of_find?_eq_some hf, by simpa using List.find?_some hf⟩

/-- A run that does not sleep can be neither woken nor given up. -/
theorem step_of_flight?_eq_none {runId : Int} (hf : p.flight? runId = none) :
    (∀ reason, p.wake runId reason = none) ∧ p.cancel runId = none := by
  simp [wake, cancel, hf]

/-- A run that sleeps can be woken, and can be given up. -/
theorem step_of_flight?_eq_some {runId : Int} {f : Flight} (hf : p.flight? runId = some f) :
    (∀ reason, p.wake runId reason =
      some ((p.withoutFlight runId).advance f.run
        (f.resume { reason := reason, abandoned := f.run.abandoned }))) ∧
    p.cancel runId =
      some { p.withoutFlight runId with active := p.active.filter (· ≠ runId) } := by
  simp [wake, cancel, hf]

theorem land_of_ne {result : RunResult} (hne : p.active ≠ some result.runId) :
    p.land result = p := if_neg hne

theorem land_flights (result : RunResult) : (p.land result).flights = p.flights := by
  rw [land]
  split <;> rfl

theorem land_nextId (result : RunResult) : (p.land result).nextId = p.nextId := by
  rw [land]
  split <;> rfl

theorem land_active (result : RunResult) :
    (p.land result).active = p.active.filter (· ≠ result.runId) := by
  by_cases howner : p.active = some result.runId
  · simp [land, commit, howner, Option.filter_some]
  · rw [p.land_of_ne howner]
    cases hactive : p.active with
    | none => rfl
    | some owner =>
      have hne : owner ≠ result.runId := fun heq => howner (heq ▸ hactive)
      simp [Option.filter_some, hne]

/-- Only the active run changes what is shown. -/
theorem shown_advance {run : Run} {x : Resumption RunResult}
    (hx : x.Answers (·.runId = run.runId)) (hne : p.active ≠ some run.runId) :
    (p.advance run x).1.shown = p.shown := by
  cases x with
  | sleeping delay resume => rfl
  | done result =>
    have hid : result.runId = run.runId := hx
    exact congrArg shown (p.land_of_ne (hid ▸ hne))

end

/-! ## The invariant -/

/-- A playground agrees with the account of its history, while a run may be awake.  Runs that were
    started and have not ended are asleep or awake; they have been told whether they are abandoned;
    and the live one among them is the active one. -/
structure Accounts (awake : Option Run) (p : Playground) (l : Ledger) : Prop where
  nodup : l.started.Nodup
  started_lt : ∀ id ∈ l.started, id < p.nextId
  ended_started : ∀ id ∈ l.ended, id ∈ l.started
  abandoned_started : ∀ id ∈ l.abandoned, id ∈ l.started
  owner : ∀ id, l.Live id ↔ p.active = some id
  unfinished : ∀ id, (id ∈ l.started ∧ id ∉ l.ended) ↔
    (∃ f ∈ p.flights, f.run.runId = id) ∨ ∃ r ∈ awake, r.runId = id
  apart : ∀ r ∈ awake, ∀ f ∈ p.flights, f.run.runId ≠ r.runId
  told_asleep : ∀ f ∈ p.flights, f.run.abandoned = true ↔ f.run.runId ∈ l.abandoned
  told_awake : ∀ r ∈ awake, r.abandoned = true ↔ r.runId ∈ l.abandoned
  answers : ∀ f ∈ p.flights, ∀ w, (f.resume w).Answers (·.runId = f.run.runId)

namespace Accounts

variable {p q : Playground} {l : Ledger} {run : Run}

/-- A playground without a run agrees with the empty account. -/
theorem opened (hactive : p.active = none) (hflights : p.flights = []) :
    Accounts none p {} where
  nodup := .nil
  started_lt := by simp
  ended_started := by simp
  abandoned_started := by simp
  owner id := by simp [Ledger.Live, hactive]
  unfinished id := by simp [hflights]
  apart := by simp
  told_asleep := by simp [hflights]
  told_awake := by simp
  answers := by simp [hflights]

/-- Only the sleeping runs, the active one and the next number matter. -/
theorem congr {awake : Option Run} (h : Accounts awake p l) (hflights : q.flights = p.flights)
    (hactive : q.active = p.active) (hnext : q.nextId = p.nextId) : Accounts awake q l where
  nodup := h.nodup
  started_lt := hnext ▸ h.started_lt
  ended_started := h.ended_started
  abandoned_started := h.abandoned_started
  owner := hactive ▸ h.owner
  unfinished := hflights ▸ h.unfinished
  apart := hflights ▸ h.apart
  told_asleep := hflights ▸ h.told_asleep
  told_awake := h.told_awake
  answers := hflights ▸ h.answers

/-- A new run has a new number, and is the active one. -/
theorem engage (h : Accounts none p l) (hidle : p.active = none) (program : Option RunSource) :
    Accounts (some (p.engage program).2.launch) (p.engage program).1 (l.start p.nextId) := by
  -- The number is new, and nobody is live before the run starts.
  have hfresh : p.nextId ∉ l.started := fun hmem => Int.lt_irrefl _ (h.started_lt _ hmem)
  have hnobody : ∀ id, ¬ l.Live id := by simp [h.owner, hidle]
  have hasleep : ∀ f ∈ p.flights, f.run.runId ≠ p.nextId := by
    intro f hf heq
    exact hfresh (heq ▸ ((h.unfinished _).2 (.inl ⟨f, hf, rfl⟩)).1)
  refine
    { nodup := List.nodup_cons.2 ⟨hfresh, h.nodup⟩
      started_lt := ?_
      ended_started := fun id hid => List.mem_cons_of_mem _ (h.ended_started id hid)
      abandoned_started := fun id hid => List.mem_cons_of_mem _ (h.abandoned_started id hid)
      owner := ?_
      unfinished := ?_
      apart := ?_
      told_asleep := h.told_asleep
      told_awake := ?_
      answers := h.answers }
  · intro id hid
    rcases List.mem_cons.1 hid with rfl | hid
    · exact Int.lt_succ _
    · exact Int.lt_trans (h.started_lt id hid) (Int.lt_succ _)
  · intro id
    have hid := hnobody id
    simp only [Ledger.Live, Ledger.start, Playground.engage, List.mem_cons, Option.some.injEq] at hid ⊢
    constructor
    · rintro ⟨rfl | hstarted, hended, habandoned⟩
      · rfl
      · exact absurd ⟨hstarted, hended, habandoned⟩ hid
    · rintro rfl
      exact ⟨.inl rfl, fun hmem => hfresh (h.ended_started _ hmem),
        fun hmem => hfresh (h.abandoned_started _ hmem)⟩
  · intro id
    have hid := h.unfinished id
    simp only [Ledger.start, Playground.engage, Run.launch, List.mem_cons, Option.mem_def,
      Option.some.injEq, exists_eq_left', reduceCtorEq, false_and, exists_false, or_false] at hid ⊢
    rw [← hid]
    constructor
    · rintro ⟨rfl | hstarted, hended⟩
      · exact .inr rfl
      · exact .inl ⟨hstarted, hended⟩
    · rintro (⟨hstarted, hended⟩ | rfl)
      · exact ⟨.inr hstarted, hended⟩
      · exact ⟨.inl rfl, fun hmem => hfresh (h.ended_started _ hmem)⟩
  · rintro r ⟨⟩ f hf
    exact hasleep f hf
  · rintro r ⟨⟩
    simpa [Playground.engage, Run.launch, Ledger.start] using
      fun hmem => hfresh (h.abandoned_started _ hmem)

/-- A run that is woken is no longer asleep. -/
theorem rouse (h : Accounts none p l) {f : Flight} (hf : f ∈ p.flights) :
    Accounts (some f.run) (p.withoutFlight f.run.runId) l := by
  -- Nothing new falls asleep.
  have hsub : ∀ g ∈ (p.withoutFlight f.run.runId).flights, g ∈ p.flights :=
    fun g hg => (List.mem_filter.1 hg).1
  refine
    { nodup := h.nodup
      started_lt := h.started_lt
      ended_started := h.ended_started
      abandoned_started := h.abandoned_started
      owner := h.owner
      unfinished := ?_
      apart := ?_
      told_asleep := fun g hg => h.told_asleep g (hsub g hg)
      told_awake := ?_
      answers := fun g hg => h.answers g (hsub g hg) }
  · intro id
    rw [h.unfinished id]
    constructor
    · rintro (⟨g, hg, rfl⟩ | ⟨r, hr, -⟩)
      · by_cases hsame : g.run.runId = f.run.runId
        · exact .inr ⟨f.run, rfl, hsame.symm⟩
        · exact .inl ⟨g, List.mem_filter.2 ⟨hg, by simpa using hsame⟩, rfl⟩
      · cases hr
    · rintro (⟨g, hg, rfl⟩ | ⟨r, hr, rfl⟩)
      · exact .inl ⟨g, hsub g hg, rfl⟩
      · cases hr
        exact .inl ⟨f, hf, rfl⟩
  · rintro r ⟨⟩ g hg
    simpa using (List.mem_filter.1 hg).2
  · rintro r ⟨⟩
    exact h.told_asleep f hf

/-- A run that is awake may fall asleep. -/
theorem doze (h : Accounts (some run) p l) (delay : Value) {resume : Wake → Resumption RunResult}
    (hresume : ∀ w, (resume w).Answers (·.runId = run.runId)) :
    Accounts none { p with flights := ⟨run, delay, resume⟩ :: p.flights } l := by
  refine
    { nodup := h.nodup
      started_lt := h.started_lt
      ended_started := h.ended_started
      abandoned_started := h.abandoned_started
      owner := h.owner
      unfinished := ?_
      apart := fun r hr => by cases hr
      told_asleep := ?_
      told_awake := fun r hr => by cases hr
      answers := ?_ }
  · intro id
    -- The run that was awake is now the first one asleep.
    rw [h.unfinished id]
    constructor
    · rintro (⟨f, hf, rfl⟩ | ⟨r, hr, rfl⟩)
      · exact .inl ⟨f, List.mem_cons_of_mem _ hf, rfl⟩
      · cases hr
        exact .inl ⟨_, List.mem_cons_self, rfl⟩
    · rintro (⟨f, hf, rfl⟩ | ⟨r, hr, -⟩)
      · rcases List.mem_cons.1 hf with rfl | hf
        · exact .inr ⟨run, rfl, rfl⟩
        · exact .inl ⟨f, hf, rfl⟩
      · cases hr
  · intro f hf
    rcases List.mem_cons.1 hf with rfl | hf
    · exact h.told_awake run rfl
    · exact h.told_asleep f hf
  · intro f hf
    rcases List.mem_cons.1 hf with rfl | hf
    · exact hresume
    · exact h.answers f hf

/-- A run that is awake may end.  If it was the active one, the playground is free again. -/
theorem close (h : Accounts (some run) p l) (hflights : q.flights = p.flights)
    (hactive : q.active = p.active.filter (· ≠ run.runId)) (hnext : q.nextId = p.nextId) :
    Accounts none q (l.close run.runId) := by
  have hrun : run.runId ∈ l.started := ((h.unfinished _).2 (.inr ⟨run, rfl, rfl⟩)).1
  refine
    { nodup := h.nodup
      started_lt := hnext ▸ h.started_lt
      ended_started := ?_
      abandoned_started := h.abandoned_started
      owner := ?_
      unfinished := ?_
      apart := fun r hr => by cases hr
      told_asleep := hflights ▸ h.told_asleep
      told_awake := fun r hr => by cases hr
      answers := hflights ▸ h.answers }
  · -- The run that ends now was started.
    intro id hid
    rcases List.mem_cons.1 hid with rfl | hid
    · exact hrun
    · exact h.ended_started id hid
  · intro id
    -- It is no longer active, and no other run becomes so.
    have howner := h.owner id
    simp only [Ledger.Live] at howner
    simp only [Ledger.Live, Ledger.close, hactive, Option.filter_eq_some_iff, ← howner,
      List.mem_cons, not_or, decide_eq_true_eq]
    constructor
    · rintro ⟨hstarted, ⟨hne, hended⟩, habandoned⟩
      exact ⟨⟨hstarted, hended, habandoned⟩, hne⟩
    · rintro ⟨⟨hstarted, hended, habandoned⟩, hne⟩
      exact ⟨hstarted, ⟨hne, hended⟩, habandoned⟩
  · intro id
    -- The runs that are left are the ones asleep: only this one was awake.
    have hid := h.unfinished id
    simp only [Ledger.close, hflights, List.mem_cons, not_or]
    constructor
    · rintro ⟨hstarted, hne, hended⟩
      rcases hid.1 ⟨hstarted, hended⟩ with hasleep | ⟨r, hr, rfl⟩
      · exact .inl hasleep
      · cases hr
        exact absurd rfl hne
    · rintro (⟨f, hf, rfl⟩ | ⟨r, hr, -⟩)
      · obtain ⟨hstarted, hended⟩ := hid.2 (.inl ⟨f, hf, rfl⟩)
        exact ⟨hstarted, h.apart run rfl f hf, hended⟩
      · cases hr

/-- A reset frees the playground and tells the active run that it is abandoned. -/
theorem reset (h : Accounts none p l) : Accounts none p.reset (l.abandon p.active) := by
  have hmem : ∀ id, id ∈ (l.abandon p.active).abandoned ↔ p.active = some id ∨ id ∈ l.abandoned := by
    simp [Ledger.abandon]
  -- Abandoning a run leaves its number and what it does when it is woken.
  have hids : ∀ f : Flight, (f.abandon p.active).run.runId = f.run.runId := by
    intro f
    rw [Flight.abandon]
    split <;> rfl
  refine
    { nodup := h.nodup
      started_lt := h.started_lt
      ended_started := h.ended_started
      abandoned_started := ?_
      owner := ?_
      unfinished := ?_
      apart := fun r hr => by cases hr
      told_asleep := ?_
      told_awake := fun r hr => by cases hr
      answers := ?_ }
  · intro id hid
    rcases (hmem id).1 hid with hactive | hid
    · exact ((h.owner id).2 hactive).1
    · exact h.abandoned_started id hid
  · intro id
    have hid := h.owner id
    -- The only live run is the one that is abandoned.
    simp only [Ledger.Live, hmem, ← hid, Playground.reset, reduceCtorEq, iff_false]
    rintro ⟨hstarted, hended, habandoned⟩
    have hnot : id ∉ l.abandoned := fun hin => habandoned (.inr hin)
    exact habandoned (.inl ⟨hstarted, hended, hnot⟩)
  · intro id
    refine (h.unfinished id).trans (or_congr_left ⟨?_, ?_⟩)
    · rintro ⟨f, hf, rfl⟩
      exact ⟨_, List.mem_map_of_mem hf, hids f⟩
    · rintro ⟨f, hf, rfl⟩
      obtain ⟨g, hg, rfl⟩ := List.mem_map.1 hf
      exact ⟨g, hg, (hids g).symm⟩
  · intro f hf
    obtain ⟨g, hg, rfl⟩ := List.mem_map.1 hf
    rw [hids, hmem, ← h.told_asleep g hg, Flight.abandon]
    split
    · simp [*]
    · simp [*]
  · intro f hf w
    obtain ⟨g, hg, rfl⟩ := List.mem_map.1 hf
    rw [hids]
    have hresume : (g.abandon p.active).resume = g.resume := by
      rw [Flight.abandon]
      split <;> rfl
    exact hresume ▸ h.answers g hg w

/-- A run that is carried on falls asleep or ends. -/
theorem advance (h : Accounts (some run) p l) {x : Resumption RunResult}
    (hx : x.Answers (·.runId = run.runId)) :
    Accounts none (p.advance run x).1 (l.progress run.runId (p.advance run x).2) := by
  cases x with
  | sleeping delay resume => exact h.doze delay hx
  | done result =>
    have hid : result.runId = run.runId := hx
    have hactive := p.land_active result
    rw [hid] at hactive
    exact h.close (p.land_flights result) hactive (p.land_nextId result)

/-- Every event keeps a playground and the account of its history in agreement. -/
theorem step (h : Accounts none p l) (e : Event) : Accounts none (p.step e) (l.record p e) := by
  cases e with
  | start program =>
    simp only [Playground.step, Ledger.record]
    cases hactive : p.active with
    | some owner =>
      -- A busy playground refuses to start a run.
      rw [p.start_of_active hactive]
      exact h
    | none =>
      rw [p.start_of_idle hactive]
      exact (h.engage hactive program).advance (p.engage program).2.answers_course
  | wake runId reason =>
    simp only [Playground.step, Ledger.record]
    cases hf : p.flight? runId with
    | none =>
      rw [(p.step_of_flight?_eq_none hf).1]
      exact h
    | some f =>
      -- The run is awake until it falls asleep again or ends.
      rw [(p.step_of_flight?_eq_some hf).1]
      obtain ⟨hmem, rfl⟩ := p.mem_of_flight? hf
      exact (h.rouse hmem).advance (h.answers f hmem _)
  | cancel runId =>
    simp only [Playground.step, Ledger.record]
    cases hf : p.flight? runId with
    | none =>
      rw [(p.step_of_flight?_eq_none hf).2]
      exact h
    | some f =>
      rw [(p.step_of_flight?_eq_some hf).2]
      obtain ⟨hmem, rfl⟩ := p.mem_of_flight? hf
      exact (h.rouse hmem).close rfl rfl rfl
  | setSource source =>
    simp only [Playground.step, Ledger.record, setSource, requireIdle]
    cases hactive : p.active with
    | some owner => exact h
    | none => exact h.congr rfl hactive.symm rfl
  | loadSample title =>
    simp only [Playground.step, Ledger.record, loadSample, requireIdle]
    cases Sample.find? title with
    | none => exact h
    | some sample =>
      cases hactive : p.active with
      | some owner => exact h
      | none => exact h.congr rfl hactive.symm rfl
  | reset => exact h.reset

/-- Waking a run that does not own the playground, or giving it up, changes nothing that is shown. -/
theorem shown_step (h : Accounts none p l) {runId : Int} (hne : p.active ≠ some runId) :
    (∀ reason, (p.step (.wake runId reason)).shown = p.shown) ∧
    (p.step (.cancel runId)).shown = p.shown := by
  simp only [Playground.step]
  cases hf : p.flight? runId with
  | none =>
    obtain ⟨hwake, hcancel⟩ := p.step_of_flight?_eq_none hf
    simp [hwake, hcancel]
  | some f =>
    obtain ⟨hwake, hcancel⟩ := p.step_of_flight?_eq_some hf
    obtain ⟨hmem, rfl⟩ := p.mem_of_flight? hf
    refine ⟨fun reason => ?_, ?_⟩
    · rw [hwake]
      exact (p.withoutFlight f.run.runId).shown_advance (h.answers f hmem _) hne
    · rw [hcancel]
      -- Nobody but the run itself is given up.
      have hactive : p.active.filter (· ≠ f.run.runId) = p.active := by
        cases hactive : p.active with
        | none => rfl
        | some owner => simp_all [Option.filter_some]
      simp only [Option.getD_some, shown, hactive]
      rfl

/-- A history keeps a playground and its account in agreement. -/
theorem replay (h : Accounts none p l) (history : List Event) :
    Accounts none (p.replay history) (p.ledgerFrom l history) := by
  induction history generalizing p l with
  | nil => exact h
  | cons e history ih => exact ih (h.step e)

end Accounts

/-! ## Ownership -/

/-- **At most one run owns a playground, and stale runs never touch it.**  Whatever happens in a
    playground that starts without a run: no number is given twice; the runs that have started and
    not ended are those that sleep, and they know whether they are abandoned; a run is live exactly
    if it is the active one, so there is at most one, and the playground is running exactly if there
    is one.  An abandoned run that is woken in whatever way, or given up, changes nothing that is
    shown. -/
theorem active_run_owns_playground (p : Playground) (hactive : p.active = none)
    (hflights : p.flights = []) (history : List Event) :
    let q := p.replay history
    let l := p.ledger history
    l.started.Nodup ∧
    (∀ id, (id ∈ l.started ∧ id ∉ l.ended) ↔ ∃ f ∈ q.flights, f.run.runId = id) ∧
    (∀ f ∈ q.flights, f.run.abandoned = true ↔ f.run.runId ∈ l.abandoned) ∧
    (∀ id, l.Live id ↔ q.active = some id) ∧
    (∀ id id', l.Live id → l.Live id' → id = id') ∧
    (q.isRunning = true ↔ ∃ id, l.Live id) ∧
    (∀ id ∈ l.abandoned,
      (∀ reason, (q.step (.wake id reason)).shown = q.shown) ∧
      (q.step (.cancel id)).shown = q.shown) := by
  intro q l
  -- The accounts are right at the beginning, and every event keeps them so.
  have h : Accounts none q l := (Accounts.opened hactive hflights).replay history
  refine ⟨h.nodup, fun id => ?_, h.told_asleep, h.owner, ?_, ?_, ?_⟩
  · simpa using h.unfinished id
  · intro id id' hid hid'
    exact Option.some.inj (((h.owner id).1 hid).symm.trans ((h.owner id').1 hid'))
  · simp only [h.owner, isRunning]
    exact Option.isSome_iff_exists
  · intro id hid
    exact h.shown_step fun howner => ((h.owner id).2 howner).2.2 hid

/-- The first run is abandoned while it sleeps, and woken while the second one does. -/
theorem active_run_owns_playground_after_reset :
    let sleeper : Event := .start (some (.program [.call .wait (.int 1)]))
    let history : List Event := [sleeper, .reset, sleeper]
    let q := ({} : Playground).replay history
    q.active = some 2 ∧ 1 ∈ (({} : Playground).ledger history).abandoned ∧
      (q.step (.wake 1 .elapsed)).shown = q.shown := by
  intro sleeper history q
  have habandoned : 1 ∈ (({} : Playground).ledger history).abandoned := by decide +kernel
  have howns := active_run_owns_playground {} rfl rfl history
  exact ⟨by decide +kernel, habandoned, (howns.2.2.2.2.2.2 1 habandoned).1 .elapsed⟩

end Playground

end SpriteStage
