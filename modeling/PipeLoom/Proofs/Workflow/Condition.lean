import PipeLoom.Proofs.Expression.Meaning
import PipeLoom.Proofs.Workflow.Reading

/-!
# Conditions of stage jobs

The condition printed with the job of a stage means what the guard of the stage decides, and the
classified workflows of a pipeline share the stages that run between them:
`EmitOptions.stage_runs_in_one_workflow`.
-/

namespace PipeLoom

open Expression (Environment Value Fits IsWord)

/-! ## Guards -/

/-- The environment in which nothing failed or was cancelled and the classifying job put out the
intent. -/
structure Expression.Environment.Shows (v : Environment) (i : Intent) : Prop where
  failure : v.call "failure" = some (.bool false)
  cancelled : v.call "cancelled" = some (.bool false)
  intent : v.context "needs.classify.outputs.intent" = some (.text i.name)
  skipGates : ∃ s, v.context "needs.classify.outputs.skip_gates" = some (.text s) ∧
    Text.eqIgnoreAsciiCase s "true" = i.skipsGates

/-- The environment of an intent that has no values but these. -/
def Expression.Environment.showing (i : Intent) : Environment where
  context path :=
    if path = classifyOutputs ++ ".intent" then some (.text i.name)
    else if path = classifyOutputs ++ ".skip_gates" then
      some (.text (if i.skipsGates then "true" else "false"))
    else none
  call f := if f = "failure" ∨ f = "cancelled" then some (.bool false) else none

theorem Expression.Environment.shows_showing (i : Intent) : (showing i).Shows i where
  failure := rfl
  cancelled := rfl
  intent := rfl
  skipGates := ⟨_, rfl, by cases i.skipsGates <;> decide⟩

theorem IntentKind.eqIgnoreAsciiCase_name (k l : IntentKind) :
    Text.eqIgnoreAsciiCase k.name l.name = (l == k) := by
  cases k <;> cases l <;> decide

theorem Intent.kind_of_skipsGates {i : Intent} (h : i.skipsGates = true) :
    i.kind = .deployProductionHotfix := by
  cases i <;> first | rfl | exact absurd h (by decide)

namespace Guard

variable (g : Guard)

theorem any_kinds (k : IntentKind) : (g.kinds.any fun l => l == k) = g.activatesOn k := by
  rw [Bool.eq_iff_iff, List.any_eq_true]
  constructor
  · rintro ⟨l, hl, hk⟩
    rw [← eq_of_beq hk]
    exact (List.mem_filter.1 hl).2
  · intro h
    exact ⟨k, List.mem_filter.2 ⟨k.mem_all, h⟩, beq_self_eq_true k⟩

/-- The clause for one kind of intent. -/
def isIntent (k : IntentKind) : Expression :=
  .equal (.context (classifyOutputs ++ ".intent")) (.text k.name)

theorem evaluate_beq_run (i : Intent) :
    (g.evaluate i == .run) = (g.activatesOn i.kind && !(g.gated && i.skipsGates)) := by
  unfold evaluate
  cases g.activatesOn i.kind && !(g.gated && i.skipsGates) <;> rfl

theorem evaluate_without (k : IntentKind) (i : Intent) :
    ((g.without k).evaluate i == .run) = (g.evaluate i == .run && i.kind != k) := by
  rw [evaluate_beq_run, evaluate_beq_run]
  show ((i.kind != k && g.activatesOn i.kind) && !(g.gated && i.skipsGates)) = _
  rw [Bool.and_assoc, Bool.and_comm]

theorem evaluate_restrictedTo (k : IntentKind) (i : Intent) :
    ((g.restrictedTo [k]).evaluate i == .run) = (g.evaluate i == .run && i.kind == k) := by
  rw [evaluate_beq_run, evaluate_beq_run]
  show (([k].contains i.kind && g.activatesOn i.kind) && !(g.gated && i.skipsGates)) = _
  rw [Bool.and_assoc, Bool.and_comm, List.contains_cons, List.contains_nil, Bool.or_false]

theorem fits_isIntent (k : IntentKind) : Fits 2 (isIntent k) := by
  cases k <;> decide

theorem fits_intents : Fits 1 (Expression.anyOf (g.kinds.map isIntent)) := by
  apply Expression.fits_anyOf
  intro x hx
  obtain ⟨k, -, rfl⟩ := List.mem_map.1 hx
  exact fits_isIntent k

theorem fits_condition : Fits 1 (g.condition classifyOutputs) := by
  unfold condition
  split
  · trivial
  · split
    · exact ⟨by decide, g.fits_intents, by decide⟩
    · split
      · exact g.fits_intents
      · exact g.fits_intents

section Eval

variable {v : Environment} {i : Intent}

theorem eval_isIntent (h : v.Shows i) (k : IntentKind) :
    v.eval (isIntent k) = some (.bool (k == i.kind)) := by
  show (do let x ← v.context "needs.classify.outputs.intent"
           (x.equal? (.text k.name)).map Value.bool) = _
  rw [h.intent]
  show some (Value.bool (Text.eqIgnoreAsciiCase i.kind.name k.name)) = _
  rw [IntentKind.eqIgnoreAsciiCase_name]

theorem eval_intents (h : v.Shows i) :
    v.eval (Expression.anyOf (g.kinds.map isIntent)) = some (.bool (g.activatesOn i.kind)) := by
  rw [Environment.eval_anyOf (eval_isIntent h), any_kinds]

theorem eval_skipGates (h : v.Shows i) :
    v.eval (.differ (.context (classifyOutputs ++ ".skip_gates")) (.text "true")) =
      some (.bool !i.skipsGates) := by
  obtain ⟨s, hs, ht⟩ := h.skipGates
  show (do let x ← v.context "needs.classify.outputs.skip_gates"
           (x.equal? (.text "true")).map fun r => Value.bool !r) = _
  rw [hs, ← ht]
  rfl

theorem eval_condition (h : v.Shows i) :
    v.eval (g.condition classifyOutputs) = some (.bool (g.evaluate i == .run)) := by
  rw [evaluate_beq_run]
  unfold condition
  split
  · -- no kind activates the guard
    rename_i hnever
    rw [← any_kinds, List.isEmpty_iff.1 hnever]
    rfl
  · split
    · rename_i hgate
      obtain ⟨hg, -⟩ := Bool.and_eq_true_iff.1 hgate
      rw [hg]
      exact Environment.eval_both (g.eval_intents h) (eval_skipGates h)
    · -- no intent that skips gates both meets a gate and activates it
      rename_i hgate
      have hopen : (g.activatesOn i.kind && !(g.gated && i.skipsGates)) = g.activatesOn i.kind := by
        by_cases hs : i.skipsGates = true
        · rw [Intent.kind_of_skipsGates hs]
          revert hgate
          cases g.gated <;> cases g.activatesOn .deployProductionHotfix <;> simp
        · rw [Bool.eq_false_iff.2 hs]
          simp
      rw [hopen]
      split
      · exact g.eval_intents h
      · exact g.eval_intents h

end Eval

end Guard

/-- The condition printed with the job of an id. -/
def WorkflowDocument.condition? (w : WorkflowDocument) (id : String) : Option String :=
  (w.job? id).bind Job.condition

theorem StageName.name_injective : Function.Injective StageName.name := by
  intro m n h
  have hm := ofName?_name m
  rw [h, ofName?_name n] at hm
  exact (Option.some.inj hm).symm

theorem StageName.name_ne_classifyJobId (n : StageName) : n.name ≠ classifyJobId := by
  cases n <;> decide

theorem Pipeline.workflowKinds_erase (p : Pipeline) :
    p.workflowKinds.erase .rollback =
      if p.hasHook "hotfix" then [WorkflowKind.main, .hotfix] else [.main] := by
  unfold workflowKinds
  cases p.hasHook "hotfix" <;> cases p.hasHook "rollback" <;> rfl

namespace EmitOptions

/-- Whether the condition in a document lets the job of a stage run; `none` where there is no
condition or it has no meaning. -/
def runsIn? (o : EmitOptions) (p : Pipeline) (k : WorkflowKind) (v : Environment) (s : Stage) :
    Option Bool :=
  ((o.document p k).condition? s.name.name).bind v.verdict?

theorem fits_jobCondition (g : Guard) : Fits 1 (jobCondition g) :=
  ⟨by decide, by decide, g.fits_condition⟩

/-- The condition of a job holds exactly where its guard decides that the stage runs. -/
theorem verdict?_jobCondition {v : Environment} {i : Intent} (h : v.Shows i) (g : Guard) :
    v.verdict? (Expression.embed (jobCondition g).print) = some (g.evaluate i == .run) := by
  have hfailure : v.eval (.not (.call "failure")) = some (.bool true) :=
    Environment.eval_not (show v.eval (.call "failure") = _ from h.failure)
  have hcancelled : v.eval (.not (.call "cancelled")) = some (.bool true) :=
    Environment.eval_not (show v.eval (.call "cancelled") = _ from h.cancelled)
  have hboth := Environment.eval_both hfailure hcancelled
  rw [Environment.verdict?_print v (fits_jobCondition g), jobCondition,
    Environment.eval_both hboth (show v.eval (.group _) = _ from g.eval_condition h)]
  rfl

/-! ## Jobs -/

section Collect

variable {id : String} {js : List (String × Job)}

theorem foldl_insertJob_cons (h : id ∉ js.map Prod.fst) (first : Job)
    (all : List (String × Job)) :
    js.foldl (fun all j => Workflow.insertJob j.1 j.2 all) ((id, first) :: all) =
      (id, first) :: js.foldl (fun all j => Workflow.insertJob j.1 j.2 all) all := by
  induction js generalizing all with
  | nil => rfl
  | cons j js ih =>
    rw [List.map_cons, List.mem_cons, not_or] at h
    rw [List.foldl_cons, List.foldl_cons, Workflow.insertJob, if_neg h.1, ih h.2]

/-- A first job stays in its place if no later one has its id. -/
theorem collect_cons (h : id ∉ js.map Prod.fst) (first : Job) :
    collect ((id, first) :: js) = (id, first) :: collect js :=
  foldl_insertJob_cons h first []

/-- Jobs with distinct ids are all kept, in order. -/
theorem collect_eq_self (h : (js.map Prod.fst).Nodup) : collect js = js := by
  induction js with
  | nil => rfl
  | cons e js ih =>
    rw [List.map_cons, List.nodup_cons] at h
    rw [collect_cons h.1, ih h.2]

theorem lookup_collect {j : Job} (hn : (js.map Prod.fst).Nodup) (hj : (id, j) ∈ js) :
    (collect js).lookup id = some j := by
  rw [collect_eq_self hn]
  exact (Dict.lookup_eq_some_iff_mem hn).2 hj

end Collect

section Chain

variable (job : Option String → Stage → Job)

theorem keys_chain (previous : Option String) (ss : List Stage) :
    (chain job previous ss).map Prod.fst = ss.map fun s => s.name.name := by
  induction ss generalizing previous with
  | nil => rfl
  | cons s ss ih => rw [chain, List.map_cons, ih, List.map_cons]

theorem mem_chain {s : Stage} {ss : List Stage} (hs : s ∈ ss) (previous : Option String) :
    ∃ before, (s.name.name, job before s) ∈ chain job previous ss := by
  induction ss generalizing previous with
  | nil => exact absurd hs List.not_mem_nil
  | cons t ss ih =>
    rcases List.mem_cons.1 hs with rfl | hs
    · exact ⟨previous, List.mem_cons_self⟩
    · obtain ⟨before, hb⟩ := ih hs (some t.name.name)
      exact ⟨before, List.mem_cons_of_mem _ hb⟩

theorem notMem_stageIds {id : String} (hid : ∀ n : StageName, n.name ≠ id) (ss : List Stage) :
    id ∉ ss.map fun s => s.name.name := by
  intro h
  obtain ⟨s, -, hs⟩ := List.mem_map.1 h
  exact hid s.name hs

/-- A first job and the jobs of distinct stages have distinct ids. -/
theorem nodup_stageIds {id : String} (hid : ∀ n : StageName, n.name ≠ id) {ss : List Stage}
    (hss : (ss.map Stage.name).Nodup) : (id :: ss.map fun s => s.name.name).Nodup := by
  have h := List.Nodup.map StageName.name_injective hss
  rw [List.map_map] at h
  exact List.nodup_cons.2 ⟨notMem_stageIds hid ss, h⟩

theorem nodup_ids {id : String} (hid : ∀ n : StageName, n.name ≠ id) (first : Job)
    (previous : Option String) {ss : List Stage} (hss : (ss.map Stage.name).Nodup) :
    (((id, first) :: chain job previous ss).map Prod.fst).Nodup := by
  rw [List.map_cons, keys_chain]
  exact nodup_stageIds hid hss

end Chain

/-! ## Workflows -/

section Runs

variable (o : EmitOptions) {p : Pipeline} {s : Stage}

theorem lookup_classifiedJobs (hp : (p.stages.map Stage.name).Nodup) (hs : s ∈ p.stages)
    (cond : Option String) (guard : Stage → Guard) (environment : String) :
    ∃ j, (o.classifiedJobs p cond guard environment).lookup s.name.name = some j ∧
      j.condition = some (Expression.embed (jobCondition (guard s)).print) := by
  unfold classifiedJobs
  simp only
  obtain ⟨before, hj⟩ := mem_chain _ hs none
  refine ⟨_, lookup_collect ?_ (List.mem_cons_of_mem _ hj), rfl⟩
  exact nodup_ids _ StageName.name_ne_classifyJobId (o.classifyJob cond) none hp

/-- A stage's job in a classified workflow prints the guard of the stage there. -/
theorem condition?_document (hp : (p.stages.map Stage.name).Nodup) (hs : s ∈ p.stages)
    {k : WorkflowKind} (hk : k ≠ .rollback) :
    (o.document p k).condition? s.name.name =
      some (Expression.embed (jobCondition (guardIn p k s)).print) := by
  unfold WorkflowDocument.condition?
  rw [job?_document]
  unfold workflow
  cases k with
  | main =>
    obtain ⟨j, hj, hc⟩ := o.lookup_classifiedJobs hp hs none (guardIn p .main)
      (Expression.embed (classifyOutputs ++ ".environment"))
    rw [jobs, hj]
    exact hc
  | hotfix =>
    obtain ⟨j, hj, hc⟩ := o.lookup_classifiedJobs hp hs
      (some ("contains(github.event.release.tag_name, '" ++ Tag.hotfixMarker ++ "')"))
      (guardIn p .hotfix) "production"
    rw [jobs, hj]
    exact hc
  | rollback => exact absurd rfl hk

variable {v : Environment} {i : Intent}

theorem runsIn_eq (hp : (p.stages.map Stage.name).Nodup) (hs : s ∈ p.stages) (hv : v.Shows i)
    {k : WorkflowKind} (hk : k ≠ .rollback) :
    o.runsIn? p k v s = some ((guardIn p k s).evaluate i == .run) := by
  rw [runsIn?, o.condition?_document hp hs hk]
  exact verdict?_jobCondition hv _

/-- In the document of the main workflow and in that of the hotfix workflow, where there is one, the
condition of a stage's job holds just where the guard decides so: hotfix intents in the hotfix
workflow, the others in the main one. So a stage that runs for an intent runs in one of them, and no
other stage runs. -/
theorem stage_runs_in_one_workflow (hp : (p.stages.map Stage.name).Nodup) (hs : s ∈ p.stages)
    (hv : v.Shows i) :
    o.emit p = p.workflowKinds.map
      (fun k => ⟨k.fileName, o.header p ++ (o.document p k).print⟩) ∧
    (p.hasHook "hotfix" = false → o.runsIn? p .main v s = some (s.guard.evaluate i == .run)) ∧
    (p.hasHook "hotfix" = true →
      o.runsIn? p .main v s =
        some (s.guard.evaluate i == .run && i.kind != .deployProductionHotfix) ∧
      o.runsIn? p .hotfix v s =
        some (s.guard.evaluate i == .run && i.kind == .deployProductionHotfix)) ∧
    ((p.workflowKinds.erase .rollback).filter fun k => o.runsIn? p k v s == some true).length =
      if s.guard.evaluate i = .run then 1 else 0 := by
  have hmain : o.runsIn? p .main v s = _ := o.runsIn_eq hp hs hv (by decide)
  have hhotfix : o.runsIn? p .hotfix v s = _ := o.runsIn_eq hp hs hv (by decide)
  simp only [guardIn] at hmain hhotfix
  rw [Guard.evaluate_restrictedTo] at hhotfix
  rw [p.workflowKinds_erase]
  cases hh : p.hasHook "hotfix" with
  | false =>
    rw [hh, if_neg Bool.false_ne_true] at hmain
    refine ⟨rfl, fun _ => hmain, fun h => absurd h (by decide), ?_⟩
    show (List.filter _ [WorkflowKind.main]).length = _
    rw [List.filter_cons, hmain]
    cases s.guard.evaluate i <;> rfl
  | true =>
    rw [hh, if_pos rfl, Guard.evaluate_without] at hmain
    refine ⟨rfl, fun h => absurd h (by decide), fun _ => ⟨hmain, hhotfix⟩, ?_⟩
    show (List.filter _ [WorkflowKind.main, .hotfix]).length = _
    rw [List.filter_cons, List.filter_cons, hmain, hhotfix]
    cases s.guard.evaluate i
    · cases i.kind <;> rfl
    · rfl

/-- A hotfix that skips gates passes over the tests and deploys. -/
def hotfixPipeline : Pipeline :=
  ⟨[], [.new .test [], .new .deploy []], ∅, ∅, [], [⟨.hooks, "hotfix"⟩]⟩

theorem stage_runs_in_one_workflow_hotfixPipeline :
    let runs (s : Stage) := (hotfixPipeline.workflowKinds.erase .rollback).filter fun k =>
      (new "shop").runsIn? hotfixPipeline k (.showing (.deployProductionHotfix true)) s == some true
    (runs (.new .test [])).length = 0 ∧ (runs (.new .deploy [])).length = 1 := by
  have hv := Environment.shows_showing (.deployProductionHotfix true)
  have hp : (hotfixPipeline.stages.map Stage.name).Nodup := by decide
  have htest : Stage.new .test [] ∈ hotfixPipeline.stages := .head _
  have hdeploy : Stage.new .deploy [] ∈ hotfixPipeline.stages := .tail _ (.head _)
  exact ⟨((new "shop").stage_runs_in_one_workflow hp htest hv).2.2.2,
    ((new "shop").stage_runs_in_one_workflow hp hdeploy hv).2.2.2⟩

end Runs

end EmitOptions

end PipeLoom
