import PipeLoom.Proofs.Pipeline.Stages
import PipeLoom.Proofs.Workflow.Condition

/-!
# The jobs of each workflow

Jobs are collected by their ids, and the ids of a pipeline with distinct stages are distinct, so
that none takes the place of another: each workflow holds its first job and then the jobs of its
stages in order. `EmitOptions.emit_jobs_and_steps`: so it is in every file that is emitted.
-/

namespace PipeLoom

open Yaml (Node)

namespace WorkflowKind

/-- The id of the job that goes before those of the stages. -/
def firstJobId : WorkflowKind → String
  | main | hotfix => classifyJobId
  | rollback => validateJobId

/-- The step that a stage's job starts with. -/
def checkout : WorkflowKind → Step
  | main | hotfix => .uses "Checkout" checkoutAction
  | rollback => (Step.uses "Checkout" checkoutAction).withInput "ref" "${{ inputs.tag }}"

end WorkflowKind

/-- The stages that have a job in the workflow. What is deployed again has passed the gates. -/
def Pipeline.stagesIn (p : Pipeline) : WorkflowKind → List Stage
  | .main | .hotfix => p.stages
  | .rollback => p.stages.filter fun s => s.name.kind != .gate

/-- Each job's id with its steps. -/
def Workflow.jobSteps (w : Workflow) : List (String × List Step) :=
  w.jobs.map fun j => (j.1, j.2.steps)

theorem StageName.name_ne_validateJobId (n : StageName) : n.name ≠ validateJobId := by
  cases n <;> decide

theorem StageName.name_ne_firstJobId (n : StageName) (k : WorkflowKind) :
    n.name ≠ k.firstJobId := by
  cases k with
  | main => exact n.name_ne_classifyJobId
  | hotfix => exact n.name_ne_classifyJobId
  | rollback => exact n.name_ne_validateJobId

/-! ## Distinct stages -/

theorem Pipeline.stagesIn_sublist (p : Pipeline) (k : WorkflowKind) :
    (p.stagesIn k).Sublist p.stages := by
  cases k with
  | main => exact .refl _
  | hotfix => exact .refl _
  | rollback => exact List.filter_sublist

theorem Pipeline.nodup_stagesIn {p : Pipeline} (hp : (p.stages.map Stage.name).Nodup)
    (k : WorkflowKind) : ((p.stagesIn k).map Stage.name).Nodup :=
  hp.sublist ((p.stagesIn_sublist k).map _)

/-! ## Steps in a document -/

theorem Workflow.jobFields_steps (w : Workflow) :
    w.toDocument.jobFields "steps" =
      w.jobSteps.map fun j => (.text j.1, some (.list (j.2.map Step.toNode))) := by
  unfold jobSteps
  rw [jobFields_toDocument, List.map_map]
  refine List.map_congr_left fun j _ => ?_
  obtain ⟨-, -, -, -, -, -, -, hsteps⟩ := j.2.field?_toNode
  exact Prod.ext rfl hsteps

namespace EmitOptions

/-! ## Collecting -/

theorem steps_chain {job : Option String → Stage → Job} {steps : Stage → List Step}
    (h : ∀ before s, (job before s).steps = steps s) (previous : Option String) (ss : List Stage) :
    (chain job previous ss).map (fun j => (j.1, j.2.steps)) =
      ss.map fun s => (s.name.name, steps s) := by
  induction ss generalizing previous with
  | nil => rfl
  | cons s ss ih => rw [chain, List.map_cons, ih, h, List.map_cons]

/-- A first job and the jobs of stages make up a workflow as they are. -/
theorem jobSteps_collect {id : String} (hid : ∀ n : StageName, n.name ≠ id) (first : Job)
    {job : Option String → Stage → Job} (steps : Stage → List Step)
    (hsteps : ∀ before s, (job before s).steps = steps s) (previous : Option String)
    {ss : List Stage} (hss : (ss.map Stage.name).Nodup) :
    (collect ((id, first) :: chain job previous ss)).map (fun j => (j.1, j.2.steps)) =
      (id, first.steps) :: ss.map fun s => (s.name.name, steps s) := by
  rw [collect_eq_self (nodup_ids job hid first previous hss), List.map_cons, steps_chain hsteps]

theorem ids_collect_subset (js : List (String × Job)) :
    (collect js).map Prod.fst ⊆ js.map Prod.fst := by
  unfold collect
  suffices h : ∀ all : List (String × Job),
      (js.foldl (fun all j => Workflow.insertJob j.1 j.2 all) all).map Prod.fst ⊆
        all.map Prod.fst ++ js.map Prod.fst from
    h []
  induction js with
  | nil => exact fun all => by simp
  | cons j js ih =>
    intro all id hid
    have hid := ih _ hid
    rw [ids_insertJob, List.mem_append] at hid
    rw [List.map_cons, List.mem_append, List.mem_cons]
    split at hid
    · exact hid.imp_right .inr
    · rw [List.mem_append, List.mem_singleton, or_assoc] at hid
      exact hid

/-! ## The first job -/

section First

variable (o : EmitOptions) (p : Pipeline)

/-- The job that goes before those of the stages. -/
def firstJob : WorkflowKind → Job
  | .main => o.classifyJob none
  | .hotfix =>
    o.classifyJob (some ("contains(github.event.release.tag_name, '" ++ Tag.hotfixMarker ++ "')"))
  | .rollback => o.validateJob

/-- Each workflow has its first job and behind it jobs of its stages alone. -/
theorem exists_jobs_eq (k : WorkflowKind) :
    ∃ js, o.jobs p k = (k.firstJobId, o.firstJob k) :: js ∧
      js.map Prod.fst ⊆ (p.stagesIn k).map fun s => s.name.name := by
  have hcollect (job : Option String → Stage → Job) (previous : Option String) :
      ∃ js, collect ((k.firstJobId, o.firstJob k) :: chain job previous (p.stagesIn k)) =
          (k.firstJobId, o.firstJob k) :: js ∧
        js.map Prod.fst ⊆ (p.stagesIn k).map fun s => s.name.name := by
    have hids := keys_chain job previous (p.stagesIn k)
    have hfirst : k.firstJobId ∉ (chain job previous (p.stagesIn k)).map Prod.fst :=
      hids ▸ notMem_stageIds (fun n => n.name_ne_firstJobId k) _
    exact ⟨_, collect_cons hfirst _, hids ▸ ids_collect_subset _⟩
  cases k with
  | main => exact hcollect _ _
  | hotfix => exact hcollect _ _
  | rollback => exact hcollect _ _

theorem lookup_firstJob (k : WorkflowKind) :
    (o.workflow p k).jobs.lookup k.firstJobId = some (o.firstJob k) := by
  obtain ⟨js, hjobs, -⟩ := o.exists_jobs_eq p k
  show (o.jobs p k).lookup _ = _
  rw [hjobs, List.lookup_cons_self]

end First

/-! ## Workflows -/

variable (o : EmitOptions) {p : Pipeline}

theorem jobSteps_classifiedJobs (hp : (p.stages.map Stage.name).Nodup) (condition : Option String)
    (guard : Stage → Guard) (environment : String) :
    (o.classifiedJobs p condition guard environment).map (fun j => (j.1, j.2.steps)) =
      (classifyJobId, (o.classifyJob condition).steps) ::
        p.stages.map fun s =>
          (s.name.name, .uses "Checkout" checkoutAction :: (p.setup ++ s.steps)) := by
  unfold classifiedJobs
  exact jobSteps_collect StageName.name_ne_classifyJobId _
    (fun s => .uses "Checkout" checkoutAction :: (p.setup ++ s.steps)) (fun _ _ => rfl) none hp

theorem jobSteps_rollbackJobs (hp : (p.stages.map Stage.name).Nodup) :
    (o.rollbackJobs p).map (fun j => (j.1, j.2.steps)) =
      (validateJobId, o.validateJob.steps) ::
        (p.stagesIn .rollback).map fun s =>
          (s.name.name, WorkflowKind.rollback.checkout :: (p.setup ++ s.steps)) := by
  unfold rollbackJobs
  exact jobSteps_collect StageName.name_ne_validateJobId _
    (fun s => WorkflowKind.rollback.checkout :: (p.setup ++ s.steps)) (fun _ _ => rfl) _
    (Pipeline.nodup_stagesIn hp .rollback)

theorem jobSteps_workflow (hp : (p.stages.map Stage.name).Nodup) (k : WorkflowKind) :
    ∃ first, (o.workflow p k).jobSteps = (k.firstJobId, first) ::
      (p.stagesIn k).map fun s => (s.name.name, k.checkout :: (p.setup ++ s.steps)) := by
  cases k with
  | main => exact ⟨_, o.jobSteps_classifiedJobs hp _ _ _⟩
  | hotfix => exact ⟨_, o.jobSteps_classifiedJobs hp _ _ _⟩
  | rollback => exact ⟨_, o.jobSteps_rollbackJobs hp⟩

theorem jobIds_document (hp : (p.stages.map Stage.name).Nodup) (k : WorkflowKind) :
    (o.document p k).jobIds = k.firstJobId :: (p.stagesIn k).map fun s => s.name.name := by
  obtain ⟨first, hjobs⟩ := o.jobSteps_workflow hp k
  have hids := congrArg (List.map Prod.fst) hjobs
  unfold Workflow.jobSteps at hids
  rw [List.map_map, List.map_cons, List.map_map] at hids
  exact (o.workflow p k).jobIds_toDocument.trans hids

theorem steps_job?_document (hp : (p.stages.map Stage.name).Nodup) {k : WorkflowKind} {s : Stage}
    (hs : s ∈ p.stagesIn k) : ((o.document p k).job? s.name.name).map Job.steps =
      some (k.checkout :: (p.setup ++ s.steps)) := by
  obtain ⟨first, hjobs⟩ := o.jobSteps_workflow hp k
  have hmem : (s.name.name, k.checkout :: (p.setup ++ s.steps)) ∈ (o.workflow p k).jobSteps := by
    rw [hjobs]
    exact List.mem_cons_of_mem _ (List.mem_map_of_mem hs)
  obtain ⟨⟨id, j⟩, hj, heq⟩ := List.mem_map.1 hmem
  obtain ⟨rfl, hsteps⟩ := Prod.mk.inj heq
  rw [o.job?_document_of_mem hj]
  exact congrArg some hsteps

/-- What is emitted for a pipeline with distinct stages, as it is for every composed one: the main
workflow, then that for hotfixes and that for rollbacks where the hooks of these names are among the
fragments. Each document has its first job and then, in order, the jobs of its stages; the steps of
such a job, as it is read from the document, are the checkout, the setup and the steps of the
stage. -/
theorem emit_jobs_and_steps (o : EmitOptions) (p : Pipeline) :
    (∀ (c : Catalogue) s, c.compose s = .ok p → (p.stages.map Stage.name).Nodup) ∧
      ((p.stages.map Stage.name).Nodup →
        (o.emit p).map WorkflowFile.fileName =
          "pipeline.yml" :: (if ⟨.hooks, "hotfix"⟩ ∈ p.fragments then ["hotfix.yml"] else []) ++
            (if ⟨.hooks, "rollback"⟩ ∈ p.fragments then ["rollback.yml"] else []) ∧
        ∀ f ∈ o.emit p, ∃ k ∈ p.workflowKinds,
          let d := o.document p k
          f = ⟨k.fileName, o.header p ++ d.print⟩ ∧
          d.jobIds = k.firstJobId :: (p.stagesIn k).map (fun s => s.name.name) ∧
          (∀ s ∈ p.stagesIn k,
            (d.job? s.name.name).map Job.steps = some (k.checkout :: (p.setup ++ s.steps))) ∧
          ∃ first, d.jobFields "steps" = (.text k.firstJobId, some first) ::
            (p.stagesIn k).map fun s => (.text s.name.name,
              some (.list ((k.checkout :: (p.setup ++ s.steps)).map Step.toNode)))) := by
  refine ⟨fun c s h => Catalogue.nodup_of_compose h, fun hp => ⟨?_, fun f hf => ?_⟩⟩
  · unfold emit Pipeline.workflowKinds Pipeline.hasHook
    simp only [List.contains_iff_mem]
    split <;> split <;> rfl
  · obtain ⟨k, hk, rfl⟩ := List.mem_map.1 hf
    obtain ⟨first, hjobs⟩ := o.jobSteps_workflow hp k
    refine ⟨k, hk, rfl, o.jobIds_document hp k, fun s => o.steps_job?_document hp,
      .list (first.map Step.toNode), ?_⟩
    unfold document
    rw [Workflow.jobFields_steps, hjobs, List.map_cons, List.map_map]
    rfl

/-- A pipeline with a gate, setup steps, both hooks and steps of one name in two stages. -/
def twoHookPipeline : Pipeline :=
  ⟨[.run "Setup" "make setup"],
    [.new .lint [.run "Run" "make lint"], .new .deploy [.run "Run" "make deploy", .run "Run" ""]],
    ∅, ∅, [], [⟨.hooks, "hotfix"⟩, ⟨.hooks, "rollback"⟩]⟩

theorem emit_jobs_and_steps_twoHookPipeline :
    (twoHookPipeline.stages.map Stage.name).Nodup ∧
      ((new "shop").emit twoHookPipeline).map WorkflowFile.fileName =
        ["pipeline.yml", "hotfix.yml", "rollback.yml"] ∧
      ((new "shop").document twoHookPipeline .rollback).jobIds = ["validate-tag", "deploy"] ∧
      (((new "shop").document twoHookPipeline .rollback).job? "deploy").map Job.steps =
        some [(Step.uses "Checkout" checkoutAction).withInput "ref" "${{ inputs.tag }}",
          .run "Setup" "make setup", .run "Run" "make deploy", .run "Run" ""] := by
  have hp : (twoHookPipeline.stages.map Stage.name).Nodup := by decide
  obtain ⟨hnames, hfiles⟩ := ((new "shop").emit_jobs_and_steps twoHookPipeline).2 hp
  have hfile := List.mem_map_of_mem
    (f := fun k => WorkflowFile.mk k.fileName ((new "shop").render twoHookPipeline k))
    (show WorkflowKind.rollback ∈ twoHookPipeline.workflowKinds by decide)
  obtain ⟨k, -, hk, hids, hsteps, -⟩ := hfiles _ hfile
  obtain rfl : k = .rollback :=
    (WorkflowKind.fileName_injective (congrArg WorkflowFile.fileName hk)).symm
  have hdeploy := hsteps (.new .deploy [.run "Run" "make deploy", .run "Run" ""]) (.head _)
  exact ⟨hp, hnames, hids, hdeploy⟩

end EmitOptions

end PipeLoom
