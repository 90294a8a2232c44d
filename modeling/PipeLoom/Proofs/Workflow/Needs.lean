import Mathlib.Data.List.Induction
import Mathlib.Data.List.Nodup
import Mathlib.Logic.Relation
import PipeLoom.Proofs.Workflow.Jobs

/-!
# What jobs wait for

In every workflow a job needs the job right before it and no later one (`JobGraph.Chained`). By way
of the others it then waits for every job before it and for nothing else
(`JobGraph.Chained.waitsFor_iff`), so a gate or a tag check that fails holds back all that follows.
`EmitOptions.emit_job_graph`: so it is in every file that is emitted.
-/

namespace PipeLoom

open Yaml (Node)

/-! ## Job graphs -/

/-- The ids of jobs in order, each with the ids of the jobs that it needs. -/
abbrev JobGraph := List (String × List String)

namespace JobGraph

variable {g : JobGraph} {earlier needs : List String} {before after : JobGraph} {a b : String}

def ids (g : JobGraph) : List String := g.map Prod.fst

/-- The first job names the second among those it needs. -/
def Needs (g : JobGraph) (a b : String) : Prop := ∃ needs, (a, needs) ∈ g ∧ b ∈ needs

/-- The second job is an ancestor of the first. -/
def WaitsFor (g : JobGraph) : String → String → Prop := Relation.TransGen g.Needs

/-- Jobs behind earlier ones of the given ids: each needs jobs before it only, the last of them
among these. -/
inductive Chained : List String → JobGraph → Prop
  | nil {earlier : List String} : Chained earlier []
  | cons {earlier needs : List String} {a : String} {g : JobGraph} :
      (∀ b ∈ needs, b ∈ earlier) → (∀ b ∈ earlier.getLast?, b ∈ needs) →
      Chained (earlier ++ [a]) g → Chained earlier ((a, needs) :: g)

theorem mem_of_eq (hg : g = before ++ (a, needs) :: after) : (a, needs) ∈ g := by
  rw [hg]
  exact List.mem_append_right _ List.mem_cons_self

theorem Chained.needs_at (h : Chained earlier (before ++ (a, needs) :: after)) :
    (∀ b ∈ needs, b ∈ earlier ++ ids before) ∧
      ∀ b ∈ (earlier ++ ids before).getLast?, b ∈ needs := by
  induction before generalizing earlier with
  | nil =>
    cases h with
    | cons hearlier hlast _ => simpa [ids] using ⟨hearlier, hlast⟩
  | cons j before ih =>
    cases h with
    | cons _ _ htail => simpa [ids] using ih htail

theorem Chained.mem_of_needs (h : Chained [] g) (hids : (ids g).Nodup)
    (hg : g = before ++ (a, needs) :: after) (hb : g.Needs a b) : b ∈ ids before := by
  obtain ⟨needs', hmem, hb⟩ := hb
  have hneeds : needs' = needs :=
    congrArg Prod.snd (List.inj_on_of_nodup_map hids hmem (mem_of_eq hg) rfl)
  rw [hneeds] at hb
  rw [hg] at h
  have hearlier := h.needs_at.1 b hb
  rwa [List.nil_append] at hearlier

/-- What a job waits for comes before it: each step leads further to the front. -/
theorem Chained.mem_of_waitsFor (h : Chained [] g) (hids : (ids g).Nodup)
    (hg : g = before ++ (a, needs) :: after) (hb : g.WaitsFor a b) : b ∈ ids before := by
  induction hb with
  | single hab => exact h.mem_of_needs hids hg hab
  | tail _ hbc ih =>
    obtain ⟨⟨b, needs'⟩, hb, rfl⟩ := List.mem_map.1 ih
    obtain ⟨front, rest, hbefore⟩ := List.append_of_mem hb
    have hg' : g = front ++ (b, needs') :: (rest ++ (a, needs) :: after) := by
      rw [hg, hbefore, List.append_assoc, List.cons_append]
    have hc := h.mem_of_needs hids hg' hbc
    simp only [ids, hbefore, List.map_append, List.mem_append]
    exact .inl hc

/-- A job needs the last one before it, and by way of it waits for the others. -/
theorem Chained.waitsFor_of_mem (h : Chained [] g) (hg : g = before ++ (a, needs) :: after)
    (hb : b ∈ ids before) : g.WaitsFor a b := by
  induction before using List.reverseRecOn generalizing a needs after with
  | nil => exact absurd hb List.not_mem_nil
  | append_singleton before j ih =>
    obtain ⟨c, needs'⟩ := j
    have hc : c ∈ needs := by
      rw [hg] at h
      exact h.needs_at.2 c (by simp [ids])
    have hac : g.Needs a c := ⟨needs, mem_of_eq hg, hc⟩
    have hg' : g = before ++ (c, needs') :: ((a, needs) :: after) := by
      rw [hg, List.append_assoc, List.singleton_append]
    have hcases : b ∈ ids before ∨ b = c := by
      simpa [ids] using hb
    rcases hcases with hb | rfl
    · exact .head hac (ih hg' hb)
    · exact .single hac

theorem Chained.waitsFor_iff (h : Chained [] g) (hids : (ids g).Nodup)
    (hg : g = before ++ (a, needs) :: after) : g.WaitsFor a b ↔ b ∈ ids before :=
  ⟨h.mem_of_waitsFor hids hg, h.waitsFor_of_mem hg⟩

theorem Chained.acyclic (h : Chained [] g) (hids : (ids g).Nodup) (a : String) :
    ¬g.WaitsFor a a := by
  intro ha
  obtain ⟨_, ⟨needs, hmem, -⟩, -⟩ := Relation.TransGen.head'_iff.1 ha
  obtain ⟨before, after, hg⟩ := List.append_of_mem hmem
  have hbefore := h.mem_of_waitsFor hids hg ha
  simp only [hg, ids, List.map_append, List.map_cons] at hids
  exact (List.nodup_append.1 hids).2.2 a hbefore a List.mem_cons_self rfl

theorem Chained.waitsFor_of_ids (h : Chained [] g) {front rest : List String}
    (hg : ids g = front ++ a :: rest) (hb : b ∈ front) : g.WaitsFor a b := by
  obtain ⟨before, tail, hsplit, hfront, htail⟩ := List.map_eq_append_iff.1 hg
  obtain ⟨⟨a', needs⟩, after, rfl, ha, -⟩ := List.map_eq_cons_iff.1 htail
  obtain rfl : a' = a := ha
  refine h.waitsFor_of_mem hsplit ?_
  rw [ids, hfront]
  exact hb

/-- Each job needs jobs before it only, and waits for all of these and for nothing else. -/
structure Sequential (g : JobGraph) : Prop where
  needs_earlier : ∀ before a needs after, g = before ++ (a, needs) :: after →
    ∀ b ∈ needs, b ∈ ids before
  waitsFor_iff : ∀ before a needs after, g = before ++ (a, needs) :: after →
    ∀ b, g.WaitsFor a b ↔ b ∈ ids before
  acyclic : ∀ a, ¬g.WaitsFor a a

theorem Chained.sequential (h : Chained [] g) (hids : (ids g).Nodup) : g.Sequential where
  needs_earlier _ _ needs _ hg _ hb := h.mem_of_needs hids hg ⟨needs, mem_of_eq hg, hb⟩
  waitsFor_iff _ _ _ _ hg _ := h.waitsFor_iff hids hg
  acyclic := h.acyclic hids

end JobGraph

/-! ## Graphs of workflows -/

/-- The jobs of a workflow and what each needs. -/
def Workflow.graph (w : Workflow) : JobGraph := w.jobs.map fun j => (j.1, j.2.needs)

/-- The jobs of a document and what each needs, as they are read from it. -/
def WorkflowDocument.graph (d : WorkflowDocument) : JobGraph :=
  d.jobIds.filterMap fun id => (d.job? id).map fun j => (id, j.needs)

theorem Workflow.jobFields_needs (w : Workflow) :
    w.toDocument.jobFields "needs" = w.graph.map fun j => (.text j.1, Node.ofTexts? j.2) := by
  unfold graph
  rw [jobFields_toDocument, List.map_map]
  refine List.map_congr_left fun j _ => ?_
  obtain ⟨-, -, hneeds, -⟩ := j.2.field?_toNode
  exact Prod.ext rfl hneeds

namespace EmitOptions

open JobGraph (Chained)

section Collect

variable {job : Option String → Stage → Job} {needs : Option String → List String} {first : String}

/-- Jobs of stages go on from the jobs before them, if each needs the job of the stage before and
nothing else but the first job. -/
theorem chained_chain (hjob : ∀ previous s, (job previous s).needs = needs previous)
    (hneeds : ∀ id, id ∈ needs (some id) ∧ ∀ b ∈ needs (some id), b = first ∨ b = id)
    {earlier : List String} {previous : Option String} (hfirst : first ∈ earlier)
    (hearlier : ∀ b ∈ needs previous, b ∈ earlier)
    (hlast : ∀ b ∈ earlier.getLast?, b ∈ needs previous) (ss : List Stage) :
    Chained earlier ((chain job previous ss).map fun j => (j.1, j.2.needs)) := by
  induction ss generalizing earlier previous with
  | nil => exact .nil
  | cons s ss ih =>
    rw [chain, List.map_cons, hjob]
    obtain ⟨hself, honly⟩ := hneeds s.name.name
    refine .cons hearlier hlast (ih ?_ ?_ ?_)
    · exact List.mem_append_left _ hfirst
    · intro b hb
      rcases honly b hb with rfl | rfl
      · exact List.mem_append_left _ hfirst
      · exact List.mem_append_right _ List.mem_cons_self
    · intro b hb
      have hb : b = s.name.name := by simpa using hb.symm
      rwa [hb]

variable (needs) in
/-- A first job that needs nothing, and the jobs of stages behind it. -/
theorem graph_collect (hid : ∀ n : StageName, n.name ≠ first) {j : Job} (hj : j.needs = [])
    (hjob : ∀ previous s, (job previous s).needs = needs previous)
    (hneeds : ∀ id, id ∈ needs (some id) ∧ ∀ b ∈ needs (some id), b = first ∨ b = id)
    {previous : Option String} (hprevious : needs previous = [first]) {ss : List Stage}
    (hss : (ss.map Stage.name).Nodup) :
    let g : JobGraph :=
      (collect ((first, j) :: chain job previous ss)).map fun j => (j.1, j.2.needs)
    Chained [] g ∧ JobGraph.ids g = first :: ss.map fun s => s.name.name := by
  have hids := nodup_ids job hid j previous hss
  rw [collect_eq_self hids]
  constructor
  · rw [List.map_cons, hj]
    refine .cons (by simp) (by simp) (chained_chain hjob hneeds ?_ ?_ ?_ ss)
    · simp
    · simp [hprevious]
    · simp [hprevious]
  · show List.map Prod.fst (List.map _ (_ :: _)) = _
    rw [List.map_map, List.map_cons, ← keys_chain job previous ss]
    rfl

end Collect

variable (o : EmitOptions) {p : Pipeline}

/-- The document has the graph of its workflow, since ids come once. -/
theorem graph_document (p : Pipeline) (k : WorkflowKind) :
    (o.document p k).graph = (o.workflow p k).graph := by
  unfold WorkflowDocument.graph Workflow.graph
  rw [show (o.document p k).jobIds = _ from (o.workflow p k).jobIds_toDocument,
    List.filterMap_map, ← List.filterMap_eq_map]
  refine List.filterMap_congr fun j hj => ?_
  exact congrArg (Option.map _) (o.job?_document_of_mem hj)

theorem chained_document (hp : (p.stages.map Stage.name).Nodup) (k : WorkflowKind) :
    Chained [] (o.document p k).graph ∧
      JobGraph.ids (o.document p k).graph =
        k.firstJobId :: (p.stagesIn k).map fun s => s.name.name := by
  rw [graph_document]
  have hclassified : ∀ id, id ∈ [classifyJobId, id] ∧ ∀ b ∈ [classifyJobId, id],
      b = classifyJobId ∨ b = id := by
    simp
  cases k with
  | main =>
    exact graph_collect (fun previous => classifyJobId :: previous.toList)
      StageName.name_ne_classifyJobId rfl (fun _ _ => rfl) hclassified rfl hp
  | hotfix =>
    exact graph_collect (fun previous => classifyJobId :: previous.toList)
      StageName.name_ne_classifyJobId rfl (fun _ _ => rfl) hclassified rfl hp
  | rollback =>
    exact graph_collect Option.toList StageName.name_ne_validateJobId rfl
      (fun _ _ => rfl) (by simp) rfl (Pipeline.nodup_stagesIn hp .rollback)

theorem exists_of_mem_chain {job : Option String → Stage → Job} {previous : Option String}
    {ss : List Stage} {j : String × Job} (hj : j ∈ chain job previous ss) :
    ∃ before s, j.2 = job before s := by
  induction ss generalizing previous with
  | nil => exact absurd hj List.not_mem_nil
  | cons s ss ih =>
    rcases List.mem_cons.1 hj with rfl | hj
    · exact ⟨previous, s, rfl⟩
    · exact ih hj

/-- Nothing but what they need keeps the jobs of a rollback from running. -/
theorem condition_rollbackJobs (hp : (p.stages.map Stage.name).Nodup) {j : String × Job}
    (hj : j ∈ o.rollbackJobs p) : j.2.condition = none := by
  have hss := Pipeline.nodup_stagesIn hp .rollback
  unfold Pipeline.stagesIn at hss
  unfold rollbackJobs at hj
  simp only at hj hss
  rw [collect_eq_self (nodup_ids _ StageName.name_ne_validateJobId _ _ hss)] at hj
  rcases List.mem_cons.1 hj with rfl | hj
  · rfl
  · obtain ⟨before, s, hjob⟩ := exists_of_mem_chain hj
    rw [hjob]
    rfl

theorem waitsFor_firstJob (hp : (p.stages.map Stage.name).Nodup) (k : WorkflowKind) {s : Stage}
    (hs : s ∈ p.stagesIn k) : (o.document p k).graph.WaitsFor s.name.name k.firstJobId := by
  obtain ⟨hchained, hids⟩ := o.chained_document hp k
  obtain ⟨front, rest, hsplit⟩ := List.append_of_mem hs
  rw [hsplit, List.map_append, List.map_cons, ← List.cons_append] at hids
  exact hchained.waitsFor_of_ids hids List.mem_cons_self

/-- Where deploying stages come last, their jobs wait for all others. -/
theorem deploy_waitsFor (hp : (p.stages.map Stage.name).Nodup)
    (hlast : p.stages.Pairwise fun s t => s.name.kind = .deploy → t.name.kind = .deploy)
    (k : WorkflowKind) {s t : Stage} (hs : s ∈ p.stagesIn k) (ht : t ∈ p.stagesIn k)
    (hdeploy : s.name.kind = .deploy) (hother : t.name.kind ≠ .deploy) :
    (o.document p k).graph.WaitsFor s.name.name t.name.name := by
  obtain ⟨hchained, hids⟩ := o.chained_document hp k
  have hlast := hlast.sublist (p.stagesIn_sublist k)
  obtain ⟨front, rest, hsplit⟩ := List.append_of_mem hs
  rw [hsplit] at ht hlast
  have hrest : ∀ u ∈ rest, u.name.kind = .deploy := fun u hu =>
    (List.pairwise_cons.1 (List.pairwise_append.1 hlast).2.1).1 u hu hdeploy
  have hfront : t ∈ front := by
    rcases List.mem_append.1 ht with ht | ht
    · exact ht
    · rcases List.mem_cons.1 ht with rfl | ht
      · exact absurd hdeploy hother
      · exact absurd (hrest t ht) hother
  rw [hsplit, List.map_append, List.map_cons, ← List.cons_append] at hids
  exact hchained.waitsFor_of_ids hids (List.mem_cons_of_mem _ (List.mem_map_of_mem hfront))

theorem deploy_last_of_compose {c : Catalogue} {sel : Selection} (h : c.compose sel = .ok p) :
    p.stages.Pairwise fun s t => s.name.kind = .deploy → t.name.kind = .deploy := by
  have hall : StageName.all.Pairwise fun m n => m.kind = .deploy → n.kind = .deploy := by decide
  exact List.pairwise_map.1 (hall.sublist (Catalogue.sublist_of_compose h))

/-- In each emitted document the field `needs` of every job names jobs before it only, and by way of
these fields a job waits for all jobs before it and for nothing else. So no job waits for itself;
in what composition gives, deployments wait for all gates and builds; and a rollback, whose jobs
have no conditions, waits for the check of its tag. -/
theorem emit_job_graph (hp : (p.stages.map Stage.name).Nodup) {f : WorkflowFile}
    (hf : f ∈ o.emit p) :
    ∃ k ∈ p.workflowKinds,
      let d := o.document p k
      f = ⟨k.fileName, o.header p ++ d.print⟩ ∧
      d.jobFields "needs" = d.graph.map (fun j => (.text j.1, Node.ofTexts? j.2)) ∧
      JobGraph.ids d.graph = k.firstJobId :: (p.stagesIn k).map (fun s => s.name.name) ∧
      d.graph.Sequential ∧
      (∀ c sel, Catalogue.compose c sel = .ok p → ∀ s ∈ p.stagesIn k, ∀ t ∈ p.stagesIn k,
        s.name.kind = .deploy → t.name.kind ≠ .deploy →
          d.graph.WaitsFor s.name.name t.name.name) ∧
      (k = .rollback → (∀ j ∈ d.jobFields "if", j.2 = none) ∧
        ∀ s ∈ p.stagesIn k, d.graph.WaitsFor s.name.name validateJobId) := by
  obtain ⟨k, hk, rfl⟩ := List.mem_map.1 hf
  obtain ⟨hchained, hids⟩ := o.chained_document hp k
  have hnodup : (JobGraph.ids (o.document p k).graph).Nodup := by
    rw [hids]
    exact nodup_stageIds (fun n => n.name_ne_firstJobId k) (Pipeline.nodup_stagesIn hp k)
  have hneeds : (o.document p k).jobFields "needs" =
      (o.document p k).graph.map fun j => (.text j.1, Node.ofTexts? j.2) := by
    rw [graph_document]
    exact (o.workflow p k).jobFields_needs
  refine ⟨k, hk, rfl, hneeds, hids, hchained.sequential hnodup, ?_, ?_⟩
  · intro c sel hcompose s hs t ht
    exact o.deploy_waitsFor hp (deploy_last_of_compose hcompose) k hs ht
  · rintro rfl
    refine ⟨fun j hj => ?_, fun s hs => o.waitsFor_firstJob hp .rollback hs⟩
    unfold document at hj
    rw [Workflow.jobFields_toDocument] at hj
    obtain ⟨job, hjob, rfl⟩ := List.mem_map.1 hj
    obtain ⟨-, -, -, hcondition, -⟩ := job.2.field?_toNode
    rw [hcondition, o.condition_rollbackJobs hp hjob]
    rfl

/-- A service with all stages but those around the build, and with both hooks. -/
def samplePipeline : Pipeline :=
  .ofFragments (Catalogue.builtin.selected Catalogue.sample) Catalogue.sample.fragments

/-- The deployment of a hotfix waits for the linter by way of all jobs between. -/
theorem emit_job_graph_samplePipeline :
    Catalogue.builtin.compose Catalogue.sample = .ok samplePipeline ∧
      (samplePipeline.stages.map Stage.name).Nodup ∧
      ⟨"hotfix.yml", (new "shop").render samplePipeline .hotfix⟩ ∈
        (new "shop").emit samplePipeline ∧
      ((new "shop").document samplePipeline .hotfix).graph.WaitsFor "deploy" "lint" := by
  have hcompose :=
    Catalogue.compose_of_verify Catalogue.verify_builtin Catalogue.resolve_sampleRaw
  have hp := Catalogue.nodup_of_compose hcompose
  have hkind : WorkflowKind.hotfix ∈ samplePipeline.workflowKinds := by decide
  have hf := List.mem_map_of_mem
    (f := fun k => WorkflowFile.mk k.fileName ((new "shop").render samplePipeline k)) hkind
  refine ⟨hcompose, hp, hf, ?_⟩
  obtain ⟨k, -, hk, -, -, -, hwaits, -⟩ := (new "shop").emit_job_graph hp hf
  obtain rfl : k = .hotfix :=
    (WorkflowKind.fileName_injective (congrArg WorkflowFile.fileName hk)).symm
  have hnames : StageName.lint ∈ samplePipeline.stages.map Stage.name ∧
      StageName.deploy ∈ samplePipeline.stages.map Stage.name := by
    show _ ∈ (Pipeline.stagesOf _).map _ ∧ _ ∈ (Pipeline.stagesOf _).map _
    rw [Pipeline.names_stagesOf]
    decide +kernel
  obtain ⟨lint, hlint, hlintName⟩ := List.mem_map.1 hnames.1
  obtain ⟨deploy, hdeploy, hdeployName⟩ := List.mem_map.1 hnames.2
  have h := hwaits _ _ hcompose deploy hdeploy lint hlint (by rw [hdeployName]; rfl)
    (by rw [hlintName]; decide)
  rwa [hdeployName, hlintName] at h

end EmitOptions

end PipeLoom
