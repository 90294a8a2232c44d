import PipeLoom.Proofs.Workflow.Environment
import PipeLoom.Proofs.Workflow.Header
import PipeLoom.Proofs.Workflow.Reading

/-!
# What fragments have no say in

The first job of a workflow and the variables that it sets by itself come from the options alone:
no stage has the id of the first job, and the variables are set behind those of the fragments. So
any two pipelines agree in them (`WorkflowDocument.SameClassification`), and their files read so as
long as the header is a comment, which the name of a secret may end
(`EmitOptions.emit_same_classification`).
-/

namespace PipeLoom

open Yaml (Node)

/-- The variables that tell a workflow's jobs what is deployed and how. -/
def WorkflowKind.ownNames : WorkflowKind → List String
  | main | hotfix => ["APP_NAME", "EMERGENCY_MODE"]
  | rollback => ["APP_NAME", "EMERGENCY_MODE", "ROLLBACK_TAG"]

/-- Two documents have the same first job, as it is written and as it is read, and give the same
values to the variables that a workflow sets by itself. -/
structure WorkflowDocument.SameClassification (k : WorkflowKind) (d e : WorkflowDocument) :
    Prop where
  written : (Node.map d.jobs).field? k.firstJobId = (Node.map e.jobs).field? k.firstJobId
  read : ∃ j, d.job? k.firstJobId = some j ∧ e.job? k.firstJobId = some j
  env : ∀ name ∈ k.ownNames, ∃ value, d.env.get? name = some value ∧ e.env.get? name = some value

namespace EmitOptions

variable (o : EmitOptions) (p : Pipeline)

/-! ## Any two pipelines -/

theorem exists_lookup_ownVariables (k : WorkflowKind) :
    ∀ name ∈ k.ownNames, ∃ value, (o.ownVariables k).lookup name = some value := by
  cases k <;> simp [WorkflowKind.ownNames, ownVariables, commonVariables, Dict.lookup_cons_eq]

theorem sameClassification (q : Pipeline) (k : WorkflowKind) :
    (o.document p k).SameClassification k (o.document q k) := by
  refine ⟨?_, ⟨o.firstJob k, ?_, ?_⟩, fun name hname => ?_⟩
  · unfold document
    rw [Workflow.field?_toDocument, Workflow.field?_toDocument, lookup_firstJob, lookup_firstJob]
  · rw [job?_document, lookup_firstJob]
  · rw [job?_document, lookup_firstJob]
  · obtain ⟨value, hvalue⟩ := o.exists_lookup_ownVariables k name hname
    have henv (r : Pipeline) : (o.document r k).env.get? name = some value := by
      show (o.envIn r k).get? name = some value
      rw [get?_envIn, hvalue, Option.some_or]
    exact ⟨value, henv p, henv q⟩

/-- Whatever two pipelines carry, their workflows agree in the first job and in the variables that a
workflow sets by itself, and no job of a stage has the id of a first job. Emitted files of one name
are the headers and the texts of two such workflows. Where the names of the secrets hold no line
break, and nothing that a document may not hold, the header changes nothing in what is read. -/
theorem emit_same_classification (o : EmitOptions) (p q : Pipeline) :
    (∀ k, (o.document p k).SameClassification k (o.document q k)) ∧
      (∀ k, ∃ js, (o.workflow p k).jobs = (k.firstJobId, o.firstJob k) :: js ∧
        ∀ id ∈ js.map Prod.fst, id ≠ classifyJobId ∧ id ≠ validateJobId ∧
          ∃ s ∈ p.stagesIn k, id = s.name.name) ∧
      (∀ f ∈ o.emit p, ∀ g ∈ o.emit q, f.fileName = g.fileName →
        ∃ k ∈ p.workflowKinds, k ∈ q.workflowKinds ∧
          f = ⟨k.fileName, o.header p ++ (o.document p k).print⟩ ∧
          g = ⟨k.fileName, o.header q ++ (o.document q k).print⟩) ∧
      (isAppName o.appName = true → (∀ name ∈ p.secrets.keys, IsInline name.toList) →
        ∀ k d, WorkflowDocument.ofText? (o.document p k).print = some d →
          WorkflowDocument.ofText? (o.header p ++ (o.document p k).print) = some d) := by
  refine ⟨o.sameClassification p q, fun k => ?_, fun f hf g hg hfile => ?_,
    fun hname hsecrets k d hd => ?_⟩
  · obtain ⟨js, hjobs, hids⟩ := o.exists_jobs_eq p k
    refine ⟨js, hjobs, fun id hid => ?_⟩
    obtain ⟨s, hs, rfl⟩ := List.mem_map.1 (hids hid)
    exact ⟨s.name.name_ne_classifyJobId, s.name.name_ne_validateJobId, s, hs, rfl⟩
  · obtain ⟨k, hk, rfl⟩ := List.mem_map.1 hf
    obtain ⟨l, hl, rfl⟩ := List.mem_map.1 hg
    obtain rfl : k = l := WorkflowKind.fileName_injective hfile
    exact ⟨k, hk, hl, rfl, rfl⟩
  · obtain ⟨hcomment, hallowed⟩ := isComment_of_isInline hname hsecrets
    exact WorkflowDocument.ofText?_of_isComment hcomment hallowed hd

/-! ## A secret that ends the header -/

/-- A pipeline without stages that can be rolled back. -/
def rollbackOnly (setup : List Step) (env : Dict String) (secret : String) : Pipeline :=
  ⟨setup, [], env, NameSet.ofList [secret], [], [⟨.hooks, "rollback"⟩]⟩

/-- Steps and variables that would take the place of the workflow's own. -/
def claiming : Pipeline :=
  rollbackOnly [.run "Classify trigger" ""]
    (.ofList [("APP_NAME", "other"), ("EMERGENCY_MODE", "true"), ("ROLLBACK_TAG", "v1")]) "TOKEN"

/-- The name of the secret brings an environment, and a quote that hides the workflow's own up to
the quote in the variable's value. -/
def smuggling : Pipeline :=
  rollbackOnly [] (.ofList [("ZONE", "west\"")])
    "TOKEN\nname: shop rollback\non: \x7b\x7d\nenv:\n  EMERGENCY_MODE: 'true'\nrun-name: \""

/-- The emergency mode in a document of these characters. -/
def modeIn? (cs : List Char) : Option String := do
  let d ← Yaml.Document.ofChars? cs
  let w ← (WorkflowDocument.read d).run' 0
  w.env.get? "EMERGENCY_MODE"

theorem exists_of_modeIn? {text mode : String} {cs : List Char} (htext : text.toList = cs)
    (h : modeIn? cs = some mode) :
    ∃ d, WorkflowDocument.ofText? text = some d ∧ d.env.get? "EMERGENCY_MODE" = some mode := by
  obtain ⟨t, ht, h⟩ := Option.bind_eq_some_iff.1 h
  obtain ⟨d, hd, hmode⟩ := Option.bind_eq_some_iff.1 h
  unfold WorkflowDocument.ofText?
  rw [Yaml.Document.ofText?_of_toList htext, ht]
  exact ⟨d, hd, hmode⟩

/-- Variables of the workflow's own names change nothing, in the file as in the workflow. But a
secret's name can set the emergency mode in what is read. -/
theorem emit_same_classification_smuggled :
    let o := new "shop"
    let file (p : Pipeline) : WorkflowFile := ⟨"rollback.yml", o.render p .rollback⟩
    file claiming ∈ o.emit claiming ∧ file smuggling ∈ o.emit smuggling ∧
      (o.document claiming .rollback).SameClassification .rollback
        (o.document smuggling .rollback) ∧
      (∃ d, WorkflowDocument.ofText? (file claiming).content = some d ∧
        d.env.get? "EMERGENCY_MODE" = some "$\x7b\x7b vars.EMERGENCY_MODE || 'false' \x7d\x7d") ∧
      ∃ d, WorkflowDocument.ofText? (file smuggling).content = some d ∧
        d.env.get? "EMERGENCY_MODE" = some "true" := by
  intro o file
  have hclaiming : file claiming ∈ o.emit claiming :=
    List.mem_map_of_mem (a := WorkflowKind.rollback) (by decide)
  have hsmuggling : file smuggling ∈ o.emit smuggling :=
    List.mem_map_of_mem (a := WorkflowKind.rollback) (by decide)
  obtain ⟨hsame, -, hfiles, hheader⟩ := emit_same_classification o claiming smuggling
  obtain ⟨k, -, -, hk, -⟩ := hfiles _ hclaiming _ hsmuggling rfl
  obtain rfl : WorkflowKind.rollback = k :=
    WorkflowKind.fileName_injective (congrArg WorkflowFile.fileName hk)
  refine ⟨hclaiming, hsmuggling, hsame .rollback, ?_, ?_⟩
  · have hinline : ∀ name ∈ claiming.secrets.keys, IsInline name.toList := by decide +kernel
    obtain ⟨d, hd, hmode⟩ : ∃ d,
        WorkflowDocument.ofText? (o.document claiming .rollback).print = some d ∧
          d.env.get? "EMERGENCY_MODE" =
            some "$\x7b\x7b vars.EMERGENCY_MODE || 'false' \x7d\x7d" :=
      exists_of_modeIn? (Node.toList_print _) (by decide +kernel)
    rw [hk]
    exact ⟨d, hheader (by decide +kernel) hinline .rollback d hd, hmode⟩
  · have hchars : (o.render smuggling .rollback).toList = Yaml.charsOf (o.header smuggling) ++
        (o.document smuggling .rollback).toNode.chars := by
      unfold render
      rw [String.toList_append, Yaml.charsOf_eq]
      exact congrArg _ (Node.toList_print _)
    exact exists_of_modeIn? hchars (by decide +kernel)

end EmitOptions

end PipeLoom
