import Mathlib.Data.List.Nodup
import PipeLoom.Proofs.Yaml.Fields
import PipeLoom.Workflow.Emit

/-!
# Reading jobs back

Steps and jobs are written as records in which what is empty is left out, and a step's action is
told by the fields that are there. The reader of commands takes no action that calls another, and
the other way round (`Action.runOf?_fields`, `Action.usesOf?_fields`), so every step and every job
is read back as it was, and so is each job of a document by its id
(`EmitOptions.emit_jobs_read_back`).
-/

namespace PipeLoom

open Yaml (Node)

/-! ## Actions -/

namespace Action

/-- Whether the action is a shell command. -/
def isRun : Action → Bool
  | run _ => true
  | uses _ _ => false

/-- The names that the fields of an action may have. -/
def fieldNames : Action → List String
  | run _ => ["run"]
  | uses _ _ => ["uses", "with"]

variable (a : Action)

theorem names_fields : (a.fields.map Prod.fst).Sublist a.fieldNames := by
  cases a with
  | run command => exact .refl _
  | uses action inputs => exact (Node.names_dictField "with" inputs).cons_cons "uses"

theorem nodup_names : (a.fields.map Prod.fst).Nodup := by
  refine a.names_fields.nodup ?_
  cases a with
  | run command => exact List.nodup_singleton "run"
  | uses action inputs =>
    show ["uses", "with"].Nodup
    decide

theorem own_notMem_fieldNames : ∀ key ∈ Step.ownFields, key ∉ a.fieldNames := by
  cases a with
  | run command =>
    show ∀ key ∈ Step.ownFields, key ∉ ["run"]
    decide
  | uses action inputs =>
    show ∀ key ∈ Step.ownFields, key ∉ ["uses", "with"]
    decide

theorem own_notMem_names {key : String} (h : key ∈ Step.ownFields) : key ∉ a.fields.map Prod.fst :=
  fun hmem => a.own_notMem_fieldNames key h (a.names_fields.subset hmem)

theorem lookup_own {key : String} (h : key ∈ Step.ownFields) : a.fields.lookup key = none := by
  rw [List.lookup_eq_none_iff]
  intro f hf
  refine bne_iff_ne.2 fun heq => a.own_notMem_names h ?_
  exact heq ▸ List.mem_map_of_mem hf

theorem hasTag_of_mem_fields {f : String × Node} (h : f ∈ a.fields) : f.2.hasTag = false := by
  cases a with
  | run command =>
    cases List.mem_singleton.1 h
    rfl
  | uses action inputs =>
    rcases List.mem_cons.1 h with rfl | h
    · rfl
    · unfold Node.dictField at h
      split at h
      · cases h
      · cases List.mem_singleton.1 h
        exact Node.hasTag_ofDict inputs

/-- The reader of commands takes what is written for a command, and nothing that is written for
another action. -/
theorem runOf?_fields : runOf? (Node.entriesOf a.fields) = if a.isRun then some a else none := by
  unfold runOf?
  rw [Node.fieldsFrom?_entriesOf a.nodup_names]
  cases a with
  | run command => rfl
  | uses action inputs => simp [fields, Dict.lookup_cons_eq, Node.lookup_dictField, isRun]

theorem usesOf?_fields : usesOf? (Node.entriesOf a.fields) = if a.isRun then none else some a := by
  unfold usesOf?
  rw [Node.fieldsFrom?_entriesOf a.nodup_names]
  cases a with
  | run command => rfl
  | uses action inputs =>
    simp [fields, Dict.lookup_cons_eq, Node.lookup_dictField, Node.orElse_ofDict?, isRun,
      Node.text?, Node.untagged]

theorem ofFields?_fields : ofFields? (Node.entriesOf a.fields) = some a := by
  unfold ofFields?
  rw [runOf?_fields, usesOf?_fields]
  cases a.isRun <;> rfl

end Action

/-! ## Steps -/

namespace Step

variable (s : Step)

/-- The fields of a step that are written. -/
def fields : List (String × Node) :=
  [("name", .text s.name)] ++ Node.optionalField "id" s.id ++ Node.optionalField "if" s.guard ++
    s.action.fields ++ Node.dictField "env" s.env

theorem names_fields :
    (s.fields.map Prod.fst).Sublist (["name", "id", "if"] ++ s.action.fieldNames ++ ["env"]) := by
  unfold fields
  simp only [List.map_append]
  exact ((((List.Sublist.refl ["name"]).append (Node.names_optionalField "id" s.id)).append
    (Node.names_optionalField "if" s.guard)).append s.action.names_fields).append
      (Node.names_dictField "env" s.env)

theorem nodup_names : (s.fields.map Prod.fst).Nodup := by
  refine s.names_fields.nodup ?_
  cases s.action with
  | run command =>
    show ["name", "id", "if", "run", "env"].Nodup
    decide
  | uses action inputs =>
    show ["name", "id", "if", "uses", "with", "env"].Nodup
    decide

theorem lookup_fields : ownFields.map (fun key => s.fields.lookup key) =
    [some (.text s.name), s.id.map .text, s.guard.map .text, Node.ofDict? s.env] := by
  have haction : ∀ key ∈ ownFields, s.action.fields.lookup key = none :=
    fun key h => s.action.lookup_own h
  simp only [ownFields, List.forall_mem_cons] at haction
  obtain ⟨-, hid, hif, henv, -⟩ := haction
  unfold ownFields fields
  simp [List.lookup_append, Dict.lookup_cons_eq, Node.lookup_optionalField, Node.lookup_dictField,
    hid, hif, henv]

/-- Beside the step's own fields there are those of its action. -/
theorem filter_fields :
    (Node.entriesOf s.fields).filter (fun e => !isOwnKey e.1) = Node.entriesOf s.action.fields := by
  have hown {name : String} (hname : name ∈ ownFields) (fs : List (String × Node))
      (hfs : (fs.map Prod.fst).Sublist [name]) :
      fs.filter (fun f => !ownFields.contains f.1) = [] := by
    rw [List.filter_eq_nil_iff]
    intro f hf
    rw [List.mem_singleton.1 (hfs.subset (List.mem_map_of_mem hf))]
    simpa using hname
  have haction : s.action.fields.filter (fun f => !ownFields.contains f.1) = s.action.fields := by
    rw [List.filter_eq_self]
    intro f hf
    have hnot : f.1 ∉ ownFields := fun h =>
      s.action.own_notMem_names h (List.mem_map_of_mem hf)
    simpa using hnot
  unfold Node.entriesOf
  rw [List.filter_map]
  refine congrArg (List.map _) ?_
  show s.fields.filter (fun f => !ownFields.contains f.1) = s.action.fields
  unfold fields
  have hname := hown (by decide) [("name", .text s.name)] (.refl ["name"])
  have hid := hown (by decide) _ (Node.names_optionalField "id" s.id)
  have hif := hown (by decide) _ (Node.names_optionalField "if" s.guard)
  have henv := hown (by decide) _ (Node.names_dictField "env" s.env)
  simp only [List.filter_append, haction, hname, hid, hif, henv, List.nil_append, List.append_nil]

/-- A step that is written is read as it was. -/
theorem ofNode?_toNode (kept : Bool) : ofNode? kept s.toNode = some s := by
  have hkeys : (Node.entriesOf s.fields).all (fun e => Node.isFieldKey (!kept) e.1) = true :=
    Node.all_isFieldKey _ _
  have htags : (Node.entriesOf s.action.fields).any (fun e => e.2.hasTag) = false := by
    unfold Node.entriesOf
    rw [List.any_map, List.any_eq_false]
    exact fun f hf => by simp [s.action.hasTag_of_mem_fields hf]
  unfold ofNode?
  rw [show s.toNode.untagged = .map (Node.entriesOf s.fields) from rfl]
  simp only [hkeys, htags, filter_fields, Node.fieldsFrom?_entriesOf s.nodup_names, lookup_fields,
    Bool.not_true, Bool.false_eq_true, if_false, Option.bind_eq_bind, Option.bind_some,
    Node.text?_text, Node.optional?_map_text, Action.ofFields?_fields, Node.orElse_ofDict?]
  rfl

/-- The fields that a step may lack are left out just where they are empty. -/
structure LeavesOut : Prop where
  id : s.toNode.field? "id" = none ↔ s.id = none
  guard : s.toNode.field? "if" = none ↔ s.guard = none
  inputs : ∀ action inputs, s.action = .uses action inputs →
    (s.toNode.field? "with" = none ↔ inputs = ∅)
  env : s.toNode.field? "env" = none ↔ s.env = ∅

theorem field?_toNode (key : String) : s.toNode.field? key = s.fields.lookup key :=
  Node.field?_record s.fields key

theorem leavesOut : s.LeavesOut := by
  obtain ⟨-, hid, hif, henv⟩ : s.fields.lookup "name" = some (.text s.name) ∧
      s.fields.lookup "id" = s.id.map .text ∧ s.fields.lookup "if" = s.guard.map .text ∧
      s.fields.lookup "env" = Node.ofDict? s.env := by
    simpa [ownFields] using s.lookup_fields
  constructor
  · rw [field?_toNode, hid, Option.map_eq_none_iff]
  · rw [field?_toNode, hif, Option.map_eq_none_iff]
  · intro action inputs haction
    rw [field?_toNode]
    unfold fields
    simp [haction, Action.fields, List.lookup_append, Dict.lookup_cons_eq,
      Node.lookup_optionalField, Node.lookup_dictField, Node.ofDict?_eq_none_iff]
  · rw [field?_toNode, henv, Node.ofDict?_eq_none_iff]

end Step

/-! ## Jobs -/

namespace Job

variable (j : Job)

/-- The fields of a job that are written. -/
def fields : List (String × Node) :=
  [("name", .text j.name), ("runs-on", .text j.runsOn)] ++
    (if j.needs.isEmpty then [] else [("needs", Node.ofTexts j.needs)]) ++
    Node.optionalField "if" j.condition ++ Node.optionalField "environment" j.environment ++
    Node.dictField "outputs" j.outputs ++ Node.dictField "env" j.env ++
    [("steps", .list (j.steps.map Step.toNode))]

theorem names_fields : (j.fields.map Prod.fst).Sublist fieldNames := by
  unfold fields
  simp only [List.map_append]
  exact (((((List.Sublist.refl ["name", "runs-on"]).append
    (Node.names_unless j.needs.isEmpty "needs" _)).append
    (Node.names_optionalField "if" j.condition)).append
    (Node.names_optionalField "environment" j.environment)).append
    (Node.names_dictField "outputs" j.outputs)).append
    (Node.names_dictField "env" j.env) |>.append (List.Sublist.refl ["steps"])

theorem nodup_names : (j.fields.map Prod.fst).Nodup := j.names_fields.nodup (by decide)

theorem lookup_fields : fieldNames.map (fun key => j.fields.lookup key) =
    [some (.text j.name), some (.text j.runsOn), Node.ofTexts? j.needs, j.condition.map .text,
      j.environment.map .text, Node.ofDict? j.outputs, Node.ofDict? j.env,
      some (.list (j.steps.map Step.toNode))] := by
  unfold fieldNames fields
  simp only [List.lookup_append, Node.lookup_textsField, Node.lookup_optionalField,
    Node.lookup_dictField]
  simp [Dict.lookup_cons_eq]

theorem field?_toNode :
    j.toNode.field? "name" = some (.text j.name) ∧
      j.toNode.field? "runs-on" = some (.text j.runsOn) ∧
      j.toNode.field? "needs" = Node.ofTexts? j.needs ∧
      j.toNode.field? "if" = j.condition.map .text ∧
      j.toNode.field? "environment" = j.environment.map .text ∧
      j.toNode.field? "outputs" = Node.ofDict? j.outputs ∧
      j.toNode.field? "env" = Node.ofDict? j.env ∧
      j.toNode.field? "steps" = some (.list (j.steps.map Step.toNode)) := by
  have hfields : fieldNames.map (fun key => j.toNode.field? key) =
      fieldNames.map fun key => j.fields.lookup key :=
    List.map_congr_left fun key _ => Node.field?_record j.fields key
  rw [lookup_fields] at hfields
  simpa [fieldNames] using hfields

/-- A job that is written is read as it was. -/
theorem ofNode?_toNode : ofNode? j.toNode = some j := by
  have hsteps : (Node.list (j.steps.map Step.toNode)).list? true (Step.ofNode? true) =
      some j.steps := Node.mapM_map _ _ (fun s => s.ofNode?_toNode true) j.steps
  unfold ofNode?
  rw [show j.toNode.untagged = .map (Node.entriesOf j.fields) from rfl]
  simp only [Node.fieldsOf?_entriesOf j.nodup_names, lookup_fields, Option.bind_eq_bind,
    Option.bind_some, Node.text?_text, Node.orElse_ofTexts?, Node.optional?_map_text,
    Node.orElse_ofDict?, hsteps]
  rfl

/-- The fields that a job may lack are left out just where they are empty. -/
structure LeavesOut : Prop where
  needs : j.toNode.field? "needs" = none ↔ j.needs = []
  condition : j.toNode.field? "if" = none ↔ j.condition = none
  environment : j.toNode.field? "environment" = none ↔ j.environment = none
  outputs : j.toNode.field? "outputs" = none ↔ j.outputs = ∅
  env : j.toNode.field? "env" = none ↔ j.env = ∅

theorem leavesOut : j.LeavesOut := by
  obtain ⟨-, -, hneeds, hcondition, henvironment, houtputs, henv, -⟩ := j.field?_toNode
  constructor
  · rw [hneeds, Node.ofTexts?_eq_none_iff]
  · rw [hcondition, Option.map_eq_none_iff]
  · rw [henvironment, Option.map_eq_none_iff]
  · rw [houtputs, Node.ofDict?_eq_none_iff]
  · rw [henv, Node.ofDict?_eq_none_iff]

end Job

/-! ## Documents -/

/-- The value under an id is that of the job. -/
theorem Workflow.field?_toDocument (w : Workflow) (id : String) :
    (Node.map w.toDocument.jobs).field? id = (w.jobs.lookup id).map Job.toNode := by
  have hrecord : Node.map w.toDocument.jobs = .record (w.jobs.map fun e => (e.1, e.2.toNode)) := by
    show Node.map _ = Node.map (List.map _ (List.map _ _))
    rw [List.map_map]
    rfl
  rw [hrecord, Node.field?_record]
  induction w.jobs with
  | nil => rfl
  | cons e es ih =>
    rw [List.map_cons, Dict.lookup_cons_eq, Dict.lookup_cons_eq, ih]
    split <;> rfl

theorem WorkflowDocument.job?_eq (w : WorkflowDocument) (id : String) :
    w.job? id = ((Node.map w.jobs).field? id).bind Job.ofNode? := by
  show Option.bind _ _ = Option.bind (Option.map _ _) _
  rw [Option.bind_map]
  rfl

/-- A document has the jobs of its workflow under their ids. -/
theorem Workflow.job?_toDocument (w : Workflow) (id : String) :
    w.toDocument.job? id = w.jobs.lookup id := by
  rw [WorkflowDocument.job?_eq, field?_toDocument, Option.bind_map]
  cases w.jobs.lookup id with
  | none => rfl
  | some j => exact j.ofNode?_toNode

/-- Each job's id with a field of the job, as the document has them. -/
def WorkflowDocument.jobFields (w : WorkflowDocument) (name : String) : List (Node × Option Node) :=
  w.jobs.map fun j => (j.1, j.2.field? name)

theorem Workflow.jobFields_toDocument (w : Workflow) (name : String) :
    w.toDocument.jobFields name = w.jobs.map fun j => (.text j.1, j.2.toNode.field? name) := by
  unfold WorkflowDocument.jobFields toDocument
  rw [List.map_map]
  rfl

theorem Workflow.jobIds_toDocument (w : Workflow) : w.toDocument.jobIds = w.jobs.map Prod.fst := by
  unfold WorkflowDocument.jobIds toDocument
  rw [List.filterMap_map]
  exact congrFun List.filterMap_eq_map _

namespace EmitOptions

theorem ids_insertJob (id : String) (j : Job) (es : List (String × Job)) :
    (Workflow.insertJob id j es).map Prod.fst =
      if id ∈ es.map Prod.fst then es.map Prod.fst else es.map Prod.fst ++ [id] := by
  induction es with
  | nil => rfl
  | cons e es ih =>
    unfold Workflow.insertJob
    by_cases he : e.1 = id
    · simp [he]
    · have hid : id ≠ e.1 := Ne.symm he
      rw [if_neg he, List.map_cons, ih, List.map_cons]
      by_cases hes : id ∈ es.map Prod.fst
      · rw [if_pos hes, if_pos (List.mem_cons_of_mem _ hes)]
      · rw [if_neg hes, if_neg (by simp [hid, hes]), List.cons_append]

/-- A job that comes again takes the place of the first, so that each id is there once. -/
theorem nodup_collect (js : List (String × Job)) : ((collect js).map Prod.fst).Nodup := by
  unfold collect
  suffices h : ∀ all : List (String × Job), (all.map Prod.fst).Nodup →
      ((js.foldl (fun all j => Workflow.insertJob j.1 j.2 all) all).map Prod.fst).Nodup from
    h [] List.nodup_nil
  induction js with
  | nil => exact fun _ h => h
  | cons j js ih =>
    intro all hall
    refine ih _ ?_
    rw [ids_insertJob]
    split
    · exact hall
    · rename_i hnew
      rw [List.nodup_append]
      exact ⟨hall, List.nodup_singleton _, fun x hx y hy hxy =>
        hnew (List.mem_singleton.1 hy ▸ hxy ▸ hx)⟩

theorem nodup_jobs (o : EmitOptions) (p : Pipeline) (k : WorkflowKind) :
    ((o.workflow p k).jobs.map Prod.fst).Nodup := by
  cases k with
  | main => exact nodup_collect _
  | hotfix => exact nodup_collect _
  | rollback => exact nodup_collect _

theorem job?_document (o : EmitOptions) (p : Pipeline) (k : WorkflowKind) (id : String) :
    (o.document p k).job? id = (o.workflow p k).jobs.lookup id :=
  Workflow.job?_toDocument _ id

theorem job?_document_of_mem (o : EmitOptions) {p : Pipeline} {k : WorkflowKind} {id : String}
    {j : Job} (hj : (id, j) ∈ (o.workflow p k).jobs) : (o.document p k).job? id = some j := by
  rw [job?_document]
  exact (Dict.lookup_eq_some_iff_mem (o.nodup_jobs p k)).2 hj

/-- Every step and every job is read back as it was written, with nothing where a field is left out
because it is empty, and what an action does is told by its fields alone. So each job of a document
that is emitted is read back under its id. -/
theorem emit_jobs_read_back (o : EmitOptions) (p : Pipeline) :
    (∀ a : Action,
      Action.runOf? (Node.entriesOf a.fields) = (if a.isRun then some a else none) ∧
        Action.usesOf? (Node.entriesOf a.fields) = if a.isRun then none else some a) ∧
      (∀ s : Step, s.LeavesOut ∧ ∀ kept, Step.ofNode? kept s.toNode = some s) ∧
      (∀ j : Job, j.LeavesOut ∧ Job.ofNode? j.toNode = some j) ∧
      o.emit p = p.workflowKinds.map (fun k =>
        ⟨k.fileName, o.header p ++ (o.document p k).print⟩) ∧
      ∀ k id j, (id, j) ∈ (o.workflow p k).jobs → (o.document p k).job? id = some j :=
  ⟨fun a => ⟨a.runOf?_fields, a.usesOf?_fields⟩, fun s => ⟨s.leavesOut, s.ofNode?_toNode⟩,
    fun j => ⟨j.leavesOut, j.ofNode?_toNode⟩, rfl, fun _ _ _ hj => o.job?_document_of_mem hj⟩

/-- Steps of empty texts; only where nothing is given a field is left out. -/
def emptyTexts : Pipeline :=
  ⟨[⟨"", some "", some "", .uses "" ∅, ∅⟩], [.new .lint [.run "" ""]], ∅, ∅, [], []⟩

theorem emit_jobs_read_back_emptyTexts :
    (((new "").document emptyTexts .main).job? "lint").map Job.steps =
      some [.uses "Checkout" checkoutAction, ⟨"", some "", some "", .uses "" ∅, ∅⟩,
        .run "" ""] := by
  obtain ⟨-, -, -, -, hread⟩ := (new "").emit_jobs_read_back emptyTexts
  rw [hread .main "lint" _ (.tail _ (.head _))]
  rfl

end EmitOptions

end PipeLoom
