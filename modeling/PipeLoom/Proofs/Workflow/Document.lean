import PipeLoom.Proofs.Yaml.Comment
import PipeLoom.Proofs.Yaml.Written
import PipeLoom.Workflow.Emit

/-!
# Reading workflow documents

A workflow document that is printed and read again is the one that was printed, also behind comment
lines (`ofText?_comment_print`).
-/

namespace PipeLoom.WorkflowDocument

open Yaml (Document IsComment Node isAllowed)
open Yaml.Document (Yields)

variable {w : WorkflowDocument}

def fieldNames : List String := ["name", "on", "env", "jobs"]

theorem exists_read_print (h : w.toNode.ReadsBack) :
    ∃ d, Document.ofText? w.print = some d ∧ (read d).run' 0 = some w := by
  obtain ⟨d, t, ts, n, m, htext, hroot, hn, hentries, hall⟩ :=
    Document.exists_fields_of_readsBack h
  obtain ⟨ts, ts4, m, m4, rfl, rfl, hall, hlast⟩ := hall.exists_of_append
  obtain ⟨ts, ts3, m, m3, rfl, rfl, hmandatory, henv⟩ := hall.exists_of_append
  obtain ⟨t1, ts, m1, m, rfl, rfl, hname, hrest⟩ := hmandatory.exists_of_cons
  obtain ⟨t2, ts, m2, m, rfl, rfl, htriggers, hrest⟩ := hrest.exists_of_cons
  obtain ⟨rfl, rfl⟩ := hrest.eq_nil
  obtain ⟨t4, ts, m4, m, rfl, rfl, hjobs, hrest⟩ := hlast.exists_of_cons
  obtain ⟨rfl, rfl⟩ := hrest.eq_nil
  obtain ⟨env, rfl, hreadEnv⟩ := henv.dictField (by omega)
  obtain ⟨tag, es, k1, k2, rfl, hfollow, hvalue⟩ := Document.value_of_untagged (by omega) hjobs
  have hgiven := hentries.fields hroot (by cases env <;> simp) fieldNames
  have hfound : fieldNames.map (fun name => List.lookup name ([("name", t1), ("on", t2)] ++
      env.toList.map ("env", ·) ++ [("jobs", t4)])) = [some t1, some t2, env, some t4] := by
    cases env <;> rfl
  rw [hfound] at hgiven
  have hread : Yields d (read d) w (n + (m1 + (m2 + (m3 + (k1 + (k2 + 0)))))) :=
    hgiven.bind <| (Document.text_of_value (by omega) hname).1.bind <|
      htriggers.bind <| hreadEnv <| hfollow.bind <| hvalue.bind <| .pure w
  exact ⟨d, htext, hread.run' (by omega)⟩

/-- Comment lines before a document change nothing in what is read. -/
theorem ofText?_of_isComment {comment text : String} (h : IsComment comment.toList)
    (hallowed : comment.toList.all isAllowed = true) (hw : ofText? text = some w) :
    ofText? (comment ++ text) = some w := by
  obtain ⟨d, htext, hread⟩ := Option.bind_eq_some_iff.1 hw
  unfold ofText?
  rw [Document.ofText?_of_isComment h hallowed htext]
  exact hread

/-- What is printed is read behind comment lines. -/
theorem ofText?_comment_print {comment : String} (hw : w.toNode.ReadsBack)
    (h : IsComment comment.toList) (hallowed : comment.toList.all isAllowed = true) :
    ofText? (comment ++ w.print) = some w := by
  obtain ⟨d, htext, hread⟩ := exists_read_print hw
  exact ofText?_of_isComment h hallowed (Option.bind_eq_some_iff.2 ⟨d, htext, hread⟩)

example : (⟨"shop", .record [("push", .null)], ∅, [(.text "build",
    (Job.plain "Build" "ubuntu-latest" [.run "Test" "make test"]).toNode)]⟩ :
      WorkflowDocument).toNode.isReadBack = true := by
  decide +kernel

/-- A comment may only hold characters that a document may hold. -/
theorem ofText?_of_not_isAllowed {comment text : String} {c : Char} (hc : c ∈ comment.toList)
    (hnot : isAllowed c = false) : ofText? (comment ++ text) = none := by
  unfold ofText?
  rw [Document.ofText?_of_not_isAllowed hc hnot]
  rfl

end PipeLoom.WorkflowDocument
