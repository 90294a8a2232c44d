import PipeLoom.Proofs.Pipeline.Environment
import PipeLoom.Proofs.Provider.Settings
import PipeLoom.Proofs.Workflow.Document
import PipeLoom.Workflow.Emit

/-!
# The header of a workflow

The header is put together from texts as they are: the application name, which is checked, and the
names of the secrets, which are not. A secret name with a line break in it can end the comment, and
what follows is read as part of the workflow (`emit_reads_back`).
-/

namespace PipeLoom

open Yaml (Follows IsComment isAllowed isBreak)

/-! ## Comment lines -/

/-- A document may hold each character of the text, and none ends the line. -/
def IsInline (s : List Char) : Prop := ∀ c ∈ s, isAllowed c = true ∧ isBreak c = false

instance (s : List Char) : Decidable (IsInline s) := List.decidableBAll _ s

theorem IsInline.append {s t : List Char} (hs : IsInline s) (ht : IsInline t) : IsInline (s ++ t) :=
  fun c hc => (List.mem_append.1 hc).elim (hs c) (ht c)

theorem isInline_of_isAppName {s : String} (h : isAppName s = true) : IsInline s.toList := by
  have hchar : ∀ c : Char, (('a' ≤ c ∧ c ≤ 'z') ∨ c.isDigit = true ∨ c = '-') →
      isAllowed c = true ∧ isBreak c = false := by
    intro c hc
    have hrange : 45 ≤ c.toNat ∧ c.toNat ≤ 122 := by
      rcases hc with ⟨ha, hz⟩ | hdigit | rfl
      · exact ⟨Nat.le_trans (by decide) ha, hz⟩
      · simp only [Char.isDigit, Bool.and_eq_true, decide_eq_true_eq] at hdigit
        exact ⟨Nat.le_trans (by decide) hdigit.1, Nat.le_trans hdigit.2 (by decide)⟩
      · decide
    refine ⟨by simp [isAllowed]; omega, Bool.eq_false_iff.2 fun hbreak => ?_⟩
    rcases Yaml.isBreak_cases hbreak with rfl | rfl | rfl | rfl | rfl <;> revert hrange <;> decide
  exact fun c hc => hchar c ((isAppName_iff.1 h).chars c hc)

theorem IsInline.isChain_append_iff {s t : List Char} (hs : IsInline s) :
    (s ++ t).IsChain Follows ↔ t.IsChain Follows := by
  induction s with
  | nil => rfl
  | cons c s ih =>
    obtain ⟨hc, hs⟩ := List.forall_mem_cons.1 hs
    rw [List.cons_append, List.isChain_cons, ih hs]
    exact and_iff_right fun _ _ => .of_isBreak_eq_false hc.2

/-! ## Names between commas -/

section Intercalate

variable {c : Char} {comma s : List Char} {ss : List (List Char)}

theorem mem_or_exists_of_mem_intercalate (h : c ∈ List.intercalate comma ss) :
    c ∈ comma ∨ ∃ s ∈ ss, c ∈ s := by
  induction ss with
  | nil => cases h
  | cons s ss ih =>
    by_cases hss : ss = []
    · subst hss
      exact .inr ⟨s, List.mem_singleton_self s, by simpa using h⟩
    · rw [List.intercalate_cons_of_ne_nil hss, List.mem_append, List.mem_append] at h
      rcases h with (hs | hcomma) | hrest
      · exact .inr ⟨s, List.mem_cons_self, hs⟩
      · exact .inl hcomma
      · exact (ih hrest).imp_right fun ⟨s', hs', hc⟩ => ⟨s', List.mem_cons_of_mem _ hs', hc⟩

theorem infix_intercalate (h : s ∈ ss) : s <:+: List.intercalate comma ss := by
  induction ss with
  | nil => cases h
  | cons s' ss ih =>
    by_cases hss : ss = []
    · subst hss
      cases List.mem_singleton.1 h
      exact ⟨[], [], by simp⟩
    · rw [List.intercalate_cons_of_ne_nil hss]
      rcases List.mem_cons.1 h with rfl | h
      · exact ⟨[], comma ++ List.intercalate comma ss, by simp⟩
      · exact (ih h).trans (List.suffix_append _ _).isInfix

end Intercalate

namespace EmitOptions

variable {o : EmitOptions} {p : Pipeline}

/-- The names of the secrets as they stand in the header. -/
def secretNames (p : Pipeline) : List Char :=
  if p.secrets.isEmpty then "none".toList
  else List.intercalate ", ".toList (p.secrets.keys.map String.toList)

/-- The first line of the header behind its mark. -/
def title (o : EmitOptions) : List Char :=
  " Generated by cigen for ".toList ++
    (o.appName.toList ++ ". Edit freely; cigen is not needed to run it.".toList)

theorem toList_header : (o.header p).toList = '#' :: (title o ++
    '\n' :: '#' :: (" Required secrets: ".toList ++ (secretNames p ++ ['\n']))) := by
  have hstart : "# Generated by cigen for ".toList = '#' :: " Generated by cigen for ".toList := by
    decide +kernel
  have hnext : ". Edit freely; cigen is not needed to run it.\n# Required secrets: ".toList =
      ". Edit freely; cigen is not needed to run it.".toList ++
        '\n' :: '#' :: " Required secrets: ".toList := by
    decide +kernel
  have hend : "\n".toList = ['\n'] := rfl
  unfold header secretNames title
  simp only [String.toList_append, apply_ite String.toList, String.toList_intercalate]
  rw [hstart, hnext, hend]
  simp only [List.append_assoc, List.cons_append]

/-- What stands in the header around the names. -/
theorem isInline_fixed : IsInline " Generated by cigen for ".toList ∧
    IsInline ". Edit freely; cigen is not needed to run it.".toList ∧
    IsInline " Required secrets: ".toList ∧ IsInline "none".toList ∧ IsInline ", ".toList := by
  decide +kernel

theorem isInline_title (h : isAppName o.appName = true) : IsInline (title o) := by
  obtain ⟨hstart, hrest, -⟩ := isInline_fixed
  exact hstart.append ((isInline_of_isAppName h).append hrest)

theorem isInline_label : IsInline " Required secrets: ".toList := isInline_fixed.2.2.1

/-- Only the names of the secrets can end the comment. -/
theorem isComment_header_iff (h : isAppName o.appName = true) :
    IsComment (o.header p).toList ↔ (secretNames p ++ ['\n']).IsChain Follows := by
  have hlast : ('\n' :: (o.header p).toList).getLast? = some '\n' := by
    rw [toList_header, List.getLast?_eq_some_iff]
    exact ⟨'\n' :: '#' :: (title o ++ '\n' :: '#' :: (" Required secrets: ".toList ++ secretNames p)),
      by simp only [List.append_assoc, List.cons_append]⟩
  have hmark : Follows '\n' '#' := fun _ => .inl rfl
  have hsharp : IsInline ['#'] := by decide
  unfold IsComment
  rw [and_iff_left hlast, toList_header, List.isChain_cons_cons, and_iff_right hmark,
    ← List.singleton_append, hsharp.isChain_append_iff, (isInline_title h).isChain_append_iff,
    List.isChain_cons_cons, and_iff_right hmark, ← List.singleton_append,
    hsharp.isChain_append_iff, isInline_label.isChain_append_iff]

/-! ## What the secrets decide -/

theorem mem_secretNames {c : Char} (h : c ∈ secretNames p) :
    (isAllowed c = true ∧ isBreak c = false) ∨ ∃ name ∈ p.secrets.keys, c ∈ name.toList := by
  obtain ⟨-, -, -, hnone, hcomma⟩ := isInline_fixed
  unfold secretNames at h
  split at h
  · exact .inl (hnone c h)
  · rcases mem_or_exists_of_mem_intercalate h with h | ⟨cs, hcs, h⟩
    · exact .inl (hcomma c h)
    · obtain ⟨name, hname, rfl⟩ := List.mem_map.1 hcs
      exact .inr ⟨name, hname, h⟩

theorem infix_secretNames {name : String} (h : name ∈ p.secrets.keys) :
    name.toList <:+: secretNames p := by
  unfold secretNames
  rw [if_neg (by rw [Dict.isEmpty_of_mem_keys h]; exact Bool.false_ne_true)]
  exact infix_intercalate (List.mem_map_of_mem h)

theorem mem_header {c : Char} (h : c ∈ secretNames p) : c ∈ (o.header p).toList := by
  rw [toList_header]
  exact .tail _ (List.mem_append_right _ (.tail _ (.tail _ (List.mem_append_right _
    (List.mem_append_left _ h)))))

/-- Secret names without line breaks leave the header a comment that can be read. -/
theorem isComment_of_isInline (h : isAppName o.appName = true)
    (hnames : ∀ name ∈ p.secrets.keys, IsInline name.toList) :
    IsComment (o.header p).toList ∧ (o.header p).toList.all isAllowed = true := by
  have hinline : IsInline (secretNames p) := by
    intro c hc
    rcases mem_secretNames hc with hc | ⟨name, hname, hc⟩
    · exact hc
    · exact hnames name hname c hc
  constructor
  · rw [isComment_header_iff h, hinline.isChain_append_iff]
    exact .singleton _
  · rw [toList_header]
    simp only [List.all_cons, List.all_append, Bool.and_eq_true, List.all_eq_true]
    exact ⟨rfl, fun c hc => (isInline_title h c hc).1, rfl, rfl,
      fun c hc => (isInline_label c hc).1, fun c hc => (hinline c hc).1, rfl, fun _ h => nomatch h⟩

variable {c : Catalogue} {raw : RawSelection} {s : Selection}

/-- The names of the secrets that the chosen fragments need. -/
def chosenSecrets (c : Catalogue) (s : Selection) : List String :=
  (c.selected s).flatMap (·.secrets.keys)

/-- A document is the header and the text of its workflow. Where the secret names hold no line break
and nothing that a document may not hold, the header is a comment and the workflow reads back. But
the names are written as they are: a line break in one of them that no `#` follows ends the comment,
and with a character that a document may not hold nothing is read. -/
theorem emit_reads_back (hc : c.verify = .ok ()) (hs : c.resolve raw = .ok s)
    (hname : isAppName o.appName = true) :
    ∃ p, c.compose s = .ok p ∧ ∀ file ∈ o.emit p, ∃ k ∈ p.workflowKinds,
      file = ⟨k.fileName, o.header p ++ (o.document p k).print⟩ ∧
      ((∀ name ∈ chosenSecrets c s, IsInline name.toList) → IsComment (o.header p).toList ∧
        ((o.document p k).toNode.ReadsBack →
          WorkflowDocument.ofText? file.content = some (o.document p k))) ∧
      (IsComment (o.header p).toList →
        ∀ name ∈ chosenSecrets c s, name.toList.IsChain Follows) ∧
      ((WorkflowDocument.ofText? file.content).isSome = true →
        ∀ name ∈ chosenSecrets c s, ∀ ch ∈ name.toList, isAllowed ch = true) := by
  have hcompose := Catalogue.compose_of_verify hc hs
  generalize hp : Pipeline.ofFragments (c.selected s) s.fragments = p at hcompose
  have hsecrets (name : String) : name ∈ p.secrets.keys ↔ name ∈ chosenSecrets c s := by
    rw [chosenSecrets, List.mem_flatMap, ← hp]
    exact Pipeline.mem_keys_secretsOf
  refine ⟨p, hcompose, fun file hfile => ?_⟩
  obtain ⟨k, hk, rfl⟩ := List.mem_map.1 hfile
  refine ⟨k, hk, rfl, fun hinline => ?_, fun hcomment name hmem => ?_, fun hread name hmem => ?_⟩
  · obtain ⟨hcomment, hallowed⟩ :=
      isComment_of_isInline hname fun name hmem => hinline name ((hsecrets name).1 hmem)
    exact ⟨hcomment, fun hw => WorkflowDocument.ofText?_comment_print hw hcomment hallowed⟩
  · have hchain := (isComment_header_iff hname).1 hcomment
    exact hchain.left_of_append.infix (infix_secretNames ((hsecrets name).2 hmem))
  · intro ch hch
    by_contra hnot
    have hheader : ch ∈ (o.header p).toList :=
      mem_header ((infix_secretNames ((hsecrets name).2 hmem)).subset hch)
    have hnone : WorkflowDocument.ofText? (o.render p k) = none :=
      WorkflowDocument.ofText?_of_not_isAllowed hheader (Bool.eq_false_iff.2 hnot)
    have hsome : (WorkflowDocument.ofText? (o.render p k)).isSome = true := hread
    rw [hnone] at hsome
    cases hsome

/-! ## One secret -/

/-- Fragments that add nothing but the secret of the service. -/
def oneSecret (name : String) : Catalogue :=
  (∅ : Catalogue).registerAll
    [.new .language "go" "Go", .new .packageManager "gomod" "Go modules",
      .new .provider "gcp" "Google Cloud",
      (Fragment.new .service "cloudrun" "Cloud Run").addSecret name]

def oneSecretRaw : RawSelection :=
  .ofList [("language", .one "go"), ("package-manager", .one "gomod"), ("provider", .one "gcp"),
    ("service", .one "cloudrun")]

def oneSecretSelection : Selection := ⟨"go", "gomod", none, "gcp", "cloudrun", []⟩

/-- With a plain name every header is a comment. With a line break in the name the catalogue is
sound as well, but the header of the main workflow is no comment. -/
theorem emit_reads_back_oneSecret :
    (oneSecret "TOKEN").verify = .ok () ∧
      (oneSecret "TOKEN").resolve oneSecretRaw = .ok oneSecretSelection ∧
      (∃ p, (oneSecret "TOKEN").compose oneSecretSelection = .ok p ∧
        IsComment ((new "shop").header p).toList) ∧
      (oneSecret "TOKEN\nname: other").verify = .ok () ∧
      (oneSecret "TOKEN\nname: other").resolve oneSecretRaw = .ok oneSecretSelection ∧
      ∃ p, (oneSecret "TOKEN\nname: other").compose oneSecretSelection = .ok p ∧
        ¬IsComment ((new "shop").header p).toList := by
  have hname : isAppName (new "shop").appName = true := by decide +kernel
  have hverify : (oneSecret "TOKEN").verify = .ok () := by decide +kernel
  have hresolve : (oneSecret "TOKEN").resolve oneSecretRaw = .ok oneSecretSelection :=
    Catalogue.resolve_of_checks (by decide +kernel)
  have hverify' : (oneSecret "TOKEN\nname: other").verify = .ok () := by decide +kernel
  have hresolve' : (oneSecret "TOKEN\nname: other").resolve oneSecretRaw =
      .ok oneSecretSelection :=
    Catalogue.resolve_of_checks (by decide +kernel)
  refine ⟨hverify, hresolve, ?_, hverify', hresolve', ?_⟩
  · obtain ⟨p, hp, hfiles⟩ := emit_reads_back hverify hresolve hname
    have hmain : WorkflowKind.main ∈ p.workflowKinds := List.mem_cons_self
    obtain ⟨k, -, -, hinline, -⟩ := hfiles _ (List.mem_map_of_mem hmain)
    exact ⟨p, hp, (hinline (by decide +kernel)).1⟩
  · obtain ⟨p, hp, hfiles⟩ := emit_reads_back hverify' hresolve' hname
    have hmain : WorkflowKind.main ∈ p.workflowKinds := List.mem_cons_self
    obtain ⟨k, -, -, -, hchain, -⟩ := hfiles _ (List.mem_map_of_mem hmain)
    have hnot : ¬∀ name ∈ chosenSecrets (oneSecret "TOKEN\nname: other") oneSecretSelection,
        name.toList.IsChain Follows := by
      decide +kernel
    exact ⟨p, hp, fun hcomment => hnot (hchain hcomment)⟩

end EmitOptions

end PipeLoom
