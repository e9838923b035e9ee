import LetterPacks.Proofs.OnDemand.BlankForm
import LetterPacks.Proofs.Printing.Assembly
import LetterPacks.Proofs.Selection.Declaration

/-!
# Case files that differ in a link

Two generators may keep the application form in different places.  The case files that they leave
are then twins: they come from one case file, and if the form was added to one it was added to the
other, under another link.  Nothing that is selected or printed depends on the link.
-/

namespace LetterPacks

namespace CaseFile

def withFormAt (caseFile : CaseFile) (link : String) : CaseFile :=
  caseFile.attach [Generator.rendered caseFile d84Form link]

/-- Two case files are one and the same, or that one with the form under two links. -/
inductive Twins (start : CaseFile) (link otherLink : String) : CaseFile → CaseFile → Prop
  | start : Twins start link otherLink start start
  | supplied : start.facts.hasDocument d84Form.documentType = false →
      Twins start link otherLink (start.withFormAt link) (start.withFormAt otherLink)

namespace Twins

variable {start left right : CaseFile} {link otherLink : String}

private theorem eq_attach (twins : Twins start link otherLink left right) :
    ∃ forms otherForms, left = start.attach forms ∧ right = start.attach otherForms := by
  cases twins with
  | start =>
      exact ⟨[], [], start.attach_nil.symm, start.attach_nil.symm⟩
  | supplied _ =>
      exact ⟨_, _, rfl, rfl⟩

theorem select_rule_eq
    (twins : Twins start link otherLink left right) (letter : Letter) (party : Party) :
    letter.rule.select left.facts party = letter.rule.select right.facts party := by
  obtain ⟨forms, otherForms, rfl, rfl⟩ := twins.eq_attach
  rw [letter.select_rule_attach, letter.select_rule_attach]

private theorem fileName_eq
    (twins : Twins start link otherLink left right) (documentType : DocumentType) :
    (left.facts.document? documentType).map CaseDocument.fileName =
      (right.facts.document? documentType).map CaseDocument.fileName := by
  cases twins with
  | start =>
      rfl
  | supplied _ =>
      rw [withFormAt, withFormAt, document?_attach, document?_attach]
      cases start.facts.document? documentType with
      | some document =>
          rfl
      | none =>
          by_cases same : documentType = d84Form.documentType
          · simp [Generator.rendered, same]
          · have other : ¬ d84Form.documentType = documentType := fun equal => same equal.symm
            simp [Generator.rendered, other]

private theorem hasDocument_eq
    (twins : Twins start link otherLink left right) (documentType : DocumentType) :
    left.facts.hasDocument documentType = right.facts.hasDocument documentType := by
  have same := congrArg Option.isSome (twins.fileName_eq documentType)
  rwa [Option.isSome_map, Option.isSome_map] at same

theorem ofPack_eq
    (twins : Twins start link otherLink left right) (letter : Letter) (pack : Pack)
    (party : Party) :
    PrintRequest.ofPack letter pack left party = PrintRequest.ofPack letter pack right party := by
  have agree : ∀ slot ∈ pack.slots,
      PrintRequest.documentFor? pack left.facts slot =
        PrintRequest.documentFor? pack right.facts slot := by
    intro slot _
    cases used : slot.template with
    | some template =>
        rw [PrintRequest.documentFor?_of_rendered used,
          PrintRequest.documentFor?_of_rendered used]
    | none =>
        have same := congrArg
          (Option.map fun name => (⟨slot.documentType, none, name⟩ : PrintDocument))
          (twins.fileName_eq slot.documentType)
        rw [PrintRequest.documentFor?_of_derived used, PrintRequest.documentFor?_of_derived used]
        rwa [Option.map_map, Option.map_map] at same
  obtain ⟨forms, otherForms, rfl, rfl⟩ := twins.eq_attach
  have applicant : (start.attach forms).facts.applicant party =
      (start.attach otherForms).facts.applicant party := by
    rw [applicant_attach, applicant_attach]
  exact PrintRequest.ofPack_congr rfl applicant rfl rfl agree

end Twins

end CaseFile

namespace Generator

variable {σ υ : Type} {generator : Generator σ} {other : Generator υ}
  {start left right : CaseFile} {link otherLink : String}

/-- The generator renders the application form of a case and keeps it under a link. -/
def KeepsForm (generator : Generator σ) (start : CaseFile) (link : String) : Prop :=
  ∀ state, ∃ next,
    generator.generate state start d84Form = (.ok (rendered start d84Form link), next)

theorem keepsForm_inMemory (start : CaseFile) :
    inMemory.KeepsForm start ("memory://paper-forms/" ++ d84Form.templateFile) :=
  fun _ => ⟨_, rfl⟩

theorem keepsForm_paperForms
    {tree : FileTree} {folder : String}
    (present : tree.isFile (joinPath folder d84Form.templateFile) = true) (start : CaseFile) :
    (paperForms tree folder).KeepsForm start
      ("file://" ++ joinPath folder d84Form.templateFile) := by
  intro state
  refine ⟨(), ?_⟩
  simp only [paperForms, present, if_true]

theorem ensure_paperForms_of_absent
    {tree : FileTree} {folder : String} {caseFile : CaseFile}
    (absent : tree.isFile (joinPath folder d84Form.templateFile) = false)
    (needed : caseFile.facts.hasDocument d84Form.documentType = false) :
    (paperForms tree folder).ensure d84Form caseFile () =
      ⟨.error (.templateNotFound (joinPath folder d84Form.templateFile)), caseFile, ()⟩ := by
  apply ensure_of_failed needed
  simp only [paperForms, absent]
  rfl

/-- Twins stay twins when the form is made sure of, and only a case file that needs it changes. -/
theorem ensure_of_twins
    (twins : CaseFile.Twins start link otherLink left right)
    (keeps : left.facts.hasDocument d84Form.documentType = false →
      generator.KeepsForm start link ∧ other.KeepsForm start otherLink)
    (state : σ) (otherState : υ) :
    ∃ added file next otherFile otherNext,
      generator.ensure d84Form left state = ⟨.ok added, file, next⟩ ∧
        other.ensure d84Form right otherState = ⟨.ok added, otherFile, otherNext⟩ ∧
        CaseFile.Twins start link otherLink file otherFile ∧
        (left.facts.hasDocument d84Form.documentType = true → file = left) := by
  have sameHeld := twins.hasDocument_eq d84Form.documentType
  cases held : left.facts.hasDocument d84Form.documentType with
  | true =>
      rw [held] at sameHeld
      exact ⟨false, left, state, right, otherState, ensure_of_held held,
        ensure_of_held sameHeld.symm, twins, fun _ => rfl⟩
  | false =>
      obtain ⟨here, there⟩ := keeps held
      cases twins with
      | start =>
          obtain ⟨next, answered⟩ := here state
          obtain ⟨otherNext, otherAnswered⟩ := there otherState
          exact ⟨true, _, next, _, otherNext, ensure_of_rendered held answered,
            ensure_of_rendered held otherAnswered, .supplied held, fun had => nomatch had⟩
      | supplied _ =>
          have added : (start.withFormAt link).facts.hasDocument d84Form.documentType = true :=
            CaseFile.hasDocument_attach_of_mem
              (List.mem_singleton_self (rendered start d84Form link))
          rw [added] at held
          cases held

end Generator

end LetterPacks
