import LetterPacks.Proofs.OnDemand.Recording

/-!
# The blank application form

A generator that works in memory never fails, so making sure of the application form leads from a
case file to one other at most: the case file with the form.  The form is the same at every time,
since it depends on the number of the case only.
-/

namespace LetterPacks

namespace CaseFile

/-- The application form of a case as it is rendered in memory. -/
def blankForm (caseFile : CaseFile) : CaseDocument :=
  Generator.rendered caseFile d84Form ("memory://paper-forms/" ++ d84Form.templateFile)

/-- The case file with an application form, which is rendered when there is none. -/
def withForm (caseFile : CaseFile) : CaseFile :=
  if caseFile.facts.hasDocument d84Form.documentType then caseFile
  else caseFile.attach [caseFile.blankForm]

/-- One case file is another or that one with the application form. -/
def Reached (start current : CaseFile) : Prop :=
  current = start ∨ current = start.withForm

theorem withForm_of_held
    {caseFile : CaseFile} (held : caseFile.facts.hasDocument d84Form.documentType = true) :
    caseFile.withForm = caseFile :=
  if_pos held

theorem withForm_of_absent
    {caseFile : CaseFile} (absent : caseFile.facts.hasDocument d84Form.documentType = false) :
    caseFile.withForm = caseFile.attach [caseFile.blankForm] := by
  rw [withForm, absent]
  rfl

theorem hasDocument_withForm (caseFile : CaseFile) :
    caseFile.withForm.facts.hasDocument d84Form.documentType = true := by
  cases held : caseFile.facts.hasDocument d84Form.documentType with
  | true =>
      rw [withForm_of_held held]
      exact held
  | false =>
      rw [withForm_of_absent held]
      exact hasDocument_attach_of_mem (List.mem_singleton_self caseFile.blankForm)

namespace Reached

variable {start current : CaseFile}

theorem withForm_eq (reached : Reached start current) : current.withForm = start.withForm := by
  rcases reached with rfl | rfl
  · rfl
  · exact withForm_of_held start.hasDocument_withForm

theorem eq_attach (reached : Reached start current) :
    ∃ forms, current = start.attach forms ∧
      ∀ form ∈ forms, form.documentType = d84Form.documentType := by
  rcases reached with rfl | rfl
  · exact ⟨[], current.attach_nil.symm, fun _ member => absurd member List.not_mem_nil⟩
  · cases held : start.facts.hasDocument d84Form.documentType with
    | true =>
        rw [withForm_of_held held]
        exact ⟨[], start.attach_nil.symm, fun _ member => absurd member List.not_mem_nil⟩
    | false =>
        refine ⟨[start.blankForm], withForm_of_absent held, fun form member => ?_⟩
        rw [List.mem_singleton.1 member]
        rfl

theorem id_eq (reached : Reached start current) : current.id = start.id := by
  obtain ⟨forms, rfl, _⟩ := reached.eq_attach
  exact id_attach start forms

end Reached

end CaseFile

theorem Generator.ensure_inMemory (caseFile : CaseFile) (documents : List CaseDocument) :
    ∃ added later, inMemory.ensure d84Form caseFile documents =
      ⟨.ok added, caseFile.withForm, later⟩ := by
  cases held : caseFile.facts.hasDocument d84Form.documentType with
  | true =>
      rw [ensure_of_held held, CaseFile.withForm_of_held held]
      exact ⟨false, documents, rfl⟩
  | false =>
      rw [ensure_of_rendered held rfl, CaseFile.withForm_of_absent held]
      exact ⟨true, _, rfl⟩

/-- What a generator in memory has rendered lies behind the documents of the first case file. -/
theorem Generator.attached_ensure_inMemory
    {start current : CaseFile} {documents : List CaseDocument}
    (attached : current = start.attach documents) (form : OnDemandDocument) :
    let ensured := inMemory.ensure form current documents
    ensured.caseFile = start.attach ensured.generator := by
  cases held : current.facts.hasDocument form.documentType with
  | true =>
      rw [ensure_of_held held]
      exact attached
  | false =>
      rw [ensure_of_rendered held rfl, attached, CaseFile.attach_attach]

end LetterPacks
