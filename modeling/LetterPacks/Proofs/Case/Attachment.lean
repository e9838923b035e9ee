import LetterPacks.Case.File

/-!
# Attached documents

The oldest document of a type is the one that is printed.  The documents of a case file are only
ever added to: a rendered document is attached behind those that lie there already.  Attaching
changes no other fact of the case.  A document type that lies in the case file keeps its oldest
document, and one that does not takes the first attached one.
-/

namespace LetterPacks

namespace CaseFacts

/-- A rendered document of the case is the oldest one of its type. -/
def IsOldest (facts : CaseFacts) (document : CaseDocument) : Prop :=
  ∃ before after, facts.documents = before ++ document :: after ∧
    ∀ earlier ∈ before, earlier.documentType ≠ document.documentType

variable {facts : CaseFacts} {documentType : DocumentType}

theorem document?_eq_some_iff {document : CaseDocument} :
    facts.document? documentType = some document ↔
      document.documentType = documentType ∧ facts.IsOldest document := by
  simp only [document?, List.find?_eq_some_iff_append, beq_iff_eq, Bool.not_eq_true',
    beq_eq_false_iff_ne]
  constructor
  · rintro ⟨rfl, before, after, split, others⟩
    exact ⟨rfl, before, after, split, others⟩
  · rintro ⟨rfl, before, after, split, others⟩
    exact ⟨rfl, before, after, split, others⟩

theorem document?_eq_none_iff :
    facts.document? documentType = none ↔
      ∀ document ∈ facts.documents, document.documentType ≠ documentType := by
  simp only [document?, List.find?_eq_none, beq_iff_eq, Ne]

theorem hasDocument_eq_false_iff :
    facts.hasDocument documentType = false ↔
      ∀ document ∈ facts.documents, document.documentType ≠ documentType := by
  rw [hasDocument, Option.isSome_eq_false_iff, Option.isNone_iff_eq_none, document?_eq_none_iff]

end CaseFacts

namespace CaseFile

/-- The case file with some rendered documents behind its own. -/
def attach (caseFile : CaseFile) (documents : List CaseDocument) : CaseFile :=
  { caseFile with
    facts := { caseFile.facts with documents := caseFile.facts.documents ++ documents } }

@[simp]
theorem attach_nil (caseFile : CaseFile) : caseFile.attach [] = caseFile := by
  simp [attach]

@[simp]
theorem attach_attach (caseFile : CaseFile) (earlier later : List CaseDocument) :
    (caseFile.attach earlier).attach later = caseFile.attach (earlier ++ later) := by
  simp [attach]

@[simp]
theorem id_attach (caseFile : CaseFile) (documents : List CaseDocument) :
    (caseFile.attach documents).id = caseFile.id :=
  rfl

@[simp]
theorem documents_attach (caseFile : CaseFile) (documents : List CaseDocument) :
    (caseFile.attach documents).facts.documents = caseFile.facts.documents ++ documents :=
  rfl

theorem attach_injective (caseFile : CaseFile) : Function.Injective caseFile.attach := by
  intro documents others same
  have sameDocuments := congrArg (fun filed => filed.facts.documents) same
  exact List.append_cancel_left sameDocuments

@[simp]
theorem applicant_attach
    (caseFile : CaseFile) (documents : List CaseDocument) (party : Party) :
    (caseFile.attach documents).facts.applicant party = caseFile.facts.applicant party := by
  cases party <;> rfl

/-- The oldest document of a type is one of the case file's own where there is one. -/
theorem document?_attach
    (caseFile : CaseFile) (documents : List CaseDocument) (documentType : DocumentType) :
    (caseFile.attach documents).facts.document? documentType =
      (caseFile.facts.document? documentType).or
        (documents.find? fun document => document.documentType == documentType) :=
  List.find?_append

theorem hasDocument_attach
    (caseFile : CaseFile) (documents : List CaseDocument) (documentType : DocumentType) :
    (caseFile.attach documents).facts.hasDocument documentType =
      (caseFile.facts.hasDocument documentType ||
        documents.any fun document => document.documentType == documentType) := by
  rw [CaseFacts.hasDocument, document?_attach, Option.isSome_or, List.isSome_find?]
  rfl

theorem hasDocument_attach_of_mem
    {caseFile : CaseFile} {documents : List CaseDocument} {document : CaseDocument}
    (member : document ∈ documents) :
    (caseFile.attach documents).facts.hasDocument document.documentType = true := by
  rw [hasDocument_attach, Bool.or_eq_true, List.any_eq_true]
  exact Or.inr ⟨document, member, beq_self_eq_true _⟩

theorem document?_attach_of_absent
    {caseFile : CaseFile} {documents : List CaseDocument} {documentType : DocumentType}
    (absent : ∀ document ∈ documents, document.documentType ≠ documentType) :
    (caseFile.attach documents).facts.document? documentType =
      caseFile.facts.document? documentType := by
  have unfound :
      (documents.find? fun document => document.documentType == documentType) = none := by
    rw [List.find?_eq_none]
    intro document member
    simpa using absent document member
  rw [document?_attach, unfound, Option.or_none]

end CaseFile

end LetterPacks
