import LetterPacks.Case.File
import LetterPacks.Catalog.Registry

/-!
# Print requests

A print request holds everything that is needed to post one letter: the documents in their order,
each with the name of its file, whom the letter is addressed to, and the facts that are merged
into it.

A slot with a template is printed under the name that the pack has for the template.  A slot
without one is filled by the oldest document of its type in the case file; without such a document
there is no request.
-/

namespace LetterPacks

structure PrintDocument where
  documentType : DocumentType
  template : Option Template
  fileName : String
deriving DecidableEq, Repr

structure PrintRequest where
  letter : Letter
  pack : PackKey
  caseId : UInt64
  recipient : Party
  recipientName : String
  language : Language
  documents : List PrintDocument
  answeredOn : Option Date
  informationRequested : Option String
deriving DecidableEq

namespace PrintRequest

/-- The document in a slot of a pack; none where the case file has no document for it. -/
def documentFor? (pack : Pack) (facts : CaseFacts) (slot : Slot) : Option PrintDocument :=
  match slot.template with
  | some template =>
      some ⟨slot.documentType, some template, (pack.templateName? template).getD template.name⟩
  | none =>
      (facts.document? slot.documentType).map fun document =>
        ⟨slot.documentType, none, document.fileName⟩

/-- The documents in some slots of a pack, or the type of the first one that is missing. -/
def documentsFor (pack : Pack) (facts : CaseFacts) :
    List Slot → Except DocumentType (List PrintDocument)
  | [] => .ok []
  | slot :: slots => do
      let document ← match documentFor? pack facts slot with
        | some document => .ok document
        | none => .error slot.documentType
      let documents ← documentsFor pack facts slots
      .ok (document :: documents)

/-- Whom a letter is addressed to: the solicitor on record of a represented party, otherwise the
party itself. -/
def addresseeName (applicant : Applicant) : String :=
  match applicant.solicitor, applicant.isRepresented with
  | some solicitor, true => solicitor.name
  | _, _ => applicant.fullName

/-- The day on which the respondent answered, for the letter that reports the answer. -/
def answeredOnFor (letter : Letter) (facts : CaseFacts) : Option Date :=
  if letter = .aosResponseLetter then
    facts.acknowledgement.bind Acknowledgement.dateSubmitted
  else none

/-- What the court asks for, for the letter that asks for it; blank details are none. -/
def informationFor (letter : Letter) (facts : CaseFacts) : Option String :=
  if letter = .requestForInformation then
    match facts.informationRequest with
    | some request =>
        if Text.isBlankText request.details then none else some (Text.trim request.details)
    | none => none
  else none

/-- The request that posts a pack to a party, or the type of the first document that is missing. -/
def ofPack (letter : Letter) (pack : Pack) (caseFile : CaseFile) (party : Party) :
    Except DocumentType PrintRequest := do
  let facts := caseFile.facts
  let documents ← documentsFor pack facts pack.slots
  let applicant := facts.applicant party
  .ok {
    letter := letter
    pack := pack.key
    caseId := caseFile.id
    recipient := party
    recipientName := addresseeName applicant
    language := applicant.language
    documents := documents
    answeredOn := answeredOnFor letter facts
    informationRequested := informationFor letter facts }

end PrintRequest

end LetterPacks
