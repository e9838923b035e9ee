import LetterPacks.Case.Schema
import LetterPacks.Catalog.DecisionTable
import LetterPacks.Dispatch.Service

/-!
# Views

What the service shows of packs, print requests and dispatched letters, as JSON.  The members of a
pack and its slots are named with underscores, all others in mixed case.
-/

namespace LetterPacks

def Slot.toJson (slot : Slot) : Json :=
  .record [
    ("document_type", .text slot.documentType.name),
    ("template", .ofOption (fun template => .text template.name) slot.template)]

def Pack.toJson (pack : Pack) : Json :=
  .record [
    ("key", .text pack.key.name),
    ("track", .text (Track.vocabulary.name pack.track)),
    ("audience", .text (Audience.vocabulary.name pack.audience)),
    ("documents", .list (pack.slots.map Slot.toJson)),
    ("template_names", .record (pack.names.map fun entry => (entry.1.name, .text entry.2)))]

def OnDemandDocument.toJson (document : OnDemandDocument) : Json :=
  .record [
    ("document_type", .text document.documentType.name),
    ("display_name", .text document.displayName),
    ("file_name", .text document.fileName),
    ("template_file", .text document.templateFile)]

def DecisionRow.toJson (row : DecisionRow) : Json :=
  .record [
    ("letter_id", .text row.letter.name),
    ("pack", .text row.pack.name),
    ("document_type", .text row.documentType.name),
    ("template", .ofOption (fun template => .text template.name) row.template),
    ("document_name", .ofOption .text row.documentName)]

def PrintDocument.toJson (document : PrintDocument) : Json :=
  .record [
    ("documentType", .text document.documentType.name),
    ("template", .ofOption (fun template => .text template.name) document.template),
    ("fileName", .text document.fileName)]

def optionalMember (name : String) : Option String → List (String × Json)
  | some value => [(name, .text value)]
  | none => []

def PrintRequest.toJson (request : PrintRequest) : Json :=
  .record ([
    ("letterId", .text request.letter.name),
    ("pack", .text request.pack.name),
    ("caseId", .natural request.caseId.toNat),
    ("recipient", .text request.recipient.name),
    ("recipientName", .text request.recipientName),
    ("language", .text (Language.vocabulary.name request.language)),
    ("documents", .list (request.documents.map PrintDocument.toJson))] ++
    optionalMember "aosSubmittedOn" (request.answeredOn.map Date.toText) ++
    optionalMember "informationRequested" request.informationRequested)

def Receipt.toJson (receipt : Receipt) : Json :=
  .record [
    ("letterReference", .text receipt.letterReference),
    ("documentCount", .natural receipt.documentCount)]

def documentsToJson (documents : List CaseDocument) : Json :=
  (Json.Shape.list CaseDocument.shape).toJson documents

/-- A dispatched letter as it is shown: what was dispatched stands under a name of its own. -/
def dispatchView (letter : Letter) (party : Party) (name : String) (dispatched : Json)
    (caseFile : CaseFile) : Json :=
  .record [
    ("letterId", .text letter.name),
    ("caseId", .natural caseFile.id.toNat),
    ("party", .text party.name),
    (name, dispatched),
    ("documentsGenerated", documentsToJson caseFile.facts.documents)]

def resolvedView (letter : Letter) (party : Party) (pack : Pack) (caseFile : CaseFile) : Json :=
  dispatchView letter party "pack" pack.toJson caseFile

def printedView (letter : Letter) (party : Party) (receipt : Receipt) (caseFile : CaseFile) :
    Json :=
  dispatchView letter party "receipt" receipt.toJson caseFile

end LetterPacks
