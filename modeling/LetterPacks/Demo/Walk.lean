import LetterPacks.Dispatch.Service

/-!
# The demonstration

The demonstration walks a case through the letters that a sole divorce case typically receives.  It
prints each letter, or only resolves it, with a generator and a printer that work in memory.  A
letter that the case cannot receive yet is skipped and the walk goes on.
-/

namespace LetterPacks

namespace Demo

def lifecycle : List (Letter × Party) := [
  (.noticeOfProceedings, .applicant1), (.noticeOfProceedings, .applicant2),
  (.aosResponseLetter, .applicant1), (.applyForConditionalOrder, .applicant1),
  (.awaitingConditionalOrderReminder, .applicant1), (.certificateOfEntitlement, .applicant1),
  (.conditionalOrderGranted, .applicant1), (.conditionalOrderPronounced, .applicant2),
  (.finalOrderGranted, .applicant1), (.regenerateCourtOrders, .applicant1)]

/-- The days between the issue of the sample case and the respondent's answer. -/
def daysToAnswer : Nat := 14

/-- The sample case, issued on a date; none when the calendar ends before the respondent answers. -/
def sampleCase? (issueDate : Date) : Option CaseFile :=
  (issueDate.addDays? daysToAnswer).map fun answerDate => {
    id := 1700000000000100
    facts := {
      applicationKind := .sole
      unionKind := .divorce
      separationKind := .notApplicable
      applicant1 := {
        firstName := "Dana", lastName := "Ellis", email := some "dana.ellis@example.com" }
      applicant2 := { firstName := "Morgan", lastName := "Ellis", offline := true }
      application := {
        serviceMethod := .court, reissueOption := none, issueDate := some issueDate }
      acknowledgement := some { response := .withoutDispute, dateSubmitted := some answerDate }
      conditionalOrder := {}
      finalOrder := {}
      informationRequest := none
      documents := [] } }

inductive Report where
  | resolved (pack : PackKey) (documents : Nat)
  | printed (receipt : Receipt)
  | skipped (fault : DispatchFault)
deriving DecidableEq, Repr

def Report.message : Report → String
  | .resolved pack documents => pack.name ++ " (" ++ Number.decimal documents ++ " documents)"
  | .printed receipt =>
      "printed as " ++ receipt.letterReference ++ " (" ++ Number.decimal receipt.documentCount ++
        " documents)"
  | .skipped fault => "skipped (" ++ fault.message ++ ")"

def isSkippable : DispatchFault → Bool
  | .refused _ | .missingDocument _ _ => true
  | _ => false

/-- How far the walk has come: the case file, the rendered documents and the posted letters. -/
structure Progress where
  caseFile : CaseFile
  rendered : List CaseDocument
  posted : List PrintRequest

def Progress.start (caseFile : CaseFile) : Progress :=
  ⟨caseFile, [], []⟩

/-- The report of a dispatch; a fault that is not skippable stays one. -/
def report {α : Type} (describe : α → Report) : Except DispatchFault α → Except DispatchFault Report
  | .ok value => .ok (describe value)
  | .error fault => if isSkippable fault then .ok (.skipped fault) else .error fault

def step (catalog : Catalog) (prints : Bool) (letter : Letter) (party : Party)
    (progress : Progress) : Except DispatchFault Report × Progress :=
  let service := Service.inMemory catalog
  if prints then
    let printed := service.print letter party progress.caseFile progress.rendered progress.posted
    (report .printed printed.outcome, ⟨printed.caseFile, printed.generator, printed.printer⟩)
  else
    let resolved := service.resolve letter party progress.caseFile progress.rendered
    (report (fun pack => .resolved pack.key pack.slots.length) resolved.outcome,
      ⟨resolved.caseFile, resolved.generator, progress.posted⟩)

/-- Walks through some letters.  Gives the report of each and how far the walk has come. -/
def walk (catalog : Catalog) (prints : Bool) (progress : Progress) :
    List (Letter × Party) → Except DispatchFault (List Report × Progress)
  | [] => .ok ([], progress)
  | (letter, party) :: letters => do
      let (outcome, progress) := step catalog prints letter party progress
      let report ← outcome
      let (reports, progress) ← walk catalog prints progress letters
      .ok (report :: reports, progress)

def heading (caseFile : CaseFile) : String :=
  "Document pack demo for case " ++ caseFile.number ++ "\n" ++
    "- " ++ caseFile.facts.applicant1.fullName ++ " / " ++
      caseFile.facts.applicationKind.title ++ " / " ++
      caseFile.facts.applicant2.fullName ++ "\n"

def reportLine (entry : (Letter × Party) × Report) : String :=
  "  " ++ entry.1.1.name ++ " -> " ++ entry.1.2.name ++ ": " ++ entry.2.message ++ "\n"

def closing (prints : Bool) (progress : Progress) : String :=
  let documentLine (document : CaseDocument) : String :=
    "  - " ++ document.displayName ++ " (" ++ document.fileName ++ ")\n"
  let queue :=
    if prints then "Letters queued for print: " ++ Number.decimal progress.posted.length ++ "\n"
    else ""
  "\nOn-demand documents generated: " ++ Number.decimal progress.rendered.length ++ "\n" ++
    String.join (progress.rendered.map documentLine) ++ queue

def transcript (catalog : Catalog) (prints : Bool) (caseFile : CaseFile) :
    Except DispatchFault String := do
  let (reports, progress) ← walk catalog prints (.start caseFile) lifecycle
  .ok (heading caseFile ++ String.join ((lifecycle.zip reports).map reportLine) ++
    closing prints progress)

end Demo

end LetterPacks
