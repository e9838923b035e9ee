import LetterPacks.Proofs.Printing.Assembly
import LetterPacks.Proofs.Selection.Likeness
import LetterPacks.Proofs.Selection.NoticeContents
import LetterPacks.Proofs.Text.Trim

/-!
# Facts that are merged into letters

Two letters quote the case: the one that reports the respondent's answer gives its day, and the one
that asks for information gives what is asked for.  Either fact is merged into its own letter alone.
Of two case files that differ in nothing else, every rule selects the same pack, and the requests
differ in nothing but the merged facts.
-/

namespace LetterPacks

/-- The facts that are merged into a request are those of its own letter. -/
structure PrintRequest.MergesOwn
    (request : PrintRequest) (letter : Letter) (facts : CaseFacts) : Prop where
  letter_eq : request.letter = letter
  answeredOn_iff : ∀ date, request.answeredOn = some date ↔
    letter = .aosResponseLetter ∧ ∃ acknowledgement,
      facts.acknowledgement = some acknowledgement ∧ acknowledgement.dateSubmitted = some date
  informs_iff : (∃ text, request.informationRequested = some text) ↔
    letter = .requestForInformation ∧ ∃ asked,
      facts.informationRequest = some asked ∧ Text.IsPrinted asked.details
  /-- What is asked for is never empty, and it has no white space at either end. -/
  informs : ∀ text, request.informationRequested = some text →
    text ≠ "" ∧ ∃ asked, facts.informationRequest = some asked ∧
      Text.IsTrimmed text.toList asked.details.toList

namespace Text

private theorem isPrinted_iff_trim_ne_empty {text : String} : IsPrinted text ↔ trim text ≠ "" := by
  rw [Ne, trim_eq_empty_iff, trimChars_eq_nil_iff]
  simp [IsPrinted, AllBlank]

end Text

namespace PrintRequest

variable {letter : Letter} {facts : CaseFacts}

private theorem answeredOnFor_eq_some_iff {date : Date} :
    answeredOnFor letter facts = some date ↔
      letter = .aosResponseLetter ∧ ∃ acknowledgement,
        facts.acknowledgement = some acknowledgement ∧
          acknowledgement.dateSubmitted = some date := by
  unfold answeredOnFor
  split
  · next own => simp only [own, true_and, Option.bind_eq_some_iff]
  · next other => simp only [other, false_and, reduceCtorEq]

private theorem informationFor_eq_some_iff {text : String} :
    informationFor letter facts = some text ↔
      letter = .requestForInformation ∧ ∃ asked, facts.informationRequest = some asked ∧
        Text.IsPrinted asked.details ∧ Text.trim asked.details = text := by
  simp only [Text.isPrinted_iff]
  unfold informationFor
  split
  · next own =>
      cases facts.informationRequest with
      | none => simp
      | some asked => cases blank : Text.isBlankText asked.details <;> simp [own, blank]
  · next other => simp only [other, false_and, reduceCtorEq]

theorem informationFor_congr
    {other : CaseFacts}
    (same : facts.informationRequest.map (fun asked => Text.trim asked.details) =
      other.informationRequest.map fun asked => Text.trim asked.details) :
    informationFor letter facts = informationFor letter other := by
  unfold informationFor
  cases asked : facts.informationRequest with
  | none =>
      rw [asked, Option.map_none, eq_comm, Option.map_eq_none_iff] at same
      rw [same]
  | some request =>
      rw [asked, Option.map_some, eq_comm, Option.map_eq_some_iff] at same
      obtain ⟨otherRequest, found, sameText⟩ := same
      have samePrinted : Text.isBlankText request.details =
          Text.isBlankText otherRequest.details := by
        rw [Bool.eq_iff_iff, ← not_iff_not, Bool.not_eq_true, Bool.not_eq_true,
          ← Text.isPrinted_iff, ← Text.isPrinted_iff, Text.isPrinted_iff_trim_ne_empty,
          Text.isPrinted_iff_trim_ne_empty, sameText]
      rw [found]
      dsimp only
      rw [samePrinted, sameText]

theorem answeredOnFor_of_ne (other : letter ≠ .aosResponseLetter) :
    answeredOnFor letter facts = none :=
  if_neg other

theorem informationFor_of_ne (other : letter ≠ .requestForInformation) :
    informationFor letter facts = none :=
  if_neg other

/-- A request for a case merges the facts of its own letter, whatever is attached to the case. -/
theorem mergesOwn_of_ofPack_eq_ok
    {pack : Pack} {caseFile : CaseFile} {party : Party} {request : PrintRequest}
    (documents : List CaseDocument)
    (made : ofPack letter pack (caseFile.attach documents) party = .ok request) :
    request.MergesOwn letter caseFile.facts := by
  obtain ⟨printed, _, rfl⟩ := eq_of_ofPack_eq_ok made
  refine ⟨rfl, fun date => answeredOnFor_eq_some_iff, ?_, ?_⟩
  · constructor
    · rintro ⟨text, informs⟩
      obtain ⟨own, asked, found, shown, _⟩ := informationFor_eq_some_iff.1 informs
      exact ⟨own, asked, found, shown⟩
    · rintro ⟨own, asked, found, shown⟩
      exact ⟨_, informationFor_eq_some_iff.2 ⟨own, asked, found, shown, rfl⟩⟩
  · intro text informs
    obtain ⟨_, asked, found, shown, rfl⟩ := informationFor_eq_some_iff.1 informs
    exact ⟨Text.isPrinted_iff_trim_ne_empty.1 shown, asked, found,
      Text.isTrimmed_trim asked.details⟩

def merging (request : PrintRequest) (answeredOn : Option Date)
    (informationRequested : Option String) : PrintRequest :=
  { request with answeredOn := answeredOn, informationRequested := informationRequested }

end PrintRequest

namespace CaseFile

/-- The case file without the day of the respondent's answer and without what the court asks
for. -/
def withoutMerged (caseFile : CaseFile) : CaseFile :=
  { caseFile with
    facts := { caseFile.facts with
      acknowledgement := caseFile.facts.acknowledgement.map fun acknowledgement =>
        { acknowledgement with dateSubmitted := none }
      informationRequest := caseFile.facts.informationRequest.map fun request =>
        { request with details := "" } } }

private theorem withoutMerged_attach (caseFile : CaseFile) (documents : List CaseDocument) :
    (caseFile.attach documents).withoutMerged = caseFile.withoutMerged.attach documents :=
  rfl

variable {left right : CaseFile}

theorem attach_of_withoutMerged (same : left.withoutMerged = right.withoutMerged)
    (documents : List CaseDocument) :
    (left.attach documents).withoutMerged = (right.attach documents).withoutMerged := by
  rw [withoutMerged_attach, withoutMerged_attach, same]

theorem id_of_withoutMerged (same : left.withoutMerged = right.withoutMerged) :
    left.id = right.id :=
  congrArg (fun caseFile => caseFile.id) same

theorem documents_of_withoutMerged (same : left.withoutMerged = right.withoutMerged) :
    left.facts.documents = right.facts.documents :=
  congrArg (fun caseFile => caseFile.facts.documents) same

private theorem applicant_of_withoutMerged
    (same : left.withoutMerged = right.withoutMerged) (party : Party) :
    left.facts.applicant party = right.facts.applicant party := by
  cases party with
  | applicant1 => exact congrArg (fun caseFile => caseFile.facts.applicant1) same
  | applicant2 => exact congrArg (fun caseFile => caseFile.facts.applicant2) same

/-- A rule asks neither when the respondent answered nor what the court asks for. -/
theorem alike_of_withoutMerged
    (same : left.withoutMerged = right.withoutMerged) (party : Party) :
    CaseFacts.Alike party left.facts right.facts where
  applicationKind := congrArg (fun caseFile => caseFile.facts.applicationKind) same
  separationKind := congrArg (fun caseFile => caseFile.facts.separationKind) same
  isCourtService := congrArg (fun caseFile => caseFile.facts.application.isCourtService) same
  isReissuedOffline :=
    congrArg (fun caseFile => caseFile.facts.application.isReissuedOffline) same
  isDisputed := by
    have answers := congrArg
      (fun caseFile => caseFile.facts.acknowledgement.map Acknowledgement.isDisputed) same
    simp only [withoutMerged, Option.map_map] at answers
    exact answers
  conditionalOrder := congrArg (fun caseFile => caseFile.facts.conditionalOrder) same
  finalOrder := congrArg (fun caseFile => caseFile.facts.finalOrder) same
  addressee := by
    have addressees := congrArg
      (fun caseFile => caseFile.facts.informationRequest.map InformationRequest.addressee) same
    simp only [withoutMerged, Option.map_map] at addressees
    exact addressees
  isRepresented := by rw [applicant_of_withoutMerged same]
  hasOrganisation := by rw [applicant_of_withoutMerged same]
  isOffline := by rw [applicant_of_withoutMerged same]
  addressOverseas := by rw [applicant_of_withoutMerged same]

end CaseFile

namespace PrintRequest

/-- The requests for two cases that differ in what is merged differ in what is merged. -/
theorem ofPack_of_withoutMerged
    (letter : Letter) {left right : CaseFile}
    (same : left.withoutMerged = right.withoutMerged) (pack : Pack) (party : Party) :
    ofPack letter pack right party = (ofPack letter pack left party).map fun request =>
      request.merging (answeredOnFor letter right.facts) (informationFor letter right.facts) := by
  have sameDocuments : documentsFor pack left.facts pack.slots =
      documentsFor pack right.facts pack.slots := by
    apply documentsFor_congr
    intro slot _
    unfold documentFor? CaseFacts.document?
    rw [CaseFile.documents_of_withoutMerged same]
  rw [ofPack_eq_map, ofPack_eq_map, sameDocuments, CaseFile.id_of_withoutMerged same,
    CaseFile.applicant_of_withoutMerged same]
  cases documentsFor pack right.facts pack.slots <;> rfl

end PrintRequest

end LetterPacks
