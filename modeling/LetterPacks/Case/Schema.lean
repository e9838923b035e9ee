import LetterPacks.Case.File
import LetterPacks.Json.Shape

/-!
# The written form of a case file

The shapes of a case file and its parts.  Where a member may be left out, the value that it then has
is stated beside its name.
-/

namespace LetterPacks

open Json

def Solicitor.shape : Shape Solicitor :=
  .record "Solicitor"
    (.required "name" .text <|
      .defaulted "email" none (.optional .text) <|
      .defaulted "organisationId" none (.optional .text) .nil)
    (fun (name, email, organisationId, _) => ⟨name, email, organisationId⟩)
    (fun solicitor => (solicitor.name, solicitor.email, solicitor.organisationId, ()))
    (fun _ => rfl)

def Applicant.shape : Shape Applicant :=
  .record "Applicant"
    (.defaulted "firstName" "" .text <|
      .defaulted "lastName" "" .text <|
      .defaulted "email" none (.optional .text) <|
      .defaulted "solicitorRepresented" false .flag <|
      .defaulted "solicitor" none (.optional Solicitor.shape) <|
      .defaulted "offline" false .flag <|
      .defaulted "addressOverseas" false .flag <|
      .defaulted "languagePreferenceWelsh" false .flag .nil)
    (fun (firstName, lastName, email, represented, solicitor, offline, overseas, welsh, _) =>
      ⟨firstName, lastName, email, represented, solicitor, offline, overseas, welsh⟩)
    (fun applicant => (applicant.firstName, applicant.lastName, applicant.email,
      applicant.solicitorRepresented, applicant.solicitor, applicant.offline,
      applicant.addressOverseas, applicant.prefersWelsh, ()))
    (fun _ => rfl)

def Application.shape : Shape Application :=
  .record "Application"
    (.required "serviceMethod" (.choice ServiceMethod.vocabulary) <|
      .defaulted "reissueOption" none (.optional (.choice ReissueOption.vocabulary)) <|
      .defaulted "issueDate" none (.optional .date) .nil)
    (fun (serviceMethod, reissueOption, issueDate, _) => ⟨serviceMethod, reissueOption, issueDate⟩)
    (fun application => (application.serviceMethod, application.reissueOption,
      application.issueDate, ()))
    (fun _ => rfl)

def Acknowledgement.shape : Shape Acknowledgement :=
  .record "AcknowledgementOfService"
    (.required "howToRespond" (.choice ResponseKind.vocabulary) <|
      .defaulted "dateSubmitted" none (.optional .date) .nil)
    (fun (response, dateSubmitted, _) => ⟨response, dateSubmitted⟩)
    (fun acknowledgement => (acknowledgement.response, acknowledgement.dateSubmitted, ()))
    (fun _ => rfl)

def ConditionalOrder.shape : Shape ConditionalOrder :=
  .record "ConditionalOrder"
    (.defaulted "refusalDecision" none (.optional (.choice RefusalDecision.vocabulary)) <|
      .defaulted "switchedToSole" false .flag <|
      .defaulted "d84WhoApplying" none (.optional (.choice Party.vocabulary)) .nil)
    (fun (refusalDecision, switchedToSole, applyingParty, _) =>
      ⟨refusalDecision, switchedToSole, applyingParty⟩)
    (fun order => (order.refusalDecision, order.switchedToSole, order.applyingParty, ()))
    (fun _ => rfl)

def FinalOrder.shape : Shape FinalOrder :=
  .record "FinalOrder"
    (.defaulted "switchedToSole" false .flag <|
      .defaulted "d36WhoApplying" none (.optional (.choice Party.vocabulary)) .nil)
    (fun (switchedToSole, applyingParty, _) => ⟨switchedToSole, applyingParty⟩)
    (fun order => (order.switchedToSole, order.applyingParty, ()))
    (fun _ => rfl)

def InformationRequest.shape : Shape InformationRequest :=
  .record "RequestForInformation"
    (.required "party" (.choice Addressee.vocabulary) <|
      .defaulted "details" "" .text .nil)
    (fun (addressee, details, _) => ⟨addressee, details⟩)
    (fun request => (request.addressee, request.details, ()))
    (fun _ => rfl)

def CaseDocument.shape : Shape CaseDocument :=
  .record "GeneratedDocument"
    (.required "documentType" (.choice DocumentType.vocabulary) <|
      .required "displayName" .text <|
      .required "fileName" .text <|
      .required "link" .text .nil)
    (fun (documentType, displayName, fileName, link, _) =>
      ⟨documentType, displayName, fileName, link⟩)
    (fun document =>
      (document.documentType, document.displayName, document.fileName, document.link, ()))
    (fun _ => rfl)

def CaseFacts.shape : Shape CaseFacts :=
  .record "CaseData"
    (.required "applicationType" (.choice ApplicationKind.vocabulary) <|
      .required "divorceOrDissolution" (.choice UnionKind.vocabulary) <|
      .defaulted "supplementaryCaseType" .notApplicable (.choice SeparationKind.vocabulary) <|
      .required "applicant1" Applicant.shape <|
      .required "applicant2" Applicant.shape <|
      .required "application" Application.shape <|
      .defaulted "acknowledgementOfService" none (.optional Acknowledgement.shape) <|
      .defaulted "conditionalOrder" {} ConditionalOrder.shape <|
      .defaulted "finalOrder" {} FinalOrder.shape <|
      .defaulted "requestForInformation" none (.optional InformationRequest.shape) <|
      .defaulted "documentsGenerated" [] (.list CaseDocument.shape) .nil)
    (fun (applicationKind, unionKind, separationKind, applicant1, applicant2, application,
        acknowledgement, conditionalOrder, finalOrder, informationRequest, documents, _) =>
      ⟨applicationKind, unionKind, separationKind, applicant1, applicant2, application,
        acknowledgement, conditionalOrder, finalOrder, informationRequest, documents⟩)
    (fun facts => (facts.applicationKind, facts.unionKind, facts.separationKind, facts.applicant1,
      facts.applicant2, facts.application, facts.acknowledgement, facts.conditionalOrder,
      facts.finalOrder, facts.informationRequest, facts.documents, ()))
    (fun _ => rfl)

def CaseFile.shape : Shape CaseFile :=
  .record "CaseDetails"
    (.required "id" .natural <|
      .required "data" CaseFacts.shape .nil)
    (fun (id, facts, _) => ⟨id, facts⟩)
    (fun caseFile => (caseFile.id, caseFile.facts, ()))
    (fun _ => rfl)

end LetterPacks
