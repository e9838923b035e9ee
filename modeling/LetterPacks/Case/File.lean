import LetterPacks.Calendar.Date
import LetterPacks.Case.Choices
import LetterPacks.Case.Party
import LetterPacks.Pack.DocumentType

/-!
# Case files

A case file holds what is known about a case, and the documents that have been rendered for it.
Letters are chosen by the questions that are defined here.
-/

namespace LetterPacks

structure Solicitor where
  name : String
  email : Option String
  organisationId : Option String
deriving DecidableEq

/-- A solicitor works in an organisation when a printed organisation id is on record. -/
def Solicitor.hasOrganisation (solicitor : Solicitor) : Bool :=
  match solicitor.organisationId with
  | some identifier => !Text.isBlankText identifier
  | none => false

structure Applicant where
  firstName : String := ""
  lastName : String := ""
  email : Option String := none
  solicitorRepresented : Bool := false
  solicitor : Option Solicitor := none
  offline : Bool := false
  addressOverseas : Bool := false
  prefersWelsh : Bool := false
deriving DecidableEq

namespace Applicant

def isRepresented (applicant : Applicant) : Bool :=
  applicant.solicitorRepresented

def hasOrganisation (applicant : Applicant) : Bool :=
  match applicant.solicitor with
  | some solicitor => solicitor.hasOrganisation
  | none => false

/-- A party is offline by its own choice or for want of a printed email address. -/
def isOffline (applicant : Applicant) : Bool :=
  applicant.offline ||
    match applicant.email with
    | some email => Text.isBlankText email
    | none => true

def language (applicant : Applicant) : Language :=
  if applicant.prefersWelsh then .welsh else .english

def fullName (applicant : Applicant) : String :=
  Text.trim (applicant.firstName ++ " " ++ applicant.lastName)

end Applicant

structure Application where
  serviceMethod : ServiceMethod
  reissueOption : Option ReissueOption
  issueDate : Option Date
deriving DecidableEq

namespace Application

def isCourtService (application : Application) : Bool :=
  application.serviceMethod == .court

/-- Whether the application was issued again for an answer on paper. -/
def isReissuedOffline (application : Application) : Bool :=
  application.reissueOption == some .offline

end Application

structure Acknowledgement where
  response : ResponseKind
  dateSubmitted : Option Date
deriving DecidableEq

def Acknowledgement.isDisputed (acknowledgement : Acknowledgement) : Bool :=
  acknowledgement.response == .disputed

structure ConditionalOrder where
  refusalDecision : Option RefusalDecision := none
  switchedToSole : Bool := false
  applyingParty : Option Party := none
deriving DecidableEq

structure FinalOrder where
  switchedToSole : Bool := false
  applyingParty : Option Party := none
deriving DecidableEq

structure InformationRequest where
  addressee : Addressee
  details : String
deriving DecidableEq

def InformationRequest.addresses (request : InformationRequest) (party : Party) : Bool :=
  match request.addressee, party with
  | .both, _ | .applicant1, .applicant1 | .applicant2, .applicant2 => true
  | _, _ => false

/-- A document that has been rendered for a case. -/
structure CaseDocument where
  documentType : DocumentType
  displayName : String
  fileName : String
  link : String
deriving DecidableEq

structure CaseFacts where
  applicationKind : ApplicationKind
  unionKind : UnionKind
  separationKind : SeparationKind
  applicant1 : Applicant
  applicant2 : Applicant
  application : Application
  acknowledgement : Option Acknowledgement
  conditionalOrder : ConditionalOrder
  finalOrder : FinalOrder
  informationRequest : Option InformationRequest
  documents : List CaseDocument
deriving DecidableEq

namespace CaseFacts

def applicant (facts : CaseFacts) : Party → Applicant
  | .applicant1 => facts.applicant1
  | .applicant2 => facts.applicant2

def isSole (facts : CaseFacts) : Bool :=
  facts.applicationKind == .sole

def isSeparation (facts : CaseFacts) : Bool :=
  facts.separationKind != .notApplicable

def document? (facts : CaseFacts) (documentType : DocumentType) : Option CaseDocument :=
  facts.documents.find? fun document => document.documentType == documentType

def hasDocument (facts : CaseFacts) (documentType : DocumentType) : Bool :=
  (facts.document? documentType).isSome

end CaseFacts

structure CaseFile where
  id : UInt64
  facts : CaseFacts
deriving DecidableEq

namespace CaseFile

def number (caseFile : CaseFile) : String :=
  Number.decimal caseFile.id.toNat

def addDocument (caseFile : CaseFile) (document : CaseDocument) : CaseFile :=
  { caseFile with
    facts := { caseFile.facts with documents := caseFile.facts.documents ++ [document] } }

def removeDocuments (caseFile : CaseFile) (documentType : DocumentType) : CaseFile :=
  { caseFile with
    facts := { caseFile.facts with
      documents := caseFile.facts.documents.filter fun document =>
        document.documentType != documentType } }

end CaseFile

end LetterPacks
