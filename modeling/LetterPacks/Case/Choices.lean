import LetterPacks.Vocabulary

/-!
# Choices of a case

The closed vocabularies in which the facts of a case are stated.
-/

namespace LetterPacks

inductive ApplicationKind where
  | sole
  | joint
deriving DecidableEq, Repr

def ApplicationKind.vocabulary : Vocabulary ApplicationKind where
  all := [.sole, .joint]
  name
    | .sole => "soleApplication"
    | .joint => "jointApplication"
  complete := by intro value; cases value <;> decide
  distinct := by decide

def ApplicationKind.title : ApplicationKind → String
  | .sole => "SoleApplication"
  | .joint => "JointApplication"

inductive UnionKind where
  | divorce
  | dissolution
deriving DecidableEq, Repr

def UnionKind.vocabulary : Vocabulary UnionKind where
  all := [.divorce, .dissolution]
  name
    | .divorce => "divorce"
    | .dissolution => "dissolution"
  complete := by intro value; cases value <;> decide
  distinct := by decide

inductive SeparationKind where
  | notApplicable
  | judicialSeparation
  | separation
deriving DecidableEq, Repr

def SeparationKind.vocabulary : Vocabulary SeparationKind where
  all := [.notApplicable, .judicialSeparation, .separation]
  name
    | .notApplicable => "notApplicable"
    | .judicialSeparation => "judicialSeparation"
    | .separation => "separation"
  complete := by intro value; cases value <;> decide
  distinct := by decide

inductive ServiceMethod where
  | court
  | personal
  | solicitor
deriving DecidableEq, Repr

def ServiceMethod.vocabulary : Vocabulary ServiceMethod where
  all := [.court, .personal, .solicitor]
  name
    | .court => "courtService"
    | .personal => "personalService"
    | .solicitor => "solicitorService"
  complete := by intro value; cases value <;> decide
  distinct := by decide

inductive ReissueOption where
  | digital
  | offline
  | wholeCase
deriving DecidableEq, Repr

def ReissueOption.vocabulary : Vocabulary ReissueOption where
  all := [.digital, .offline, .wholeCase]
  name
    | .digital => "digitalAos"
    | .offline => "offlineAos"
    | .wholeCase => "reissueCase"
  complete := by intro value; cases value <;> decide
  distinct := by decide

inductive ResponseKind where
  | withoutDispute
  | disputed
deriving DecidableEq, Repr

def ResponseKind.vocabulary : Vocabulary ResponseKind where
  all := [.withoutDispute, .disputed]
  name
    | .withoutDispute => "withoutDispute"
    | .disputed => "disputeDivorce"
  complete := by intro value; cases value <;> decide
  distinct := by decide

/-- Why a conditional order was not granted. -/
inductive RefusalDecision where
  | moreInformation
  | rejected
  | administrativeError
deriving DecidableEq, Repr

def RefusalDecision.vocabulary : Vocabulary RefusalDecision where
  all := [.moreInformation, .rejected, .administrativeError]
  name
    | .moreInformation => "moreInfo"
    | .rejected => "reject"
    | .administrativeError => "adminError"
  complete := by intro value; cases value <;> decide
  distinct := by decide

/-- Whom a request for information is addressed to. -/
inductive Addressee where
  | applicant1
  | applicant2
  | both
deriving DecidableEq, Repr

def Addressee.vocabulary : Vocabulary Addressee where
  all := [.applicant1, .applicant2, .both]
  name
    | .applicant1 => "applicant1"
    | .applicant2 => "applicant2"
    | .both => "both"
  complete := by intro value; cases value <;> decide
  distinct := by decide

inductive Language where
  | english
  | welsh
deriving DecidableEq, Repr

def Language.vocabulary : Vocabulary Language where
  all := [.english, .welsh]
  name
    | .english => "english"
    | .welsh => "welsh"
  complete := by intro value; cases value <;> decide
  distinct := by decide

end LetterPacks
