import LetterPacks.Proofs.Selection.Conditions

/-!
# What a notice of proceedings holds

Every party to every case is given notice of the proceedings, together with the application.  The
second party gets both on paper, below a coversheet, where it cannot be given notice online.  The
conditions for that are stated here on the facts of the case, and every branch of the rule is
followed down to a pack that meets them.
-/

namespace LetterPacks

def Text.IsPrinted (text : String) : Prop :=
  ∃ character ∈ text.toList, isBlank character = false

theorem Text.isPrinted_iff {text : String} : IsPrinted text ↔ isBlankText text = false := by
  simp [IsPrinted, isBlankText]

namespace Applicant

variable {applicant : Applicant}

def HasFirm (applicant : Applicant) : Prop :=
  ∃ solicitor identifier, applicant.solicitor = some solicitor ∧
    solicitor.organisationId = some identifier ∧ Text.IsPrinted identifier

def HasEmail (applicant : Applicant) : Prop :=
  ∃ email, applicant.email = some email ∧ Text.IsPrinted email

private theorem hasFirm_iff : applicant.HasFirm ↔ applicant.hasOrganisation = true := by
  unfold HasFirm hasOrganisation Solicitor.hasOrganisation
  cases applicant.solicitor with
  | none =>
      simp
  | some solicitor =>
      cases identified : solicitor.organisationId <;> simp [identified, Text.isPrinted_iff]

private theorem offline_or_iff :
    applicant.offline = true ∨ ¬ applicant.HasEmail ↔ applicant.isOffline = true := by
  unfold isOffline HasEmail
  cases applicant.email <;> simp [Text.isPrinted_iff]

end Applicant

namespace CaseFacts

/-- A respondent without a solicitor who is not given notice online. -/
def IsUnreached (facts : CaseFacts) : Prop :=
  facts.applicant2.addressOverseas = true ∨ facts.application.reissueOption = some .offline ∨
    (facts.applicant2.offline = true ∨ ¬ facts.applicant2.HasEmail) ∨
    facts.application.serviceMethod ≠ .court

def NoticeOnPaper (facts : CaseFacts) : Prop :=
  let recipient := facts.applicant2
  (facts.AsksSeparation ∧ facts.applicationKind = .sole ∧
      recipient.solicitorRepresented = false) ∨
    (¬ facts.AsksSeparation ∧ facts.applicationKind = .sole ∧
      recipient.solicitorRepresented = true ∧ ¬ recipient.HasFirm) ∨
    (¬ facts.AsksSeparation ∧ facts.applicationKind = .sole ∧
      recipient.solicitorRepresented = false ∧ facts.IsUnreached) ∨
    (¬ facts.AsksSeparation ∧ facts.applicationKind = .joint ∧
      recipient.solicitorRepresented = false ∧
      (recipient.offline = true ∨ ¬ recipient.HasEmail))

def NoticeOnline (facts : CaseFacts) : Prop :=
  ¬ facts.AsksSeparation ∧ facts.applicationKind = .sole ∧
    facts.applicant2.solicitorRepresented = false ∧ ¬ facts.NoticeOnPaper

private theorem isUnreached_iff {facts : CaseFacts} :
    facts.IsUnreached ↔
      facts.applicant2.addressOverseas = true ∨
        (facts.application.isReissuedOffline || facts.applicant2.isOffline) = true ∨
        facts.application.isCourtService = false := by
  unfold IsUnreached Application.isReissuedOffline Application.isCourtService
  rw [Applicant.offline_or_iff, Bool.or_eq_true, beq_iff_eq, beq_eq_false_iff_ne, or_assoc]

end CaseFacts

def Party.noticeType : Party → DocumentType
  | .applicant1 => .noticeOfProceedingsApplicant1
  | .applicant2 => .noticeOfProceedingsApplicant2

def ApplicationKind.applicationTemplate : ApplicationKind → Template
  | .sole => .divorceApplicationSole
  | .joint => .divorceApplicationJoint

/-- The pack is made of documents of these types, all rendered, with the application of a kind. -/
structure Pack.Encloses (pack : Pack) (kind : ApplicationKind) (types : List DocumentType) :
    Prop where
  documentTypes : pack.documentTypes = types
  application : ∀ slot ∈ pack.slots, slot.documentType = .application →
    slot.template = some kind.applicationTemplate
  derivedTypes : pack.derivedTypes = []

def Pack.usesTemplate (pack : Pack) (template : Template) : Bool :=
  pack.slots.any fun slot => slot.template == some template

/-- The pack is a notice, below a coversheet on one condition and for online use on another. -/
structure Pack.Notifies
    (pack : Pack) (party : Party) (kind : ApplicationKind) (covered online : Prop) : Prop where
  enclosed : (covered ∧ pack.Encloses kind [.coversheet, party.noticeType, .application]) ∨
    (¬ covered ∧ pack.Encloses kind [party.noticeType, .application])
  online_iff : pack.usesTemplate .nopR1SoleApp2CitOnline = true ↔ online

namespace Pack.Notifies

variable {first second key : PackKey} {party : Party} {kind : ApplicationKind}
  {covered online : Prop}

private theorem plain
    (enclosed : key.toPack.Encloses kind [party.noticeType, .application])
    (other : key.toPack.usesTemplate .nopR1SoleApp2CitOnline = false)
    (bare : ¬ covered) (offline : ¬ online) :
    key.toPack.Notifies party kind covered online where
  enclosed := Or.inr ⟨bare, enclosed⟩
  online_iff := by simp [other, offline]

private theorem onPaper
    (enclosed : key.toPack.Encloses kind [.coversheet, party.noticeType, .application])
    (other : key.toPack.usesTemplate .nopR1SoleApp2CitOnline = false)
    (paper : covered) (offline : ¬ online) :
    key.toPack.Notifies party kind covered online where
  enclosed := Or.inl ⟨paper, enclosed⟩
  online_iff := by simp [other, offline]

private theorem onScreen
    (enclosed : key.toPack.Encloses kind [party.noticeType, .application])
    (used : key.toPack.usesTemplate .nopR1SoleApp2CitOnline = true)
    (bare : ¬ covered) (screen : online) :
    key.toPack.Notifies party kind covered online where
  enclosed := Or.inr ⟨bare, enclosed⟩
  online_iff := by simp [used, screen]

private theorem either
    {condition : Bool}
    (met : condition = true → first.toPack.Notifies party kind covered online)
    (unmet : condition = false → second.toPack.Notifies party kind covered online) :
    (if condition then first else second).toPack.Notifies party kind covered online := by
  cases condition with
  | true => exact met rfl
  | false => exact unmet rfl

theorem derivedTypes
    {pack : Pack} (notifies : pack.Notifies party kind covered online) :
    pack.derivedTypes = [] := by
  rcases notifies.enclosed with ⟨_, enclosed⟩ | ⟨_, enclosed⟩
  · exact enclosed.derivedTypes
  · exact enclosed.derivedTypes

private theorem congr
    {otherCovered otherOnline : Prop} {pack : Pack}
    (notifies : pack.Notifies party kind covered online)
    (sameCover : covered ↔ otherCovered) (sameUse : online ↔ otherOnline) :
    pack.Notifies party kind otherCovered otherOnline := by
  rwa [propext sameCover, propext sameUse] at notifies

end Pack.Notifies

open Pack.Notifies

private theorem soleApplicantNotice_notifies (facts : CaseFacts) :
    (soleApplicantNotice facts).toPack.Notifies .applicant1 .sole False False := by
  apply either
  · intro _
    exact plain ⟨rfl, by decide, rfl⟩ rfl id id
  · intro _
    apply either
    · intro _
      exact plain ⟨rfl, by decide, rfl⟩ rfl id id
    · intro _
      exact plain ⟨rfl, by decide, rfl⟩ rfl id id

private theorem soleRespondentNotice_notifies (facts : CaseFacts) :
    (soleRespondentNotice facts).toPack.Notifies .applicant2 .sole
      ((facts.applicant2.isRepresented = true ∧ ¬ facts.applicant2.HasFirm) ∨
        (facts.applicant2.isRepresented = false ∧ facts.IsUnreached))
      (facts.applicant2.isRepresented = false ∧ ¬ facts.IsUnreached) := by
  apply either
  · intro represented
    apply either
    · intro firm
      have known : facts.applicant2.HasFirm := Applicant.hasFirm_iff.2 firm
      exact plain ⟨rfl, by decide, rfl⟩ rfl (by simp [represented, known]) (by simp [represented])
    · intro firmless
      have unknown : ¬ facts.applicant2.HasFirm := by simp [Applicant.hasFirm_iff, firmless]
      exact onPaper ⟨rfl, by decide, rfl⟩ rfl (by simp [represented, unknown])
        (by simp [represented])
  · intro unrepresented
    apply either
    · intro overseas
      have unreached : facts.IsUnreached := CaseFacts.isUnreached_iff.2 (Or.inl overseas)
      exact onPaper ⟨rfl, by decide, rfl⟩ rfl (by simp [unrepresented, unreached])
        (by simp [unreached])
    · intro inland
      apply either
      · intro offline
        have unreached : facts.IsUnreached :=
          CaseFacts.isUnreached_iff.2 (Or.inr (Or.inl offline))
        exact onPaper ⟨rfl, by decide, rfl⟩ rfl (by simp [unrepresented, unreached])
          (by simp [unreached])
      · intro online
        apply either
        · intro court
          have reached : ¬ facts.IsUnreached := by
            simp [CaseFacts.isUnreached_iff, inland, online, court]
          exact onScreen ⟨rfl, by decide, rfl⟩ rfl (by simp [unrepresented, reached])
            ⟨unrepresented, reached⟩
        · intro service
          have unreached : facts.IsUnreached :=
            CaseFacts.isUnreached_iff.2 (Or.inr (Or.inr service))
          exact onPaper ⟨rfl, by decide, rfl⟩ rfl (by simp [unrepresented, unreached])
            (by simp [unreached])

private theorem jointNotice_notifies (facts : CaseFacts) (party : Party) :
    (jointNotice facts party).toPack.Notifies party .joint
      (party = .applicant2 ∧ facts.applicant2.isRepresented = false ∧
        facts.applicant2.isOffline = true) False := by
  cases party with
  | applicant1 =>
      apply either
      · intro _
        exact plain ⟨rfl, by decide, rfl⟩ rfl (by simp) id
      · intro _
        exact plain ⟨rfl, by decide, rfl⟩ rfl (by simp) id
  | applicant2 =>
      apply either
      · intro represented
        exact plain ⟨rfl, by decide, rfl⟩ rfl (by simp [represented]) id
      · intro unrepresented
        apply either
        · intro offline
          exact onPaper ⟨rfl, by decide, rfl⟩ rfl ⟨rfl, unrepresented, offline⟩ id
        · intro online
          exact plain ⟨rfl, by decide, rfl⟩ rfl (by simp [online]) id

private theorem separationNotice_notifies (facts : CaseFacts) (party : Party) :
    (separationNotice facts party).toPack.Notifies party facts.applicationKind
      (party = .applicant2 ∧ facts.applicationKind = .sole ∧
        facts.applicant2.isRepresented = false) False := by
  unfold separationNotice
  cases facts.applicationKind with
  | sole =>
      cases party with
      | applicant1 =>
          apply either
          · intro _
            exact plain ⟨rfl, by decide, rfl⟩ rfl (by simp) id
          · intro _
            apply either
            · intro _
              exact plain ⟨rfl, by decide, rfl⟩ rfl (by simp) id
            · intro _
              exact plain ⟨rfl, by decide, rfl⟩ rfl (by simp) id
      | applicant2 =>
          apply either
          · intro represented
            have acted : facts.applicant2.isRepresented = true := represented
            exact plain ⟨rfl, by decide, rfl⟩ rfl (by simp [acted]) id
          · intro unrepresented
            exact onPaper ⟨rfl, by decide, rfl⟩ rfl ⟨rfl, rfl, unrepresented⟩ id
  | joint =>
      cases party with
      | applicant1 =>
          apply either
          · intro _
            exact plain ⟨rfl, by decide, rfl⟩ rfl (by simp) id
          · intro _
            exact plain ⟨rfl, by decide, rfl⟩ rfl (by simp) id
      | applicant2 =>
          apply either
          · intro _
            exact plain ⟨rfl, by decide, rfl⟩ rfl (by simp) id
          · intro _
            exact plain ⟨rfl, by decide, rfl⟩ rfl (by simp) id

theorem notice_notifies (facts : CaseFacts) (party : Party) :
    (notice facts party).toPack.Notifies party facts.applicationKind
      (party = .applicant2 ∧ facts.NoticeOnPaper) (party = .applicant2 ∧ facts.NoticeOnline) := by
  unfold notice
  by_cases separation : facts.isSeparation = true
  · have asked : facts.AsksSeparation := CaseFacts.asksSeparation_iff.2 separation
    rw [if_pos separation]
    apply (separationNotice_notifies facts party).congr
    · simp [CaseFacts.NoticeOnPaper, asked, Applicant.isRepresented]
    · simp [CaseFacts.NoticeOnline, asked]
  · have divorce : ¬ facts.AsksSeparation := fun asked =>
      separation (CaseFacts.asksSeparation_iff.1 asked)
    rw [if_neg separation]
    cases kind : facts.applicationKind with
    | sole =>
        cases party with
        | applicant1 =>
            apply (soleApplicantNotice_notifies facts).congr <;> simp
        | applicant2 =>
            apply (soleRespondentNotice_notifies facts).congr
            · simp [CaseFacts.NoticeOnPaper, divorce, kind, Applicant.isRepresented]
            · unfold CaseFacts.NoticeOnline CaseFacts.NoticeOnPaper Applicant.isRepresented
              cases represented : facts.applicant2.solicitorRepresented <;>
                simp [divorce, kind, represented]
    | joint =>
        apply (jointNotice_notifies facts party).congr
        · simp [CaseFacts.NoticeOnPaper, divorce, kind, Applicant.isRepresented,
            Applicant.offline_or_iff]
        · simp [CaseFacts.NoticeOnline, kind]

end LetterPacks
