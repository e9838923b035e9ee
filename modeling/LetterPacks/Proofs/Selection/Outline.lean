import LetterPacks.Proofs.Selection.Likeness

/-!
# Outlines of cases

The outline of a case for a party is what the rules can tell about it: some closed choices about the
case and some flags about the recipient.  Cases of one outline are alike, there are finitely many
outlines, and every outline has a case that states nothing else.  All that an outline takes from a
text is whether it is blank, so a case whose texts are struck out is alike to the case itself.
-/

namespace LetterPacks

def Text.struckOut (text : String) : String :=
  if Text.isBlankText text then "" else "-"

private theorem Text.isBlankText_struckOut (text : String) :
    Text.isBlankText (Text.struckOut text) = Text.isBlankText text := by
  unfold Text.struckOut
  cases Text.isBlankText text with
  | true => rfl
  | false => rfl

def Solicitor.redacted (solicitor : Solicitor) : Solicitor where
  name := ""
  email := none
  organisationId := solicitor.organisationId.map Text.struckOut

namespace Applicant

/-- A party of whom no name is left, and of an address only whether it is blank. -/
def redacted (applicant : Applicant) : Applicant :=
  { applicant with
    firstName := ""
    lastName := ""
    email := applicant.email.map Text.struckOut
    solicitor := applicant.solicitor.map Solicitor.redacted }

private theorem hasOrganisation_redacted (applicant : Applicant) :
    applicant.redacted.hasOrganisation = applicant.hasOrganisation := by
  unfold hasOrganisation redacted
  rcases applicant.solicitor with _ | ⟨name, email, _ | identifier⟩
  · rfl
  · rfl
  · exact congrArg not (Text.isBlankText_struckOut identifier)

private theorem isOffline_redacted (applicant : Applicant) :
    applicant.redacted.isOffline = applicant.isOffline := by
  unfold isOffline redacted
  rcases applicant.email with _ | email
  · rfl
  · exact congrArg (applicant.offline || ·) (Text.isBlankText_struckOut email)

end Applicant

namespace CaseFacts

def redacted (facts : CaseFacts) : CaseFacts :=
  { facts with
    applicant1 := facts.applicant1.redacted
    applicant2 := facts.applicant2.redacted
    application := { facts.application with issueDate := none }
    acknowledgement := facts.acknowledgement.map fun acknowledgement =>
      { acknowledgement with dateSubmitted := none }
    informationRequest := facts.informationRequest.map fun request =>
      { request with details := "" }
    documents := [] }

private theorem applicant_redacted (facts : CaseFacts) (party : Party) :
    facts.redacted.applicant party = (facts.applicant party).redacted := by
  cases party <;> rfl

theorem alike_redacted (facts : CaseFacts) (party : Party) : Alike party facts.redacted facts where
  applicationKind := rfl
  separationKind := rfl
  isCourtService := rfl
  isReissuedOffline := rfl
  isDisputed := by
    rw [redacted, Option.map_map]
    rfl
  conditionalOrder := rfl
  finalOrder := rfl
  addressee := by
    rw [redacted, Option.map_map]
    rfl
  isRepresented := by
    rw [applicant_redacted]
    rfl
  hasOrganisation := by
    rw [applicant_redacted, Applicant.hasOrganisation_redacted]
  isOffline := by
    rw [applicant_redacted, Applicant.isOffline_redacted]
  addressOverseas := by
    rw [applicant_redacted]
    rfl

end CaseFacts

def flags : List Bool :=
  [false, true]

private theorem mem_flags (flag : Bool) : flag ∈ flags := by
  cases flag <;> decide

def Vocabulary.optional {α : Type} (vocabulary : Vocabulary α) : List (Option α) :=
  none :: vocabulary.all.map some

private theorem Vocabulary.mem_optional {α : Type} (vocabulary : Vocabulary α) (value? : Option α) :
    value? ∈ vocabulary.optional := by
  cases value? with
  | none =>
      exact List.mem_cons_self
  | some value =>
      exact List.mem_cons_of_mem _ (List.mem_map_of_mem (vocabulary.complete value))

def ConditionalOrder.all : List ConditionalOrder :=
  RefusalDecision.vocabulary.optional.flatMap fun refusalDecision =>
    flags.flatMap fun switchedToSole =>
      Party.vocabulary.optional.map fun applyingParty =>
        ⟨refusalDecision, switchedToSole, applyingParty⟩

private theorem ConditionalOrder.mem_all (order : ConditionalOrder) : order ∈ all := by
  simp only [all, List.mem_flatMap, List.mem_map]
  exact ⟨_, Vocabulary.mem_optional _ _, _, mem_flags _, _, Vocabulary.mem_optional _ _, rfl⟩

def FinalOrder.all : List FinalOrder :=
  flags.flatMap fun switchedToSole =>
    Party.vocabulary.optional.map fun applyingParty => ⟨switchedToSole, applyingParty⟩

private theorem FinalOrder.mem_all (order : FinalOrder) : order ∈ all := by
  simp only [all, List.mem_flatMap, List.mem_map]
  exact ⟨_, mem_flags _, _, Vocabulary.mem_optional _ _, rfl⟩

/-- What the rules can tell about a recipient. -/
structure RecipientOutline where
  isRepresented : Bool
  hasOrganisation : Bool
  isOffline : Bool
  addressOverseas : Bool

def Applicant.outline (applicant : Applicant) : RecipientOutline where
  isRepresented := applicant.isRepresented
  hasOrganisation := applicant.hasOrganisation
  isOffline := applicant.isOffline
  addressOverseas := applicant.addressOverseas

namespace RecipientOutline

def all : List RecipientOutline :=
  flags.flatMap fun isRepresented =>
    flags.flatMap fun hasOrganisation =>
      flags.flatMap fun isOffline =>
        flags.map fun addressOverseas =>
          ⟨isRepresented, hasOrganisation, isOffline, addressOverseas⟩

private theorem mem_all (outline : RecipientOutline) : outline ∈ all := by
  simp only [all, List.mem_flatMap, List.mem_map]
  exact ⟨_, mem_flags _, _, mem_flags _, _, mem_flags _, _, mem_flags _, rfl⟩

def applicant (outline : RecipientOutline) : Applicant where
  email := some "-"
  solicitorRepresented := outline.isRepresented
  solicitor := if outline.hasOrganisation then some ⟨"", none, some "-"⟩ else none
  offline := outline.isOffline
  addressOverseas := outline.addressOverseas

private theorem outline_applicant
    (outline : RecipientOutline) : outline.applicant.outline = outline := by
  obtain ⟨isRepresented, hasOrganisation, isOffline, addressOverseas⟩ := outline
  cases hasOrganisation <;> cases isOffline <;> rfl

end RecipientOutline

/-- What the rules can tell about a case and one of its parties. -/
structure CaseOutline where
  applicationKind : ApplicationKind
  separationKind : SeparationKind
  isCourtService : Bool
  isReissuedOffline : Bool
  /-- Whether the acknowledgement, if there is one, disputes the case. -/
  isDisputed : Option Bool
  conditionalOrder : ConditionalOrder
  finalOrder : FinalOrder
  addressee : Option Addressee
  recipient : RecipientOutline

namespace CaseFacts

def outline (facts : CaseFacts) (party : Party) : CaseOutline where
  applicationKind := facts.applicationKind
  separationKind := facts.separationKind
  isCourtService := facts.application.isCourtService
  isReissuedOffline := facts.application.isReissuedOffline
  isDisputed := facts.acknowledgement.map Acknowledgement.isDisputed
  conditionalOrder := facts.conditionalOrder
  finalOrder := facts.finalOrder
  addressee := facts.informationRequest.map InformationRequest.addressee
  recipient := (facts.applicant party).outline

private theorem alike_of_outline_eq {party : Party} {left right : CaseFacts}
    (same : left.outline party = right.outline party) : Alike party left right where
  applicationKind := congrArg CaseOutline.applicationKind same
  separationKind := congrArg CaseOutline.separationKind same
  isCourtService := congrArg CaseOutline.isCourtService same
  isReissuedOffline := congrArg CaseOutline.isReissuedOffline same
  isDisputed := congrArg CaseOutline.isDisputed same
  conditionalOrder := congrArg CaseOutline.conditionalOrder same
  finalOrder := congrArg CaseOutline.finalOrder same
  addressee := congrArg CaseOutline.addressee same
  isRepresented := congrArg (fun outline => outline.recipient.isRepresented) same
  hasOrganisation := congrArg (fun outline => outline.recipient.hasOrganisation) same
  isOffline := congrArg (fun outline => outline.recipient.isOffline) same
  addressOverseas := congrArg (fun outline => outline.recipient.addressOverseas) same

end CaseFacts

namespace CaseOutline

def all : List CaseOutline :=
  ApplicationKind.vocabulary.all.flatMap fun applicationKind =>
    SeparationKind.vocabulary.all.flatMap fun separationKind =>
      flags.flatMap fun isCourtService =>
        flags.flatMap fun isReissuedOffline =>
          (none :: flags.map some).flatMap fun isDisputed =>
            ConditionalOrder.all.flatMap fun conditionalOrder =>
              FinalOrder.all.flatMap fun finalOrder =>
                Addressee.vocabulary.optional.flatMap fun addressee =>
                  RecipientOutline.all.map fun recipient =>
                    { applicationKind, separationKind, isCourtService, isReissuedOffline,
                      isDisputed, conditionalOrder, finalOrder, addressee, recipient }

private theorem mem_all (outline : CaseOutline) : outline ∈ all := by
  have disputed : outline.isDisputed ∈ none :: flags.map some := by
    rcases outline.isDisputed with _ | _ | _ <;> decide
  simp only [all, List.mem_flatMap, List.mem_map]
  exact ⟨_, ApplicationKind.vocabulary.complete _, _, SeparationKind.vocabulary.complete _,
    _, mem_flags _, _, mem_flags _, _, disputed, _, ConditionalOrder.mem_all _,
    _, FinalOrder.mem_all _, _, Vocabulary.mem_optional _ _, _, RecipientOutline.mem_all _, rfl⟩

/-- A case of a given outline for either party, which states nothing else. -/
def facts (outline : CaseOutline) : CaseFacts where
  applicationKind := outline.applicationKind
  unionKind := .divorce
  separationKind := outline.separationKind
  applicant1 := outline.recipient.applicant
  applicant2 := outline.recipient.applicant
  application := {
    serviceMethod := if outline.isCourtService then .court else .personal
    reissueOption := if outline.isReissuedOffline then some .offline else none
    issueDate := none }
  acknowledgement := outline.isDisputed.map fun disputed =>
    ⟨if disputed then .disputed else .withoutDispute, none⟩
  conditionalOrder := outline.conditionalOrder
  finalOrder := outline.finalOrder
  informationRequest := outline.addressee.map fun addressee => ⟨addressee, ""⟩
  documents := []

private theorem outline_facts (outline : CaseOutline) (party : Party) :
    outline.facts.outline party = outline := by
  obtain ⟨kind, additional, court, reissued, disputed, order, final, addressee, recipient⟩ :=
    outline
  rw [CaseFacts.outline, mk.injEq]
  refine ⟨rfl, rfl, ?_, ?_, ?_, rfl, rfl, ?_, ?_⟩
  · cases court <;> rfl
  · cases reissued <;> rfl
  · rcases disputed with _ | _ | _ <;> rfl
  · cases addressee <;> rfl
  · cases party <;> exact recipient.outline_applicant

end CaseOutline

def CaseFacts.grid : List CaseFacts :=
  CaseOutline.all.map CaseOutline.facts

theorem CaseFacts.exists_mem_grid_alike (facts : CaseFacts) (party : Party) :
    ∃ plain ∈ grid, Alike party facts plain := by
  have listed : (facts.outline party).facts ∈ grid :=
    List.mem_map_of_mem (CaseOutline.mem_all (facts.outline party))
  exact ⟨_, listed, alike_of_outline_eq ((facts.outline party).outline_facts party).symm⟩

end LetterPacks
