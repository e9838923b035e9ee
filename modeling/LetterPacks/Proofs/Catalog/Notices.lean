import LetterPacks.Proofs.Dispatch.Stages
import LetterPacks.Proofs.Printing.Assembly
import LetterPacks.Proofs.Selection.NoticeContents

/-!
# Notices of proceedings

Over the standard catalog a notice of proceedings can always be resolved, and all its documents are
rendered, so that nothing in the case file can be missing when it is printed.
-/

namespace LetterPacks

private theorem PrintRequest.exists_ofPack_eq_ok
    {pack : Pack} (rendered : pack.derivedTypes = []) (letter : Letter) (caseFile : CaseFile)
    (party : Party) :
    ∃ request, ofPack letter pack caseFile party = .ok request := by
  cases assembled : ofPack letter pack caseFile party with
  | ok request =>
      exact ⟨request, rfl⟩
  | error documentType =>
      obtain ⟨slot, member, derived, _⟩ :=
        derived_of_documentsFor_eq_error (documentsFor_of_ofPack_eq_error assembled)
      have listed : slot.documentType ∈ pack.derivedTypes := by
        rw [Pack.derivedTypes, List.mem_map]
        exact ⟨slot, List.mem_filter.2 ⟨member, by simp [derived]⟩, rfl⟩
      rw [rendered] at listed
      cases listed

namespace Service

variable {σ τ : Type} {service : Service σ τ} {letter : Letter} {party : Party}
  {caseFile : CaseFile} {state : σ} {pack : Pack}

private theorem exists_request_of_rendered
    (chosen : service.choose letter party caseFile.facts = .ok (pack, none))
    (rendered : pack.derivedTypes = []) (queue : τ) :
    ∃ request, PrintRequest.ofPack letter pack caseFile party = .ok request ∧
      service.print letter party caseFile state queue =
        ⟨(service.printer.print queue request).1.mapError .printing, caseFile, state,
          (service.printer.print queue request).2⟩ := by
  obtain ⟨request, assembled⟩ :=
    PrintRequest.exists_ofPack_eq_ok rendered letter caseFile party
  refine ⟨request, assembled, ?_⟩
  have posted : service.post letter party pack caseFile queue =
      ((service.printer.print queue request).1.mapError .printing,
        (service.printer.print queue request).2) := post_of_assembled assembled rfl
  rw [print_of_resolved (resolve_of_chosen chosen), posted]

end Service

/-- Every party to every case is given notice of the proceedings. -/
structure Catalog.GivesNotice (catalog : Catalog) : Prop where
  resolves : ∀ facts party, ∃ rule pack,
    catalog.lookup .noticeOfProceedings = .ok rule ∧ rule.resolve facts party = .ok pack ∧
      pack.Notifies party facts.applicationKind
        (party = .applicant2 ∧ facts.NoticeOnPaper) (party = .applicant2 ∧ facts.NoticeOnline)
  findsDocuments : ∀ (σ τ : Type) (service : Service σ τ) (party : Party) (caseFile : CaseFile)
    (state : σ) (queue : τ), service.catalog = catalog → ∀ letter documentType,
      (service.print .noticeOfProceedings party caseFile state queue).outcome ≠
        .error (.missingDocument letter documentType)

namespace Catalog

variable {catalog : Catalog}

private theorem givesNotice_of_standard (built : standard = .ok catalog) : catalog.GivesNotice where
  resolves facts party := ⟨noticeRule, (notice facts party).toPack,
    lookup_of_standard built .noticeOfProceedings, rfl, notice_notifies facts party⟩
  findsDocuments := by
    rintro σ τ service party caseFile state queue rfl letter documentType failed
    have selected : Letter.noticeOfProceedings.rule.select caseFile.facts party =
        .ok (notice caseFile.facts party) := rfl
    have chosen : service.choose .noticeOfProceedings party caseFile.facts =
        .ok ((notice caseFile.facts party).toPack, none) :=
      Service.choose_of_standard built selected
    have rendered : (notice caseFile.facts party).toPack.derivedTypes = [] :=
      (notice_notifies caseFile.facts party).derivedTypes
    obtain ⟨request, _, printed⟩ := Service.exists_request_of_rendered chosen rendered queue
    rw [printed] at failed
    cases answer : (service.printer.print queue request).1 with
    | ok receipt =>
        rw [answer] at failed
        cases failed
    | error fault =>
        rw [answer] at failed
        cases failed

theorem exists_givesNotice_standard : ∃ catalog, standard = .ok catalog ∧ catalog.GivesNotice :=
  ⟨_, standard_eq_ok, givesNotice_of_standard standard_eq_ok⟩

end Catalog

end LetterPacks
