import LetterPacks.Proofs.Dispatch.Recording
import LetterPacks.Proofs.OnDemand.Supply

/-!
# The account of a session

Whatever is resolved, printed or put into a case file in a session, and whatever fails meanwhile,
the documents of the case file are accounted for by the calls of the generator.  This holds for
every catalog, every printer and every faithful generator.
-/

namespace LetterPacks

namespace Service

variable {σ τ : Type} {service : Service σ τ} {start current : CaseFile} {calls : List Call}

private theorem supplied_resolve
    (faithful : service.generator.Faithful) (supplied : Supplied start current calls)
    (letter : Letter) (party : Party) (state : σ) :
    let resolved := service.recorded.resolve letter party current (state, calls)
    Supplied start resolved.caseFile resolved.generator.2 := by
  intro resolved
  rcases service.recorded.resolve_cases letter party current (state, calls) with
    ⟨sameFile, sameState⟩ | ⟨form, ensuredFile, ensuredState⟩
  · rw [sameFile, sameState]
    exact supplied
  · rw [ensuredFile, ensuredState]
    exact faithful.supplied_ensure supplied form state

private theorem supplied_dispatch
    (faithful : service.generator.Faithful)
    {session : Session (σ × List Call) (τ × List PrintRequest)}
    (supplied : Supplied start session.caseFile session.generator.2) (dispatch : Dispatch) :
    let after := (service.recorded.dispatch session dispatch).2
    Supplied start after.caseFile after.generator.2 := by
  cases dispatch with
  | resolve letter party =>
      exact supplied_resolve faithful supplied letter party session.generator.1
  | print letter party =>
      have resolved := supplied_resolve faithful supplied letter party session.generator.1
      have same := service.recorded.caseFile_print letter party session.caseFile
        session.generator session.printer
      change Supplied start (service.recorded.print _ _ _ _ _).caseFile
        (service.recorded.print _ _ _ _ _).generator.2
      rw [same.1, same.2]
      exact resolved

private theorem supplied_step
    (faithful : service.generator.Faithful)
    {session : Session (σ × List Call) (τ × List PrintRequest)}
    (supplied : Supplied start session.caseFile session.generator.2) (step : Step) :
    let after := service.recorded.step session step
    Supplied start after.caseFile after.generator.2 := by
  cases step with
  | dispatch dispatch =>
      exact supplied_dispatch faithful supplied dispatch
  | ensure form =>
      exact faithful.supplied_ensure supplied form session.generator.1

private theorem supplied_run
    (faithful : service.generator.Faithful)
    {session : Session (σ × List Call) (τ × List PrintRequest)}
    (supplied : Supplied start session.caseFile session.generator.2) (steps : List Step) :
    let after := service.recorded.run session steps
    Supplied start after.caseFile after.generator.2 := by
  induction steps generalizing session with
  | nil =>
      exact supplied
  | cons step steps ih =>
      exact ih (supplied_step faithful supplied step)

/-- The calls of the generator account for the case file at every point of a session. -/
theorem run_accounted
    (faithful : service.generator.Faithful) (session : Session σ τ) (steps : List Step) :
    ∃ calls requests,
      service.recorded.run (session.recorded [] []) steps =
          (service.run session steps).recorded calls requests ∧
        Accounted session.caseFile (service.run session steps).caseFile calls := by
  obtain ⟨calls, requests, recorded⟩ := service.run_recorded session steps [] []
  have unused : Supplied session.caseFile (session.recorded [] []).caseFile
      (session.recorded [] []).generator.2 := Supplied.start
  have supplied := supplied_run faithful unused steps
  rw [recorded] at supplied
  exact ⟨calls, requests, recorded, supplied.accounted⟩

/-- The form is rendered at the second call and stays when the letter is not posted. -/
theorem run_accounted_of_unsteady :
    let session : Session _ _ := ⟨CaseFile.bare 7, (1, []), (1, [])⟩
    let steps := List.replicate 3 (Step.dispatch (.print .applyForConditionalOrder .applicant1))
    unsteady.generator.Faithful ∧
      (∃ calls requests,
        unsteady.recorded.run (session.recorded [] []) steps =
            (unsteady.run session steps).recorded calls requests ∧
          Accounted session.caseFile (unsteady.run session steps).caseFile calls) ∧
      (unsteady.run session steps).caseFile.facts.documents.map CaseDocument.documentType =
        [.conditionalOrderApplicationForm] := by
  intro session steps
  exact ⟨faithful_unsteady, run_accounted faithful_unsteady session steps, by decide +kernel⟩

end Service

end LetterPacks
