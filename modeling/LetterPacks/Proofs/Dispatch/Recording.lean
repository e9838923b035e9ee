import LetterPacks.Proofs.Dispatch.Session
import LetterPacks.Proofs.Dispatch.Stages
import LetterPacks.Proofs.OnDemand.Recording

/-!
# Recorded dispatches

A recorded service works with a recorded generator and a recorded printer, so that it is known
afterwards what was asked of them.  Apart from the records it does what the service does
(`Service.run_recorded`).
-/

namespace LetterPacks

variable {σ τ : Type}

/-- The printer with a record of the requests that it was given, oldest first. -/
def Printer.recorded (printer : Printer τ) : Printer (τ × List PrintRequest) where
  print
    | (queue, requests), request =>
        let (answer, next) := printer.print queue request
        (answer, next, requests ++ [request])

theorem Printer.print_recorded
    {printer : Printer τ} {queue next : τ} {request : PrintRequest}
    {answer : Except PrintFault Receipt}
    (answered : printer.print queue request = (answer, next)) (requests : List PrintRequest) :
    printer.recorded.print (queue, requests) request = (answer, next, requests ++ [request]) := by
  rw [recorded]
  simp only [answered]

def Resolved.recorded (resolved : Resolved σ) (calls : List Call) : Resolved (σ × List Call) :=
  ⟨resolved.outcome, resolved.caseFile, resolved.generator, calls⟩

/-- What came of printing, with records of calls and requests. -/
def Printed.recorded
    (printed : Printed σ τ) (calls : List Call) (requests : List PrintRequest) :
    Printed (σ × List Call) (τ × List PrintRequest) :=
  ⟨printed.outcome, printed.caseFile, (printed.generator, calls), (printed.printer, requests)⟩

def Session.recorded
    (session : Session σ τ) (calls : List Call) (requests : List PrintRequest) :
    Session (σ × List Call) (τ × List PrintRequest) :=
  ⟨session.caseFile, (session.generator, calls), (session.printer, requests)⟩

namespace Service

/-- The service with a recorded generator and a recorded printer. -/
def recorded (service : Service σ τ) : Service (σ × List Call) (τ × List PrintRequest) :=
  ⟨service.catalog, service.generator.recorded, service.printer.recorded⟩

private theorem choose_recorded
    {service : Service σ τ} {letter : Letter} {party : Party} {facts : CaseFacts} :
    service.recorded.choose letter party facts = service.choose letter party facts :=
  rfl

private theorem resolve_recorded
    (service : Service σ τ) (letter : Letter) (party : Party) (caseFile : CaseFile) (state : σ)
    (calls : List Call) :
    ∃ later, service.recorded.resolve letter party caseFile (state, calls) =
      (service.resolve letter party caseFile state).recorded later := by
  rcases chosen : service.choose letter party caseFile.facts with fault | ⟨pack, _ | form⟩
  · rw [resolve_of_unchosen chosen, resolve_of_unchosen (choose_recorded.trans chosen)]
    exact ⟨calls, rfl⟩
  · rw [resolve_of_chosen chosen, resolve_of_chosen (choose_recorded.trans chosen)]
    exact ⟨calls, rfl⟩
  · obtain ⟨later, recorded⟩ := service.generator.ensure_recorded form caseFile state calls
    rcases ensured : service.generator.ensure form caseFile state with ⟨fault | added, _, _⟩
    · rw [ensured] at recorded
      rw [resolve_of_failed chosen ensured,
        resolve_of_failed (choose_recorded.trans chosen) recorded]
      exact ⟨later, rfl⟩
    · rw [ensured] at recorded
      rw [resolve_of_ensured chosen ensured,
        resolve_of_ensured (choose_recorded.trans chosen) recorded]
      exact ⟨later, rfl⟩

/-- A recorded printing does what the printing does.  The printer is given nothing when the letter
is not resolved or lacks a document, and otherwise the request that is made of the selected pack. -/
theorem print_recorded
    (service : Service σ τ) (letter : Letter) (party : Party) (caseFile : CaseFile) (state : σ)
    (queue : τ) (calls : List Call) (requests : List PrintRequest) :
    let resolved := service.resolve letter party caseFile state
    let printed := service.print letter party caseFile state queue
    ∃ later posted,
      service.recorded.resolve letter party caseFile (state, calls) = resolved.recorded later ∧
      service.recorded.print letter party caseFile (state, calls) (queue, requests) =
        printed.recorded later (requests ++ posted) ∧
      printed.caseFile = resolved.caseFile ∧
      ((∃ fault, resolved.outcome = .error fault ∧ printed.outcome = .error fault ∧ posted = []) ∨
        (∃ pack documentType, resolved.outcome = .ok pack ∧
          PrintRequest.ofPack letter pack resolved.caseFile party = .error documentType ∧
          printed.outcome = .error (.missingDocument letter documentType) ∧ posted = []) ∨
        ∃ pack request, resolved.outcome = .ok pack ∧
          PrintRequest.ofPack letter pack resolved.caseFile party = .ok request ∧
          printed.outcome = (service.printer.print queue request).1.mapError .printing ∧
          posted = [request]) := by
  obtain ⟨later, recorded⟩ := service.resolve_recorded letter party caseFile state calls
  rcases resolved : service.resolve letter party caseFile state with ⟨fault | pack, file, next⟩
  · rw [resolved] at recorded
    rw [print_of_unresolved resolved, print_of_unresolved recorded]
    refine ⟨later, [], recorded, ?_, rfl, Or.inl ⟨fault, rfl, rfl, rfl⟩⟩
    rw [List.append_nil]
    rfl
  · rw [resolved] at recorded
    rw [print_of_resolved resolved, print_of_resolved recorded]
    cases assembled : PrintRequest.ofPack letter pack file party with
    | error documentType =>
        rw [post_of_missing assembled, post_of_missing assembled]
        refine ⟨later, [], recorded, ?_, rfl,
          Or.inr (Or.inl ⟨pack, documentType, rfl, assembled, rfl, rfl⟩)⟩
        rw [List.append_nil]
        rfl
    | ok request =>
        rcases answered : service.printer.print queue request with ⟨answer, _⟩
        have asked := Printer.print_recorded answered requests
        change service.recorded.printer.print (queue, requests) request = _ at asked
        rw [post_of_assembled assembled answered, post_of_assembled assembled asked]
        refine ⟨later, [request], recorded, rfl, rfl,
          Or.inr (Or.inr ⟨pack, request, rfl, assembled, ?_, rfl⟩)⟩
        rw [answered]

theorem exists_attach_of_resolve
    (service : Service σ τ) (letter : Letter) (party : Party) (caseFile : CaseFile) (state : σ) :
    ∃ documents,
      (service.resolve letter party caseFile state).caseFile = caseFile.attach documents := by
  rcases service.resolve_cases letter party caseFile state with ⟨same, _⟩ | ⟨form, ensured, _⟩
  · exact ⟨[], same.trans caseFile.attach_nil.symm⟩
  · rw [ensured]
    exact service.generator.exists_attach_of_ensure form caseFile state

/-- The printer is given nothing but the request that is made of the pack which the rule of the
letter selects, and a posted letter has been given to it. -/
theorem print_recorded_of_resolved
    {service : Service σ τ} {letter : Letter} {party : Party} {caseFile : CaseFile} {pack : Pack}
    {rule : SelectionRule} (found : service.catalog.lookup letter = .ok rule)
    (selected : rule.resolve caseFile.facts party = .ok pack) (state : σ) (queue : τ) :
    let printed := service.print letter party caseFile state queue
    ∃ calls requests documents,
      service.recorded.print letter party caseFile (state, []) (queue, []) =
        printed.recorded calls requests ∧
      (∀ request ∈ requests,
        PrintRequest.ofPack letter pack (caseFile.attach documents) party = .ok request) ∧
      ∀ receipt, printed.outcome = .ok receipt → ∃ request, requests = [request] := by
  obtain ⟨calls, requests, _, recorded, _, outcome⟩ :=
    service.print_recorded letter party caseFile state queue [] []
  obtain ⟨documents, attached⟩ := service.exists_attach_of_resolve letter party caseFile state
  refine ⟨calls, requests, documents, recorded, ?_⟩
  rcases outcome with ⟨_, _, failed, rfl⟩ | ⟨_, _, _, _, failed, rfl⟩ |
    ⟨other, request, resolved, assembled, _, rfl⟩
  · exact ⟨List.forall_mem_nil _, fun receipt posted => nomatch failed.symm.trans posted⟩
  · exact ⟨List.forall_mem_nil _, fun receipt posted => nomatch failed.symm.trans posted⟩
  · obtain ⟨_, chosen⟩ := choose_of_resolved found selected
    obtain ⟨_, chosenHere⟩ := chosen_of_resolve_eq_ok resolved
    obtain ⟨rfl, _⟩ := Prod.mk.inj (Except.ok.inj (chosenHere.symm.trans chosen))
    rw [attached] at assembled
    exact ⟨List.forall_mem_singleton.2 assembled, fun receipt _ => ⟨request, rfl⟩⟩

private theorem dispatch_recorded
    (service : Service σ τ) (session : Session σ τ) (dispatch : Dispatch) (calls : List Call)
    (requests : List PrintRequest) :
    ∃ later posted, service.recorded.dispatch (session.recorded calls requests) dispatch =
      ((service.dispatch session dispatch).1,
        (service.dispatch session dispatch).2.recorded later posted) := by
  cases dispatch with
  | resolve letter party =>
      obtain ⟨later, recorded⟩ :=
        service.resolve_recorded letter party session.caseFile session.generator calls
      exact ⟨later, requests, dispatch_of_resolve recorded⟩
  | print letter party =>
      obtain ⟨later, posted, _, recorded, _⟩ :=
        service.print_recorded letter party session.caseFile session.generator session.printer
          calls requests
      exact ⟨later, requests ++ posted, dispatch_of_print recorded⟩

private theorem step_recorded
    (service : Service σ τ) (session : Session σ τ) (step : Step) (calls : List Call)
    (requests : List PrintRequest) :
    ∃ later posted, service.recorded.step (session.recorded calls requests) step =
      (service.step session step).recorded later posted := by
  cases step with
  | dispatch dispatch =>
      obtain ⟨later, posted, recorded⟩ := service.dispatch_recorded session dispatch calls requests
      exact ⟨later, posted, congrArg Prod.snd recorded⟩
  | ensure form =>
      obtain ⟨later, recorded⟩ :=
        service.generator.ensure_recorded form session.caseFile session.generator calls
      exact ⟨later, requests, step_of_ensure recorded⟩

theorem run_recorded
    (service : Service σ τ) (session : Session σ τ) (steps : List Step) (calls : List Call)
    (requests : List PrintRequest) :
    ∃ later posted, service.recorded.run (session.recorded calls requests) steps =
      (service.run session steps).recorded later posted := by
  induction steps generalizing session calls requests with
  | nil =>
      exact ⟨calls, requests, rfl⟩
  | cons step steps ih =>
      obtain ⟨later, posted, recorded⟩ := service.step_recorded session step calls requests
      rw [run_cons, run_cons, recorded]
      exact ih (service.step session step) later posted

/-- A generator and a printer whose first calls fail, over the standard rules. -/
def unsteady : Service (Nat × List CaseDocument) (Nat × List PrintRequest) where
  catalog := ⟨standardRules⟩
  generator := Generator.inMemory.failingFirst (.backend "no paper")
  printer := Printer.inMemory.failingFirst (.unavailable "no ink")

theorem faithful_unsteady : unsteady.generator.Faithful :=
  Generator.faithful_inMemory.failingFirst _

end Service

end LetterPacks
