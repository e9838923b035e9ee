import LetterPacks.Dispatch.Service

/-!
# Sessions

A session is the work on one case: letters are resolved and printed for its parties in any order,
and forms are put into its case file.  A step that fails does not end the session; the next one
starts from whatever the failed one has left.
-/

namespace LetterPacks

/-- A letter that is resolved or printed for a party. -/
inductive Dispatch where
  | resolve (letter : Letter) (party : Party)
  | print (letter : Letter) (party : Party)
deriving DecidableEq, Repr

/-- A step of a session. -/
inductive Step where
  | dispatch (dispatch : Dispatch)
  | ensure (form : OnDemandDocument)
deriving DecidableEq, Repr

/-- What came of a dispatch. -/
inductive Answer where
  | resolved (outcome : Except DispatchFault Pack)
  | printed (outcome : Except DispatchFault Receipt)

/-- The state of a session. -/
structure Session (σ τ : Type) where
  caseFile : CaseFile
  generator : σ
  printer : τ

namespace Dispatch

def letter : Dispatch → Letter
  | .resolve letter _ | .print letter _ => letter

def party : Dispatch → Party
  | .resolve _ party | .print _ party => party

end Dispatch

namespace Service

variable {σ τ : Type}

def dispatch (service : Service σ τ) (session : Session σ τ) : Dispatch → Answer × Session σ τ
  | .resolve letter party =>
      let resolved := service.resolve letter party session.caseFile session.generator
      (.resolved resolved.outcome, ⟨resolved.caseFile, resolved.generator, session.printer⟩)
  | .print letter party =>
      let printed := service.print letter party session.caseFile session.generator session.printer
      (.printed printed.outcome, ⟨printed.caseFile, printed.generator, printed.printer⟩)

def step (service : Service σ τ) (session : Session σ τ) : Step → Session σ τ
  | .dispatch dispatch => (service.dispatch session dispatch).2
  | .ensure form =>
      let ensured := service.generator.ensure form session.caseFile session.generator
      ⟨ensured.caseFile, ensured.generator, session.printer⟩

def run (service : Service σ τ) (session : Session σ τ) (steps : List Step) : Session σ τ :=
  steps.foldl service.step session

variable {service : Service σ τ} {session : Session σ τ} {letter : Letter} {party : Party}
  {file : CaseFile} {next : σ}

theorem dispatch_of_resolve
    {outcome : Except DispatchFault Pack}
    (resolved : service.resolve letter party session.caseFile session.generator =
      ⟨outcome, file, next⟩) :
    service.dispatch session (.resolve letter party) =
      (.resolved outcome, ⟨file, next, session.printer⟩) := by
  simp only [dispatch, resolved]

theorem dispatch_of_print
    {outcome : Except DispatchFault Receipt} {queue : τ}
    (printed : service.print letter party session.caseFile session.generator session.printer =
      ⟨outcome, file, next, queue⟩) :
    service.dispatch session (.print letter party) = (.printed outcome, ⟨file, next, queue⟩) := by
  simp only [dispatch, printed]

theorem step_of_ensure
    {form : OnDemandDocument} {outcome : Except GenerationFault Bool}
    (ensured : service.generator.ensure form session.caseFile session.generator =
      ⟨outcome, file, next⟩) :
    service.step session (.ensure form) = ⟨file, next, session.printer⟩ := by
  simp only [step, ensured]

theorem run_cons
    (service : Service σ τ) (session : Session σ τ) (step : Step) (steps : List Step) :
    service.run session (step :: steps) = service.run (service.step session step) steps :=
  rfl

end Service

def CaseFile.bare (id : UInt64) : CaseFile where
  id := id
  facts := {
    applicationKind := .sole
    unionKind := .divorce
    separationKind := .notApplicable
    applicant1 := {}
    applicant2 := {}
    application := { serviceMethod := .court, reissueOption := none, issueDate := none }
    acknowledgement := none
    conditionalOrder := {}
    finalOrder := {}
    informationRequest := none
    documents := [] }

end LetterPacks
