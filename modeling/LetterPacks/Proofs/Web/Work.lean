import LetterPacks.Proofs.Dispatch.Stages
import LetterPacks.Proofs.Web.Serving

/-!
# Answering in steps

While a request is answered, other requests may be answered as well.  They meet only in the
generator and the printer, so the work on a request is the tree of its calls to these two: each
call leads to more work, which may depend on its answer, until there is a response.  Whoever does
all the work at once gives the answer of the server (`run_work`).
-/

namespace LetterPacks.Web

/-- What is left to be done for a request. -/
inductive Work where
  | done (response : Response)
  | generate (caseFile : CaseFile) (form : OnDemandDocument)
      (next : Except GenerationFault CaseDocument → Work)
  | print (request : PrintRequest) (next : Except PrintFault Receipt → Work)

namespace Work

variable {σ τ : Type}

def run (generator : Generator σ) (printer : Printer τ) : Work → σ → τ → Answer σ τ
  | .done response, state, queue => ⟨response, state, queue⟩
  | .generate caseFile form next, state, queue =>
      let (answer, state) := generator.generate state caseFile form
      (next answer).run generator printer state queue
  | .print request next, state, queue =>
      let (answer, queue) := printer.print queue request
      (next answer).run generator printer state queue

/-- Puts a document into a case file unless one of its type lies there. -/
def ensure (form : OnDemandDocument) (caseFile : CaseFile)
    (next : Except GenerationFault CaseFile → Work) : Work :=
  if caseFile.facts.hasDocument form.documentType then next (.ok caseFile)
  else .generate caseFile form fun answer => next (answer.map caseFile.addDocument)

/-- Selects the pack of a party and puts the document that it needs into the case file. -/
def resolve (service : Service σ τ) (letter : Letter) (party : Party) (caseFile : CaseFile)
    (next : Except DispatchFault (Pack × CaseFile) → Work) : Work :=
  match service.choose letter party caseFile.facts with
  | .error fault => next (.error fault)
  | .ok (pack, none) => next (.ok (pack, caseFile))
  | .ok (pack, some form) =>
      ensure form caseFile fun
        | .error fault => next (.error (.generation fault))
        | .ok file => next (.ok (pack, file))

def post (letter : Letter) (party : Party) (pack : Pack) (caseFile : CaseFile)
    (next : Except DispatchFault Receipt → Work) : Work :=
  match PrintRequest.ofPack letter pack caseFile party with
  | .error documentType => next (.error (.missingDocument letter documentType))
  | .ok request => .print request fun answer => next (answer.mapError .printing)

end Work

/-- A decoded request to resolve or to print a letter. -/
structure Order where
  prints : Bool
  text : String
  request : PackRequest

namespace Server

variable {σ τ : Type}

def work (server : Server σ τ) (order : Order) : Work :=
  let party := order.request.party
  match Letter.ofText order.text with
  | .error fault => .done (dispatchFailure (.catalog fault))
  | .ok letter =>
      Work.resolve server.service letter party order.request.caseFile fun
        | .error fault => .done (dispatchFailure fault)
        | .ok (pack, file) =>
            if order.prints then
              Work.post letter party pack file fun
                | .error fault => .done (dispatchFailure fault)
                | .ok receipt => .done ⟨202, some (printedView letter party receipt file)⟩
            else .done ⟨200, some (resolvedView letter party pack file)⟩

end Server

namespace Work

variable {σ τ : Type} {service : Service σ τ} {letter : Letter} {party : Party}
  {caseFile : CaseFile} {state : σ} {queue : τ}

def reached (resolved : Resolved σ) : Except DispatchFault (Pack × CaseFile) :=
  resolved.outcome.map fun pack => (pack, resolved.caseFile)

private theorem run_ensure
    {generator : Generator σ} {printer : Printer τ} {form : OnDemandDocument}
    {next : Except GenerationFault CaseFile → Work} :
    (ensure form caseFile next).run generator printer state queue =
      (next ((generator.ensure form caseFile state).outcome.map fun _ =>
        (generator.ensure form caseFile state).caseFile)).run generator printer
        (generator.ensure form caseFile state).generator queue := by
  cases held : caseFile.facts.hasDocument form.documentType with
  | true =>
      simp only [ensure, Generator.ensure, held, if_true, Except.map]
  | false =>
      rcases answered : generator.generate state caseFile form with ⟨fault | document, later⟩ <;>
        simp only [ensure, Generator.ensure, held, Bool.false_eq_true, if_false, run, answered,
          Except.map]

private theorem run_resolve
    {printer : Printer τ} {next : Except DispatchFault (Pack × CaseFile) → Work} :
    (resolve service letter party caseFile next).run service.generator printer state queue =
      (next (reached (service.resolve letter party caseFile state))).run service.generator printer
        (service.resolve letter party caseFile state).generator queue := by
  rcases chosen : service.choose letter party caseFile.facts with fault | ⟨pack, _ | form⟩
  · rw [Service.resolve_of_unchosen chosen, resolve, chosen]
    rfl
  · rw [Service.resolve_of_chosen chosen, resolve, chosen]
    rfl
  · rw [resolve, chosen]
    dsimp only
    rw [run_ensure]
    rcases ensured : service.generator.ensure form caseFile state with ⟨fault | added, file, later⟩
    · rw [Service.resolve_of_failed chosen ensured]
      rfl
    · rw [Service.resolve_of_ensured chosen ensured]
      rfl

private theorem run_post
    {generator : Generator σ} {pack : Pack} {next : Except DispatchFault Receipt → Work} :
    (post letter party pack caseFile next).run generator service.printer state queue =
      (next (service.post letter party pack caseFile queue).1).run generator service.printer state
        (service.post letter party pack caseFile queue).2 := by
  cases assembled : PrintRequest.ofPack letter pack caseFile party with
  | error documentType =>
      rw [Service.post_of_missing assembled, post, assembled]
  | ok request =>
      rcases answered : service.printer.print queue request with ⟨answer, queued⟩
      rw [Service.post_of_assembled assembled answered, post, assembled]
      simp only [run, answered]

end Work

namespace Server

variable {σ τ : Type}

/-- Whoever does all the work on an order at once gives the answer of the server. -/
theorem run_work (server : Server σ τ) (order : Order) (state : σ) (queue : τ) :
    (server.work order).run server.service.generator server.service.printer state queue =
      server.serve order.prints order.text order.request state queue := by
  obtain ⟨prints, text, caseFile, party⟩ := order
  cases known : Letter.ofText text with
  | error fault =>
      cases prints <;> simp only [work, serve_false, serve_true, resolve, print, known, Work.run]
  | ok letter =>
      simp only [work, known]
      rw [Work.run_resolve]
      rcases resolved : server.service.resolve letter party caseFile state with
        ⟨fault | pack, file, later⟩
      · cases prints with
        | false =>
            simp only [serve_false, resolve, known, resolved, Bool.false_eq_true, if_false]
            rfl
        | true =>
            simp only [serve_true, print, known, Service.print_of_unresolved resolved, if_true]
            rfl
      · cases prints with
        | false =>
            simp only [serve_false, resolve, known, resolved, Bool.false_eq_true, if_false]
            rfl
        | true =>
            simp only [serve_true, print, known, Service.print_of_resolved resolved, if_true,
              Work.reached, Except.map]
            rw [Work.run_post]
            cases (server.service.post letter party pack file queue).1 <;> rfl

end Server

end LetterPacks.Web
