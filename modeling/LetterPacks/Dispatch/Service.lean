import LetterPacks.OnDemand.Generator
import LetterPacks.Printing.Printer

/-!
# Dispatching letters

The service brings a catalog, a generator and a printer together.  Resolving a letter selects the
pack of a party and makes sure that the document which the pack needs lies in the case file;
printing also posts the letter.  Both are steps from the states of the case file, the generator and
the printer to the next ones.

The case file changes only when the rule of the letter names a document, the selected pack holds
it and none of its type lies in the case file.
-/

namespace LetterPacks

inductive DispatchFault where
  | catalog (fault : CatalogFault)
  | refused (refusal : Refusal)
  | generation (fault : GenerationFault)
  | printing (fault : PrintFault)
  | missingDocument (letter : Letter) (documentType : DocumentType)
deriving DecidableEq, Repr

namespace DispatchFault

def message : DispatchFault → String
  | .catalog fault => fault.message
  | .refused refusal => refusal.message
  | .generation fault => fault.message
  | .printing fault => fault.message
  | .missingDocument letter documentType =>
      letter.name ++ " needs a generated " ++ documentType.name ++
        " document but the case has none"

def status : DispatchFault → Nat
  | .catalog (.unknownLetter _) => 404
  | .catalog _ => 500
  | .refused (.undefined _) => 501
  | .refused _ | .missingDocument _ _ => 422
  | .generation _ | .printing _ => 502

end DispatchFault

structure Service (σ τ : Type) where
  catalog : Catalog
  generator : Generator σ
  printer : Printer τ

structure Resolved (σ : Type) where
  outcome : Except DispatchFault Pack
  caseFile : CaseFile
  generator : σ

structure Printed (σ τ : Type) where
  outcome : Except DispatchFault Receipt
  caseFile : CaseFile
  generator : σ
  printer : τ

namespace Service

def inMemory (catalog : Catalog) : Service (List CaseDocument) (List PrintRequest) :=
  ⟨catalog, Generator.inMemory, Printer.inMemory⟩

variable {σ τ : Type}

/-- The pack of a party and the document that it needs in the case file, if it needs one. -/
def choose (service : Service σ τ) (letter : Letter) (party : Party) (facts : CaseFacts) :
    Except DispatchFault (Pack × Option OnDemandDocument) :=
  match service.catalog.lookup letter with
  | .error fault => .error (.catalog fault)
  | .ok rule =>
      match rule.resolve facts party with
      | .error refusal => .error (.refused refusal)
      | .ok pack =>
          .ok (pack, (rule.onDemand facts party).filter fun document =>
            pack.contains document.documentType)

/-- Selects the pack of a party and puts the document that it needs into the case file. -/
def resolve (service : Service σ τ) (letter : Letter) (party : Party) (caseFile : CaseFile)
    (state : σ) : Resolved σ :=
  match service.choose letter party caseFile.facts with
  | .error fault => ⟨.error fault, caseFile, state⟩
  | .ok (pack, none) => ⟨.ok pack, caseFile, state⟩
  | .ok (pack, some document) =>
      let ensured := service.generator.ensure document caseFile state
      match ensured.outcome with
      | .ok _ => ⟨.ok pack, ensured.caseFile, ensured.generator⟩
      | .error fault => ⟨.error (.generation fault), ensured.caseFile, ensured.generator⟩

def post (service : Service σ τ) (letter : Letter) (party : Party) (pack : Pack)
    (caseFile : CaseFile) (queue : τ) : Except DispatchFault Receipt × τ :=
  match PrintRequest.ofPack letter pack caseFile party with
  | .error documentType => (.error (.missingDocument letter documentType), queue)
  | .ok request =>
      match service.printer.print queue request with
      | (.ok receipt, queue) => (.ok receipt, queue)
      | (.error fault, queue) => (.error (.printing fault), queue)

def print (service : Service σ τ) (letter : Letter) (party : Party) (caseFile : CaseFile)
    (state : σ) (queue : τ) : Printed σ τ :=
  let resolved := service.resolve letter party caseFile state
  match resolved.outcome with
  | .error fault => ⟨.error fault, resolved.caseFile, resolved.generator, queue⟩
  | .ok pack =>
      let (outcome, queue) := service.post letter party pack resolved.caseFile queue
      ⟨outcome, resolved.caseFile, resolved.generator, queue⟩

end Service

end LetterPacks
