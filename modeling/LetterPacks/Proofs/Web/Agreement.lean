import LetterPacks.Proofs.Dispatch.Independence
import LetterPacks.Proofs.Web.Bodies
import LetterPacks.Proofs.Web.Segments
import LetterPacks.Proofs.Web.Serving

/-!
# One answer from program and server

A letter is resolved by the program, which takes its text from the arguments and the case from a
file, or by a server in memory, which takes the text from a segment and the case from a body.  Both
show the same view or fail with the same status; the complaint of the program only names in front
the part that failed.
-/

namespace LetterPacks

namespace Service

variable {catalog : Catalog}

private theorem exists_resolve_inMemory
    (built : Catalog.standard = .ok catalog) (letter : Letter) (party : Party)
    (caseFile : CaseFile) :
    ∃ outcome, ∃ resolved : CaseFile, resolved.id = caseFile.id ∧
      (∀ pack, outcome = .ok pack → letter.rule.resolve caseFile.facts party = .ok pack) ∧
      ∀ documents, ∃ later,
        (inMemory catalog).resolve letter party caseFile documents =
          ⟨outcome, resolved, later⟩ := by
  have reached : caseFile.Reached caseFile := Or.inl rfl
  cases selected : letter.rule.select caseFile.facts party with
  | error refusal =>
      exact ⟨.error (.refused refusal), caseFile, rfl, nofun, fun documents =>
        ⟨documents, resolve_inMemory_of_refused built reached selected documents⟩⟩
  | ok key =>
      refine ⟨.ok key.toPack, leaves letter caseFile caseFile,
        (reached_leaves reached letter).id_eq, ?_,
        resolve_inMemory_of_selected built reached selected⟩
      rintro pack ⟨⟩
      rw [SelectionRule.resolve, selected]
      rfl

end Service

namespace Web

/-- A request asks to resolve the letter of a text for a party and the case of another text. -/
structure Request.Asks (request : Request) (text caseText : String) (party : Party) : Prop where
  posted : request.method = "POST"
  target : ∃ segment : String,
    Encodes text.toList segment.toList ∧ request.target = resolveTarget segment
  marked : namesJson request.contentType = true
  admitted : request.body.utf8ByteSize ≤ largestBody
  carries : PackRequest.Carries caseText party request.body

/-- A request in which every character of the letter is escaped and the case is as it is. -/
def writtenRequest (text caseText : String) (party : Party) : Request :=
  ⟨"POST", resolveTarget (escapedSegment text), some "application/json",
    PackRequest.writtenBody caseText party⟩

private theorem asks_writtenRequest
    {text caseText : String} {party : Party}
    (admitted : (PackRequest.writtenBody caseText party).utf8ByteSize ≤ largestBody) :
    (writtenRequest text caseText party).Asks text caseText party where
  posted := rfl
  target := ⟨escapedSegment text, encodes_escapedSegment text, rfl⟩
  marked := by
    have json : namesJson (some "application/json") = true := by decide +kernel
    exact json
  admitted := admitted
  carries := PackRequest.carries_writtenBody caseText party

def NamesNoLetter (text : String) : Prop :=
  ∀ letter : Letter, letter.name ≠ Text.trim text

/-- A response says that a request has failed, with a status for the failure and a message. -/
structure Response.Refuses (response : Response) (status : Nat) (message : String) : Prop where
  status_eq : response.status = status
  failing : 400 ≤ response.status
  body_eq : response.body = some (.record [("error", .text message)])

/-- The program and the server come to the same with the letter of a text. -/
inductive Agree (text : String) (party : Party) (caseFile : CaseFile) : Outcome → Response → Prop
  /-- The text that the program prints is the body of the response. -/
  | shown {response : Response} (letter : Letter) (pack : Pack) (documents : List CaseDocument)
      (view : Json) :
      letter.name = Text.trim text → letter.rule.resolve caseFile.facts party = .ok pack →
      view = .record [
        ("letterId", .text letter.name),
        ("caseId", .natural caseFile.id.toNat),
        ("party", .text party.name),
        ("pack", pack.toJson),
        ("documentsGenerated", documentsToJson documents)] →
      response.status = 200 → response.body = some view →
      Agree text party caseFile (.finished (view.pretty ++ "\n")) response
  | unknown {response : Response} (failure : Failure) (message : String) :
      NamesNoLetter text → failure.message = "catalog error: " ++ message →
      response.Refuses failure.status message →
      Agree text party caseFile (.failed failure) response
  | failed {response : Response} (failure : Failure) (message : String) :
      ¬ NamesNoLetter text → failure.message = "document pack error: " ++ message →
      response.Refuses failure.status message →
      Agree text party caseFile (.failed failure) response

variable {catalog : Catalog} {text caseText path : String} {party : Party} {caseFile : CaseFile}
  {tree : FileTree} {request : Request}

private theorem refuses_dispatchFailure (fault : DispatchFault) :
    (dispatchFailure fault).Refuses fault.status fault.message where
  status_eq := rfl
  failing := fault.failing
  body_eq := rfl

private theorem answer_of_asks
    {σ τ : Type} (asks : request.Asks text caseText party) (nonempty : text ≠ "")
    (accepted : Program.readCase caseText = .ok caseFile) (server : Server σ τ) (state : σ)
    (queue : τ) :
    server.answer request state queue =
      server.resolve text ⟨caseFile, party⟩ state queue := by
  obtain ⟨segment, encodes, target⟩ := asks.target
  have routed := ofPath?_resolveTarget encodes nonempty
  have segmentDecoded := decodeSegment?_of_encodes encodes
  have bodyDecoded :=
    PackRequest.ofBody_of_carries asks.marked asks.admitted accepted asks.carries
  rw [Server.answer, target]
  simp only [routed, asks.posted, if_true]
  rw [Server.dispatch_of_decoded segmentDecoded bodyDecoded, Server.serve_false]

variable {server : Server (List CaseDocument) (List PrintRequest)} {state : List CaseDocument}
  {queue : List PrintRequest}

private theorem agree_of_unnamed (unnamed : NamesNoLetter text) :
    Agree text party caseFile ((Command.resolveLetter text path party).runOn tree).1
      (server.resolve text ⟨caseFile, party⟩ state queue).response := by
  have unknown := Letter.ofText_of_unnamed unnamed
  rw [Server.resolve, Command.resolveLetter, unknown]
  exact .unknown (.catalog (.unknownLetter (Text.trim text))) _ unnamed rfl
    (refuses_dispatchFailure _)

private theorem agree_of_named
    (built : Catalog.standard = .ok catalog) (works : server.service = Service.inMemory catalog)
    (held : tree.read path = .ok caseText) (accepted : Program.readCase caseText = .ok caseFile)
    {letter : Letter} (named : letter.name = Text.trim text) :
    Agree text party caseFile ((Command.resolveLetter text path party).runOn tree).1
      (server.resolve text ⟨caseFile, party⟩ state queue).response := by
  have known := Letter.ofText_of_named named
  obtain ⟨outcome, resolved, sameCase, selects, same⟩ :=
    Service.exists_resolve_inMemory built letter party caseFile
  obtain ⟨_, here⟩ := same []
  obtain ⟨_, there⟩ := same state
  rw [Server.resolve, Command.resolveLetter, known, works]
  simp only [there, here, Program.orFail, Program.withCase, Program.withCatalog, Program.runOn,
    held, accepted, built]
  cases outcome with
  | ok pack =>
      refine .shown letter pack resolved.facts.documents _ named (selects pack rfl) ?_ rfl rfl
      rw [← sameCase]
      rfl
  | error fault =>
      have known : ¬ NamesNoLetter text := fun unnamed => unnamed letter named
      exact .failed (.dispatch fault) _ known rfl (refuses_dispatchFailure fault)

/-- The program and a server in memory agree on every letter, party and accepted case text. -/
theorem agree_of_standard
    (built : Catalog.standard = .ok catalog) (works : server.service = Service.inMemory catalog)
    (nonempty : text ≠ "") (held : tree.read path = .ok caseText)
    (accepted : Program.readCase caseText = .ok caseFile)
    (asks : request.Asks text caseText party) (environment : Environment) (today : Date)
    (state : List CaseDocument) (queue : List PrintRequest) :
    Agree text party caseFile
      (((Command.resolve text path party).program environment today).runOn tree).1
      (server.answer request state queue).response := by
  rw [answer_of_asks asks nonempty accepted, Command.program]
  by_cases named : ∃ letter : Letter, letter.name = Text.trim text
  · obtain ⟨letter, named⟩ := named
    exact agree_of_named built works held accepted named
  · exact agree_of_unnamed (not_exists.1 named)

/-- White space before the name of a letter is escaped, and the case has an unusual spelling.  One
letter is resolved, one is refused for want of an answer, and one is not known. -/
theorem agree_of_escaped_space :
    let caseText := CaseFile.unusualText
    let tree := FileTree.ofFiles [("case.json", caseText)] []
    let server : Server (List CaseDocument) (List PrintRequest) :=
      ⟨Service.inMemory ⟨standardRules⟩, true⟩
    let asked (text : String) := writtenRequest text caseText .applicant1
    let answered (text : String) := (server.answer (asked text) [] []).response
    let texts := [" apply-for-conditional-order", " aos-response-letter", " letter"]
    Catalog.standard = .ok ⟨standardRules⟩ ∧ server.service = Service.inMemory ⟨standardRules⟩ ∧
      tree.read "case.json" = .ok caseText ∧
      Program.readCase caseText = .ok (CaseFile.bare 7) ∧
      (∀ text ∈ texts, text ≠ "" ∧ (asked text).Asks text caseText .applicant1 ∧
        Agree text .applicant1 (CaseFile.bare 7)
          (((Command.resolve text "case.json" .applicant1).program [] ⟨2026, 1, 2, rfl⟩).runOn
            tree).1
          (answered text)) ∧
      (answered " apply-for-conditional-order").status = 200 ∧
      (answered " aos-response-letter").Refuses 422
        "aos-response-letter requires acknowledgement of service on the case" ∧
      (answered " letter").Refuses 404 "no document pack is registered for letter id 'letter'" := by
  intro caseText tree server asked answered texts
  have held : tree.read "case.json" = .ok caseText := by decide +kernel
  have accepted : Program.readCase caseText = .ok (CaseFile.bare 7) :=
    CaseFile.readCase_unusualText
  have asks : ∀ text ∈ texts, text ≠ "" ∧ (asked text).Asks text caseText .applicant1 := by
    simp only [texts, List.forall_mem_cons, List.not_mem_nil, false_implies, implies_true, and_true]
    exact ⟨⟨by decide, asks_writtenRequest (by decide +kernel)⟩,
      ⟨by decide, asks_writtenRequest (by decide +kernel)⟩,
      by decide, asks_writtenRequest (by decide +kernel)⟩
  have resolved : ∀ text ∈ texts,
      answered text = (server.resolve text ⟨CaseFile.bare 7, .applicant1⟩ [] []).response := by
    intro text listed
    obtain ⟨nonempty, asks⟩ := asks text listed
    exact congrArg Answer.response (answer_of_asks asks nonempty accepted server [] [])
  refine ⟨Catalog.standard_eq_ok, rfl, held, accepted, ?_, ?_, ?_, ?_⟩
  · intro text listed
    obtain ⟨nonempty, asks⟩ := asks text listed
    exact ⟨nonempty, asks,
      agree_of_standard Catalog.standard_eq_ok rfl nonempty held accepted asks _ _ _ _⟩
  · rw [resolved _ (by simp [texts])]
    decide +kernel
  · rw [resolved _ (by simp [texts])]
    exact refuses_dispatchFailure (.refused (.missingFact .aosResponseLetter .acknowledgement))
  · rw [resolved _ (by simp [texts])]
    exact refuses_dispatchFailure (.catalog (.unknownLetter "letter"))

end Web

end LetterPacks
