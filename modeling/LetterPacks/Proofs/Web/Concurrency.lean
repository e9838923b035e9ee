import LetterPacks.Proofs.Number.Digits
import LetterPacks.Proofs.Printing.Assembly
import LetterPacks.Proofs.Web.Pool
import Mathlib.Data.List.Basic

/-!
# Answering requests at the same time

A server with a generator and a printer in memory answers any number of requests at the same time.
Every letter is queued once, under a reference that no other letter gets, and apart from these
references every request is answered as it would be by a fresh server that answers nothing else.
-/

namespace LetterPacks

private theorem not_hyphen_mem_digits (number : Nat) : '-' ∉ Number.digits number := by
  intro member
  have digit := Number.isDigit_of_mem_digits member
  cases digit

private theorem not_hyphen_mem_paddedDigits (width number : Nat) :
    '-' ∉ Number.paddedDigits width number := by
  intro member
  have digit := Number.isDigit_of_mem_paddedDigits member
  cases digit

private theorem Printer.reference_injective
    {left right : UInt64} {place other : Nat}
    (same : Printer.reference left place = Printer.reference right other) :
    left = right ∧ place = other := by
  have characters := congrArg String.toList same
  have hyphen : "-".toList = ['-'] := rfl
  simp only [Printer.reference, Number.decimal, Number.paddedDecimal, String.toList_append,
    String.toList_ofList, hyphen, List.append_assoc, List.singleton_append] at characters
  obtain ⟨sameCase, _, samePlace⟩ := (List.append_cons_inj_of_notMem
    (not_hyphen_mem_digits _) (not_hyphen_mem_paddedDigits 4 place)).1 characters
  refine ⟨UInt64.toNat_inj.1 (Number.digits_injective sameCase), ?_⟩
  have values := congrArg Number.valueOfDigits samePlace
  rwa [Number.valueOfDigits_paddedDigits, Number.valueOfDigits_paddedDigits] at values

namespace Web

private theorem status_dispatchFailure_ne (fault : DispatchFault) :
    (dispatchFailure fault).status ≠ 202 := by
  have failing : 400 ≤ (dispatchFailure fault).status := fault.failing
  omega

/-- The answer to a printed letter.  Nothing but the receipt depends on when it was printed. -/
def printedResponse (letter : PrintRequest) (documents : List CaseDocument) (receipt : Receipt) :
    Response where
  status := 202
  body := some (.record [
    ("letterId", .text letter.letter.name),
    ("caseId", .natural letter.caseId.toNat),
    ("party", .text letter.recipient.name),
    ("receipt", .record [
      ("letterReference", .text receipt.letterReference),
      ("documentCount", .natural receipt.documentCount)]),
    ("documentsGenerated", documentsToJson documents)])

namespace Work

variable {σ τ : Type} {caseFile : CaseFile}

private theorem settle_ensure
    (form : OnDemandDocument) (next : Except GenerationFault CaseFile → Work) :
    ∃ file : CaseFile, file.id = caseFile.id ∧
      (ensure form caseFile next).settle = (next (.ok file)).settle := by
  cases held : caseFile.facts.hasDocument form.documentType with
  | true =>
      refine ⟨caseFile, rfl, ?_⟩
      rw [ensure, if_pos held]
  | false =>
      refine ⟨caseFile.addDocument (Generator.rendered caseFile form
        ("memory://paper-forms/" ++ form.templateFile)), rfl, ?_⟩
      rw [ensure, held]
      rfl

private theorem settle_resolve
    (service : Service σ τ) (letter : Letter) (party : Party) (caseFile : CaseFile)
    (next : Except DispatchFault (Pack × CaseFile) → Work) :
    (∃ fault, (resolve service letter party caseFile next).settle = (next (.error fault)).settle) ∨
      ∃ pack, ∃ file : CaseFile, file.id = caseFile.id ∧
        (resolve service letter party caseFile next).settle = (next (.ok (pack, file))).settle := by
  rcases chosen : service.choose letter party caseFile.facts with fault | ⟨pack, _ | form⟩
  · refine Or.inl ⟨fault, ?_⟩
    rw [resolve, chosen]
  · refine Or.inr ⟨pack, caseFile, rfl, ?_⟩
    rw [resolve, chosen]
  · rw [resolve, chosen]
    obtain ⟨file, sameCase, settled⟩ := settle_ensure form _
    exact Or.inr ⟨pack, file, sameCase, settled⟩

private theorem settle_post
    {letter : Letter} {party : Party} {pack : Pack} {request : PrintRequest}
    (assembled : PrintRequest.ofPack letter pack caseFile party = .ok request)
    (next : Except DispatchFault Receipt → Work) :
    (post letter party pack caseFile next).settle =
      .print request fun answer => next (answer.mapError .printing) := by
  rw [post, assembled]
  rfl

end Work

namespace Server

variable {σ τ : Type}

/-- An order is settled on a response other than that to a printed letter, or on a letter of its
case and the response to that letter. -/
private theorem settle_work (server : Server σ τ) (order : Order) :
    (∃ response, (server.work order).settle = .done response ∧ response.status ≠ 202) ∨
      ∃ letter documents, letter.caseId = order.request.caseFile.id ∧
        (server.work order).Posts letter (printedResponse letter documents) := by
  cases known : Letter.ofText order.text with
  | error fault =>
      refine Or.inl ⟨dispatchFailure (.catalog fault), ?_, status_dispatchFailure_ne _⟩
      rw [work, known]
      rfl
  | ok name =>
      simp only [work, known]
      rcases Work.settle_resolve server.service name order.request.party
          order.request.caseFile _ with ⟨fault, settled⟩ | ⟨pack, file, sameCase, settled⟩
      · exact Or.inl ⟨dispatchFailure fault, settled, status_dispatchFailure_ne _⟩
      · simp only [Work.Posts, settled]
        cases order.prints with
        | false =>
            exact Or.inl ⟨_, rfl, by simp⟩
        | true =>
            simp only [if_true]
            cases assembled : PrintRequest.ofPack name pack file order.request.party with
            | error documentType =>
                refine Or.inl ⟨dispatchFailure (.missingDocument name documentType), ?_,
                  status_dispatchFailure_ne _⟩
                rw [Work.post, assembled]
                rfl
            | ok request =>
                rw [Work.settle_post assembled]
                obtain ⟨_, _, rfl⟩ := PrintRequest.eq_of_ofPack_eq_ok assembled
                exact Or.inr ⟨_, file.facts.documents, sameCase, _, rfl, fun _ => rfl⟩

private theorem settles_works (server : Server σ τ) (orders : List Order) :
    ∀ work ∈ orders.map server.work, work.Settles := by
  intro work member
  obtain ⟨order, _, rfl⟩ := List.mem_map.1 member
  rcases server.settle_work order with ⟨response, settled, _⟩ | ⟨letter, documents, _, posts⟩
  · exact Or.inl ⟨response, settled⟩
  · exact Or.inr ⟨letter, _, posts⟩

end Server

namespace Work

variable {σ τ : Type} {calls : Nat}

private theorem within_ensure
    {form : OnDemandDocument} {caseFile : CaseFile}
    {next : Except GenerationFault CaseFile → Work}
    (within : ∀ answer, (next answer).Within calls) :
    (ensure form caseFile next).Within (calls + 1) := by
  unfold ensure
  split
  · exact (within _).succ
  · exact .generate fun answer => within _

private theorem within_resolve
    {service : Service σ τ} {letter : Letter} {party : Party} {caseFile : CaseFile}
    {next : Except DispatchFault (Pack × CaseFile) → Work}
    (within : ∀ answer, (next answer).Within calls) :
    (resolve service letter party caseFile next).Within (calls + 1) := by
  rcases chosen : service.choose letter party caseFile.facts with fault | ⟨pack, _ | form⟩
  · rw [resolve, chosen]
    exact (within _).succ
  · rw [resolve, chosen]
    exact (within _).succ
  · rw [resolve, chosen]
    refine within_ensure fun answer => ?_
    cases answer with
    | error fault => exact within _
    | ok file => exact within _

private theorem within_post
    {letter : Letter} {party : Party} {pack : Pack} {caseFile : CaseFile}
    {next : Except DispatchFault Receipt → Work}
    (within : ∀ answer, (next answer).Within calls) :
    (post letter party pack caseFile next).Within (calls + 1) := by
  cases assembled : PrintRequest.ofPack letter pack caseFile party with
  | error documentType =>
      rw [post, assembled]
      exact (within _).succ
  | ok request =>
      rw [post, assembled]
      exact .print fun answer => within _

end Work

private theorem Server.within_work {σ τ : Type} (server : Server σ τ) (order : Order) :
    (server.work order).Within 2 := by
  cases known : Letter.ofText order.text with
  | error fault =>
      rw [work, known]
      exact .done
  | ok name =>
      simp only [work, known]
      refine Work.within_resolve fun answer => ?_
      rcases answer with fault | ⟨pack, file⟩
      · exact .done
      · dsimp only
        cases order.prints with
        | false =>
            exact .done
        | true =>
            rw [if_pos rfl]
            refine Work.within_post fun answer => ?_
            cases answer <;> exact .done

private theorem Server.answered_of_turns
    (server : Server (List CaseDocument) (List PrintRequest)) (orders : List Order)
    (turns : List Nat) (place : Nat) (bound : place < orders.length)
    (enough : 2 ≤ turns.count place) :
    ∃ response, ((Pool.start (orders.map server.work)).run Generator.inMemory Printer.inMemory
      turns).works[place]? = some (.done response) := by
  have known : (Pool.start (orders.map server.work)).works[place]? =
      some (server.work orders[place]) := by
    rw [Pool.start, List.getElem?_map, List.getElem?_eq_getElem bound, Option.map_some]
  exact Pool.done_of_within known ((server.within_work _).mono enough)

/-! ## All orders together -/

def Server.inMemory (catalog : Catalog) (ready : Bool) :
    Server (List CaseDocument) (List PrintRequest) :=
  ⟨Service.inMemory catalog, ready⟩

/-- The answer to an order by a fresh server that gets no other one. -/
def Order.alone (server : Server (List CaseDocument) (List PrintRequest)) (order : Order) :
    Answer (List CaseDocument) (List PrintRequest) :=
  server.serve order.prints order.text order.request [] []

/-- What holds of some orders that are worked on at the same time when they have had some turns. -/
structure Pool.Serves (server : Server (List CaseDocument) (List PrintRequest))
    (orders : List Order) (turns : List Nat) (pool : Pool (List CaseDocument) (List PrintRequest)) :
    Prop where
  /-- The queue holds the printed letters in the order in which they were printed. -/
  queue : pool.printer = pool.posted.map Prod.snd
  once : (pool.posted.map Prod.fst).Nodup
  /-- The orders that print a letter are those that are answered so. -/
  accepted : ∀ place : Nat, place ∈ pool.posted.map Prod.fst ↔
    ∃ response, pool.works[place]? = some (.done response) ∧ response.status = 202
  /-- A printed letter is the one that its order prints alone.  It is answered with the number of
  its case and its place in the queue, and as it would be alone but for this place. -/
  numbered : ∀ (number place : Nat) (letter : PrintRequest),
    pool.posted[number]? = some (place, letter) →
      ∃ order documents, orders[place]? = some order ∧
        letter.caseId = order.request.caseFile.id ∧
        (order.alone server).printer = [letter] ∧
        pool.works[place]? = some (.done (printedResponse letter documents
          ⟨Number.decimal letter.caseId.toNat ++ "-" ++ Number.paddedDecimal 4 (number + 1),
            letter.documents.length⟩)) ∧
        (order.alone server).response = printedResponse letter documents
          ⟨Number.decimal letter.caseId.toNat ++ "-" ++ Number.paddedDecimal 4 1,
            letter.documents.length⟩
  distinct : ∀ (number other : Nat) (first second : Nat × PrintRequest),
    pool.posted[number]? = some first → pool.posted[other]? = some second → number ≠ other →
      Printer.reference first.2.caseId (number + 1) ≠ Printer.reference second.2.caseId (other + 1)
  /-- An order that prints no letter is answered as it would be alone. -/
  unprinted : ∀ (place : Nat) (order : Order) (response : Response), orders[place]? = some order →
    pool.works[place]? = some (.done response) → response.status ≠ 202 →
      response = (order.alone server).response
  answered : ∀ place : Nat, place < orders.length → 2 ≤ turns.count place →
    ∃ response, pool.works[place]? = some (.done response)

variable {catalog : Catalog} {ready : Bool} {orders : List Order}
  {pool : Pool (List CaseDocument) (List PrintRequest)}

private theorem alone_eq_run (order : Order) :
    order.alone (Server.inMemory catalog ready) =
      ((Server.inMemory catalog ready).work order).run Generator.inMemory Printer.inMemory [] [] :=
  ((Server.inMemory catalog ready).run_work order [] []).symm

private theorem Work.Posts.unique
    {work : Work} {letter other : PrintRequest} {answer answered : Receipt → Response}
    (posts : work.Posts letter answer) (postsOther : work.Posts other answered) :
    letter = other ∧ answer = answered := by
  obtain ⟨next, settled, answers⟩ := posts
  obtain ⟨nextOther, settledOther, answersOther⟩ := postsOther
  obtain ⟨rfl, rfl⟩ := Work.print.inj (settledOther.symm.trans settled)
  refine ⟨rfl, funext fun receipt => ?_⟩
  exact Work.done.inj ((answers receipt).symm.trans (answersOther receipt))

private theorem Pool.Sound.settle_of_done
    {works : List Work} (sound : pool.Sound works) {place : Nat} {response : Response}
    (done : pool.works[place]? = some (.done response))
    (unposted : place ∉ pool.posted.map Prod.fst) :
    ∃ work, works[place]? = some work ∧ work.settle = .done response := by
  have before := sound.pending place unposted
  rw [done] at before
  exact Option.map_eq_some_iff.1 before.symm

private theorem Pool.Sound.numbered
    (sound : pool.Sound (orders.map (Server.inMemory catalog ready).work)) {number place : Nat}
    {letter : PrintRequest} (posted : pool.posted[number]? = some (place, letter)) :
    ∃ order documents, orders[place]? = some order ∧
      letter.caseId = order.request.caseFile.id ∧
      (order.alone (Server.inMemory catalog ready)).printer = [letter] ∧
      pool.works[place]? = some (.done (printedResponse letter documents
        ⟨Printer.reference letter.caseId (number + 1), letter.documents.length⟩)) ∧
      (order.alone (Server.inMemory catalog ready)).response = printedResponse letter documents
        ⟨Printer.reference letter.caseId 1, letter.documents.length⟩ := by
  obtain ⟨work, answer, known, posts, done⟩ := sound.answered number place letter posted
  rw [List.getElem?_map, Option.map_eq_some_iff] at known
  obtain ⟨order, ordered, rfl⟩ := known
  obtain ⟨later, alone⟩ := Work.run_inMemory_of_posts posts []
  rw [← alone_eq_run] at alone
  rcases (Server.inMemory catalog ready).settle_work order with
    ⟨response, settled, _⟩ | ⟨other, documents, sameCase, postsOther⟩
  · obtain ⟨next, settledPrint, _⟩ := posts
    cases settled.symm.trans settledPrint
  · obtain ⟨rfl, rfl⟩ := posts.unique postsOther
    refine ⟨order, documents, ordered, sameCase, ?_, done, ?_⟩
    · rw [alone]
      rfl
    · rw [alone]
      rfl

/-- An order that has printed no letter is answered as it would be alone, and so not as one that
has. -/
private theorem Pool.Sound.unposted
    (sound : pool.Sound (orders.map (Server.inMemory catalog ready).work)) {place : Nat}
    {response : Response} (done : pool.works[place]? = some (.done response))
    (unposted : place ∉ pool.posted.map Prod.fst) :
    ∃ order, orders[place]? = some order ∧ response.status ≠ 202 ∧
      response = (order.alone (Server.inMemory catalog ready)).response := by
  obtain ⟨work, known, settled⟩ := sound.settle_of_done done unposted
  rw [List.getElem?_map, Option.map_eq_some_iff] at known
  obtain ⟨order, ordered, rfl⟩ := known
  obtain ⟨later, alone⟩ := Work.run_inMemory_of_settle settled []
  rw [← alone_eq_run] at alone
  refine ⟨order, ordered, ?_, ?_⟩
  · rcases (Server.inMemory catalog ready).settle_work order with
      ⟨other, settledOther, refused⟩ | ⟨letter, documents, _, next, settledPrint, _⟩
    · rwa [Work.done.inj (settled.symm.trans settledOther)]
    · cases settled.symm.trans settledPrint
  · rw [alone]

/-- Whatever turns the orders have, each letter is queued once and under a reference of its own, and
every order is answered as it would be alone. -/
theorem serves_run (catalog : Catalog) (ready : Bool) (orders : List Order) (turns : List Nat) :
    Pool.Serves (Server.inMemory catalog ready) orders turns
      ((Pool.start (orders.map (Server.inMemory catalog ready).work)).run
        Generator.inMemory Printer.inMemory turns) := by
  have sound := Pool.sound_run ((Server.inMemory catalog ready).settles_works orders) turns
  have answered := (Server.inMemory catalog ready).answered_of_turns orders turns
  generalize (Pool.start (orders.map (Server.inMemory catalog ready).work)).run
    Generator.inMemory Printer.inMemory turns = pool at sound answered ⊢
  constructor
  · exact sound.queue
  · exact sound.once
  · intro place
    constructor
    · intro posted
      obtain ⟨⟨_, letter⟩, member, rfl⟩ := List.mem_map.1 posted
      obtain ⟨number, found⟩ := List.getElem?_of_mem member
      obtain ⟨order, documents, _, _, _, done, _⟩ := sound.numbered found
      exact ⟨_, done, rfl⟩
    · rintro ⟨response, done, accepted⟩
      by_contra unposted
      obtain ⟨order, _, refused, _⟩ := sound.unposted done unposted
      exact refused accepted
  · intro number place letter posted
    exact sound.numbered posted
  · intro number other first second _ _ different same
    have places := (Printer.reference_injective same).2
    exact different (Nat.succ.inj places)
  · intro place order response ordered done refused
    have unposted : place ∉ pool.posted.map Prod.fst := by
      intro posted
      obtain ⟨⟨_, letter⟩, member, rfl⟩ := List.mem_map.1 posted
      obtain ⟨number, found⟩ := List.getElem?_of_mem member
      obtain ⟨_, _, _, _, _, printed, _⟩ := sound.numbered found
      have same := Work.done.inj (Option.some.inj (done.symm.trans printed))
      exact refused (same ▸ rfl)
    obtain ⟨other, known, _, alone⟩ := sound.unposted done unposted
    rw [Option.some.inj (ordered.symm.trans known)]
    exact alone
  · exact answered

end Web

end LetterPacks
