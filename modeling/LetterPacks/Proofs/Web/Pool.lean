import LetterPacks.Proofs.Web.Work

/-!
# Working on several requests

A pool is some works that are done at the same time.  Whose turn it is does one call and what
follows from it; the calls of different works may come in any order.

With a generator and a printer in memory the forms do not depend on when they are rendered, so the
work on a request is settled from the start: it leads to a response, or to one letter and to a
response that shows the receipt of that letter.  `Sound` holds in every pool that is reached.
-/

namespace LetterPacks.Web

/-- Some works that are done at the same time, the states of the generator and the printer, and the
printed letters with the places of their works, oldest first. -/
structure Pool (σ τ : Type) where
  works : List Work
  generator : σ
  printer : τ
  posted : List (Nat × PrintRequest)

namespace Pool

variable {σ τ : Type}

def step (generator : Generator σ) (printer : Printer τ) (pool : Pool σ τ) (place : Nat) :
    Pool σ τ :=
  match pool.works[place]? with
  | some (.generate caseFile form next) =>
      let (answer, state) := generator.generate pool.generator caseFile form
      { pool with works := pool.works.set place (next answer), generator := state }
  | some (.print request next) =>
      let (answer, queue) := printer.print pool.printer request
      { pool with
        works := pool.works.set place (next answer)
        printer := queue
        posted := pool.posted ++ [(place, request)] }
  | some (.done _) | none => pool

def run (generator : Generator σ) (printer : Printer τ) (pool : Pool σ τ) (turns : List Nat) :
    Pool σ τ :=
  turns.foldl (step generator printer) pool

end Pool

/-- The work is done after a number of calls, whatever they are answered. -/
inductive Work.Within : Nat → Work → Prop
  | done {calls : Nat} {response : Response} : Within calls (.done response)
  | generate {calls : Nat} {caseFile : CaseFile} {form : OnDemandDocument}
      {next : Except GenerationFault CaseDocument → Work} :
      (∀ answer, Within calls (next answer)) → Within (calls + 1) (.generate caseFile form next)
  | print {calls : Nat} {request : PrintRequest} {next : Except PrintFault Receipt → Work} :
      (∀ answer, Within calls (next answer)) → Within (calls + 1) (.print request next)

theorem Work.Within.succ {calls : Nat} {work : Work} (within : work.Within calls) :
    work.Within (calls + 1) := by
  induction within with
  | done => exact .done
  | generate _ ih => exact .generate ih
  | print _ ih => exact .print ih

theorem Work.Within.mono
    {calls more : Nat} {work : Work} (within : work.Within calls) (fewer : calls ≤ more) :
    work.Within more := by
  induction fewer with
  | refl => exact within
  | step _ ih => exact ih.succ

namespace Pool

variable {σ τ : Type} {generator : Generator σ} {printer : Printer τ} {pool : Pool σ τ}

private theorem within_step
    {place calls : Nat} {work : Work} (known : pool.works[place]? = some work)
    (within : work.Within (calls + 1)) :
    ∃ later, (pool.step generator printer place).works[place]? = some later ∧
      later.Within calls := by
  have bound := (List.getElem?_eq_some_iff.1 known).1
  cases within with
  | @done _ response =>
      refine ⟨.done response, ?_, .done⟩
      rw [step, known]
      exact known
  | @generate _ caseFile form next ends =>
      refine ⟨_, ?_, ends (generator.generate pool.generator caseFile form).1⟩
      rw [step, known]
      exact List.getElem?_set_self bound
  | @print _ request next ends =>
      refine ⟨_, ?_, ends (printer.print pool.printer request).1⟩
      rw [step, known]
      exact List.getElem?_set_self bound

private theorem getElem?_step_of_ne {place other : Nat} (different : place ≠ other) :
    (pool.step generator printer place).works[other]? = pool.works[other]? := by
  unfold step
  split
  · exact List.getElem?_set_ne different
  · exact List.getElem?_set_ne different
  · rfl
  · rfl

theorem done_of_within
    {place : Nat} {work : Work} {turns : List Nat} (known : pool.works[place]? = some work)
    (within : work.Within (turns.count place)) :
    ∃ response, (pool.run generator printer turns).works[place]? = some (.done response) := by
  induction turns generalizing pool work with
  | nil =>
      cases within with
      | done => exact ⟨_, known⟩
  | cons turn turns ih =>
      by_cases same : turn = place
      · subst same
        rw [List.count_cons_self] at within
        obtain ⟨later, knownLater, withinLater⟩ := within_step known within
        exact ih knownLater withinLater
      · rw [List.count_cons_of_ne same] at within
        exact ih ((getElem?_step_of_ne same).trans known) within

end Pool

namespace Work

/-- The work that is left when all forms have been rendered in memory. -/
def settle : Work → Work
  | .done response => .done response
  | .generate caseFile form next => (next (Generator.inMemory.generate [] caseFile form).1).settle
  | .print request next => .print request next

/-- The work leads to a letter and then to a response that depends on the receipt. -/
def Posts (work : Work) (letter : PrintRequest) (answer : Receipt → Response) : Prop :=
  ∃ next, work.settle = .print letter next ∧ ∀ receipt, next (.ok receipt) = .done (answer receipt)

/-- The work leads to a response at once or by way of one letter. -/
def Settles (work : Work) : Prop :=
  (∃ response, work.settle = .done response) ∨ ∃ letter answer, work.Posts letter answer

variable {work : Work} {letter : PrintRequest} {answer : Receipt → Response} {response : Response}

private theorem run_inMemory (work : Work) (state : List CaseDocument) (queue : List PrintRequest) :
    ∃ later, work.run Generator.inMemory Printer.inMemory state queue =
      work.settle.run Generator.inMemory Printer.inMemory later queue := by
  induction work generalizing state with
  | done response =>
      exact ⟨state, rfl⟩
  | generate caseFile form next ih =>
      exact ih _ _
  | print request next =>
      exact ⟨state, rfl⟩

theorem run_inMemory_of_settle
    (settled : work.settle = .done response) (queue : List PrintRequest) :
    ∃ later, work.run Generator.inMemory Printer.inMemory [] queue = ⟨response, later, queue⟩ := by
  obtain ⟨later, same⟩ := work.run_inMemory [] queue
  rw [settled] at same
  exact ⟨later, same⟩

theorem run_inMemory_of_posts (posts : work.Posts letter answer) (queue : List PrintRequest) :
    ∃ later, work.run Generator.inMemory Printer.inMemory [] queue =
      ⟨answer ⟨Printer.reference letter.caseId (queue.length + 1), letter.documents.length⟩, later,
        queue ++ [letter]⟩ := by
  obtain ⟨next, settled, answers⟩ := posts
  obtain ⟨later, same⟩ := work.run_inMemory [] queue
  refine ⟨later, ?_⟩
  rw [same, settled]
  simp only [run, Printer.inMemory, answers]

end Work

namespace Pool

variable {works : List Work} {pool : Pool (List CaseDocument) (List PrintRequest)}

/-- A pool that some works may have come to.  No work has posted two letters.  One that has posted
none is still settled as it was, and one that has is done. -/
structure Sound (works : List Work) (pool : Pool (List CaseDocument) (List PrintRequest)) :
    Prop where
  queue : pool.printer = pool.posted.map Prod.snd
  once : (pool.posted.map Prod.fst).Nodup
  pending : ∀ place : Nat, place ∉ pool.posted.map Prod.fst →
    (pool.works[place]?).map Work.settle = (works[place]?).map Work.settle
  answered : ∀ (number place : Nat) (letter : PrintRequest),
    pool.posted[number]? = some (place, letter) →
      ∃ (work : Work) (answer : Receipt → Response),
        works[place]? = some work ∧ work.Posts letter answer ∧
        pool.works[place]? = some (.done (answer
          ⟨Printer.reference letter.caseId (number + 1), letter.documents.length⟩))

def start (works : List Work) : Pool (List CaseDocument) (List PrintRequest) :=
  ⟨works, [], [], []⟩

private theorem sound_start (works : List Work) : (start works).Sound works where
  queue := rfl
  once := List.nodup_nil
  pending _ _ := rfl
  answered _ _ _ none := by cases none

private theorem Sound.done_of_posted
    (sound : pool.Sound works) {place : Nat} (posted : place ∈ pool.posted.map Prod.fst) :
    ∃ response, pool.works[place]? = some (.done response) := by
  obtain ⟨⟨_, letter⟩, member, rfl⟩ := List.mem_map.1 posted
  obtain ⟨number, found⟩ := List.getElem?_of_mem member
  obtain ⟨work, answer, _, _, done⟩ := sound.answered number _ letter found
  exact ⟨_, done⟩

private theorem Sound.not_posted
    (sound : pool.Sound works) {place : Nat} {work : Work}
    (turn : pool.works[place]? = some work) (undone : ∀ response, work ≠ .done response) :
    place ∉ pool.posted.map Prod.fst := by
  intro posted
  obtain ⟨response, done⟩ := sound.done_of_posted posted
  exact undone response (Option.some.inj (turn.symm.trans done))

private theorem Sound.generate
    (sound : pool.Sound works) {place : Nat} {caseFile : CaseFile} {form : OnDemandDocument}
    {next : Except GenerationFault CaseDocument → Work}
    (turn : pool.works[place]? = some (.generate caseFile form next)) :
    (pool.step Generator.inMemory Printer.inMemory place).Sound works := by
  have notPosted := sound.not_posted turn nofun
  have bound := (List.getElem?_eq_some_iff.1 turn).1
  rw [step, turn]
  constructor
  · exact sound.queue
  · exact sound.once
  · intro other unposted
    have before := sound.pending other unposted
    by_cases same : place = other
    · subst same
      rw [turn] at before
      rw [List.getElem?_set_self bound, ← before]
      rfl
    · rw [List.getElem?_set_ne same]
      exact before
  · intro number other letter found
    obtain ⟨work, answer, known, posts, done⟩ := sound.answered number other letter found
    have different : place ≠ other := by
      rintro rfl
      exact notPosted (List.mem_map_of_mem (List.mem_of_getElem? found))
    refine ⟨work, answer, known, posts, ?_⟩
    rw [List.getElem?_set_ne different]
    exact done

private theorem Sound.posts_of_turn
    (sound : pool.Sound works) (settles : ∀ work ∈ works, work.Settles) {place : Nat}
    {request : PrintRequest} {next : Except PrintFault Receipt → Work}
    (turn : pool.works[place]? = some (.print request next)) :
    ∃ (work : Work) (answer : Receipt → Response), works[place]? = some work ∧
      work.Posts request answer ∧ ∀ receipt, next (.ok receipt) = .done (answer receipt) := by
  have before := sound.pending place (sound.not_posted turn nofun)
  rw [turn] at before
  obtain ⟨work, known, settled⟩ := Option.map_eq_some_iff.1 before.symm
  have member := List.mem_of_getElem? known
  rcases settles work member with ⟨response, done⟩ | ⟨letter, answer, other, posts, answers⟩
  · cases settled.symm.trans done
  · obtain ⟨rfl, rfl⟩ := Work.print.inj (posts.symm.trans settled)
    exact ⟨work, answer, known, ⟨other, posts, answers⟩, answers⟩

private theorem Sound.print
    (sound : pool.Sound works) (settles : ∀ work ∈ works, work.Settles) {place : Nat}
    {request : PrintRequest} {next : Except PrintFault Receipt → Work}
    (turn : pool.works[place]? = some (.print request next)) :
    (pool.step Generator.inMemory Printer.inMemory place).Sound works := by
  have notPosted := sound.not_posted turn nofun
  have bound := (List.getElem?_eq_some_iff.1 turn).1
  have count : pool.printer.length = pool.posted.length := by
    rw [sound.queue, List.length_map]
  obtain ⟨work, answer, known, posts, answers⟩ := sound.posts_of_turn settles turn
  rw [step, turn]
  constructor
  · simp [Printer.inMemory, sound.queue]
  · have fresh : List.Disjoint (pool.posted.map Prod.fst) [place] :=
      List.disjoint_singleton.2 notPosted
    simpa using sound.once.append (List.nodup_singleton place) fresh
  · intro other unposted
    rw [List.map_append, List.mem_append, not_or] at unposted
    have different : place ≠ other := fun same => unposted.2 (List.mem_singleton.2 same.symm)
    rw [List.getElem?_set_ne different]
    exact sound.pending other unposted.1
  · intro number other letter found
    by_cases earlier : number < pool.posted.length
    · rw [List.getElem?_append_left earlier] at found
      obtain ⟨before, answered, knownBefore, postsBefore, done⟩ :=
        sound.answered number other letter found
      have different : place ≠ other := by
        rintro rfl
        exact notPosted (List.mem_map_of_mem (List.mem_of_getElem? found))
      refine ⟨before, answered, knownBefore, postsBefore, ?_⟩
      rw [List.getElem?_set_ne different]
      exact done
    · rw [List.getElem?_append_right (Nat.le_of_not_lt earlier)] at found
      obtain ⟨last, same⟩ := List.getElem?_eq_some_iff.1 found
      have number_eq : number = pool.posted.length := by
        rw [List.length_singleton] at last
        omega
      subst number_eq
      rw [List.getElem_singleton] at same
      obtain ⟨rfl, rfl⟩ := Prod.mk.inj same
      refine ⟨work, answer, known, posts, ?_⟩
      rw [List.getElem?_set_self bound]
      simp only [Printer.inMemory, answers, count]

private theorem Sound.step
    (sound : pool.Sound works) (settles : ∀ work ∈ works, work.Settles) (place : Nat) :
    (pool.step Generator.inMemory Printer.inMemory place).Sound works := by
  rcases turn : pool.works[place]? with _ | response | ⟨caseFile, form, next⟩ | ⟨request, next⟩
  · rw [Pool.step, turn]
    exact sound
  · rw [Pool.step, turn]
    exact sound
  · exact sound.generate turn
  · exact sound.print settles turn

theorem sound_run
    (settles : ∀ work ∈ works, work.Settles) (turns : List Nat) :
    ((start works).run Generator.inMemory Printer.inMemory turns).Sound works := by
  -- The pool changes from turn to turn, so the induction is made for every sound pool.
  suffices kept : ∀ pool : Pool (List CaseDocument) (List PrintRequest), pool.Sound works →
      (pool.run Generator.inMemory Printer.inMemory turns).Sound works from
    kept _ (sound_start works)
  induction turns with
  | nil =>
      exact fun _ sound => sound
  | cons place turns ih =>
      exact fun pool sound => ih _ (sound.step settles place)

end Pool

end LetterPacks.Web
