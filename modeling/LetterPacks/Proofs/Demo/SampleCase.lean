import LetterPacks.Proofs.Calendar.DayNumbers
import LetterPacks.Proofs.Demo.Lifecycle

/-!
# The sample case

The issue date of the sample case may be named on the command line.  The respondent of the case
answers fourteen days later, so the demonstration finishes for every date that has as many days of
the calendar behind it, and breaks off in the last fourteen days of the calendar.
-/

namespace LetterPacks

namespace CommandLine

section
variable {kinds : List (String × OptionKind)} {found : Options} {argument name value : String}
  {kind : OptionKind}

private theorem asksHelp_of_joined (names : longOption? argument = some (name, some value)) :
    asksHelp argument = false := by
  have other : argument ≠ "--help" := by
    rintro rfl
    cases names.symm.trans (by decide +kernel : longOption? "--help" = some ("help", none))
  have long : startsShort 'h' argument = false := by
    unfold longOption? at names
    split at names
    · next rest written =>
        rw [startsShort, written]
        rfl
    · cases names
  rw [asksHelp, decide_eq_false other, long]
  rfl

private theorem readOptions_of_joined
    (names : longOption? argument = some (name, some value))
    (known : kinds.lookup name = some kind) (first : found.lookup name = none)
    (accepted : kind.accepts value = true) (rest : List String) :
    readOptions kinds found (argument :: rest) =
      readOptions kinds (found ++ [(name, value)]) rest := by
  have goesOn : argument ≠ "--" := by
    rintro rfl
    cases names.symm.trans (by decide +kernel : longOption? "--" = some ("", none))
  simp only [readOptions, if_neg goesOn, asksHelp_of_joined names, names, known, first,
    Option.isSome_none, Bool.false_eq_true, if_false, accepted, if_true]

private theorem readOptions_of_apart
    (goesOn : argument ≠ "--") (unasked : asksHelp argument = false)
    (names : longOption? argument = some (name, none))
    (known : kinds.lookup name = some kind) (first : found.lookup name = none)
    (plain : looksLikeOption value = false) (accepted : kind.accepts value = true)
    (rest : List String) :
    readOptions kinds found (argument :: value :: rest) =
      readOptions kinds (found ++ [(name, value)]) rest := by
  cases kind with
  | flag => cases accepted
  | _ => simp [readOptions, goesOn, unasked, names, known, first, plain, accepted]

private theorem readOptions_of_flag
    (goesOn : argument ≠ "--") (unasked : asksHelp argument = false)
    (names : longOption? argument = some (name, none))
    (known : kinds.lookup name = some .flag) (first : found.lookup name = none)
    (rest : List String) :
    readOptions kinds found (argument :: rest) =
      readOptions kinds (found ++ [(name, "")]) rest := by
  simp [readOptions, goesOn, unasked, names, known, first]

end

/-- The two ways to name an issue date.  A text that looks like an option is not taken apart from
its name. -/
inductive NamesIssueDate (text : String) : List String → Prop
  | joined : NamesIssueDate text ["--issue-date=" ++ text]
  | apart : looksLikeOption text = false → NamesIssueDate text ["--issue-date", text]

def demoKinds : List (String × OptionKind) :=
  [("case", .path), ("issue-date", .date), ("skip-print", .flag)]

variable {text : String} {date : Date} {named : List String}

private theorem accepts_date (typed : Date.ofTypedText text = .ok date) :
    OptionKind.accepts .date text = true := by
  rw [OptionKind.accepts, dateOf?, typed]
  rfl

private theorem longOption?_joined (text : String) :
    longOption? ("--issue-date=" ++ text) = some ("issue-date", some text) := by
  simp [longOption?]

private theorem readOptions_issueDate
    (typed : Date.ofTypedText text = .ok date) (names : NamesIssueDate text named)
    (others : List String) :
    readOptions demoKinds [] (named ++ others) =
      readOptions demoKinds [("issue-date", text)] others := by
  have accepted := accepts_date typed
  have known : demoKinds.lookup "issue-date" = some .date := by decide
  cases names with
  | joined =>
      exact readOptions_of_joined (longOption?_joined text) known rfl accepted others
  | apart plain =>
      exact readOptions_of_apart (by decide) (by decide +kernel) (by decide +kernel) known rfl
        plain accepted others

def skipArguments (skipPrint : Bool) : List String :=
  if skipPrint then ["--skip-print"] else []

private theorem readOptions_skipArguments (text : String) (skipPrint : Bool) :
    readOptions demoKinds [("issue-date", text)] (skipArguments skipPrint) =
      .ok (("issue-date", text) :: if skipPrint then [("skip-print", "")] else []) := by
  cases skipPrint with
  | false =>
      rfl
  | true =>
      exact readOptions_of_flag (by decide) (by decide +kernel) (by decide +kernel) (by decide)
        rfl []

private theorem readCommand_issueDate
    (typed : Date.ofTypedText text = .ok date) (names : NamesIssueDate text named)
    (skipPrint : Bool) :
    readCommand ("demo" :: (named ++ skipArguments skipPrint)) =
      .ok (.demo none (some date) skipPrint) := by
  have dated : dateOf? text = some date := by
    rw [dateOf?, typed]
    rfl
  have options := readOptions_issueDate typed names (skipArguments skipPrint)
  rw [readOptions_skipArguments] at options
  change (readOptions demoKinds [] _ >>= _) = _
  rw [options]
  cases skipPrint <;> simp [bind, Except.bind, dated]

private theorem program_issueDate
    (environment : Environment) (today : Date) (typed : Date.ofTypedText text = .ok date)
    (names : NamesIssueDate text named) (skipPrint : Bool) :
    program environment today ("demo" :: (named ++ skipArguments skipPrint)) =
      Command.demonstrate none date (!skipPrint) := by
  rw [program, readCommand_issueDate typed names skipPrint]
  rfl

end CommandLine

namespace Demo

private theorem sampleCase?_eq_none_iff {date : Date} :
    sampleCase? date = none ↔ date.addDays? daysToAnswer = none :=
  Option.map_eq_none_iff

private theorem exists_sampleCase
    {date answered : Date} (reached : date.addDays? daysToAnswer = some answered) :
    ∃ caseFile, sampleCase? date = some caseFile ∧
      caseFile.facts.application.issueDate = some date ∧
      caseFile.facts.acknowledgement = some ⟨.withoutDispute, some answered⟩ := by
  rw [sampleCase?, reached]
  exact ⟨_, rfl, rfl, rfl⟩

private theorem demonstrate_of_sampleCase?_eq
    {date : Date} {answer : Option CaseFile} (sample : sampleCase? date = answer) (prints : Bool) :
    Command.demonstrate none date prints =
      answer.elim (.finish (.aborted .beyondCalendar)) (Command.showDemo prints) := by
  -- Unfolding by an equation would try to compute the case of an unknown date.
  delta Command.demonstrate
  rw [sample]
  cases answer <;> rfl

/-- What the application does when some arguments ask for the sample case of a date. -/
structure ShowsSampleCase
    (environment : Environment) (today : Date) (tree : FileTree) (arguments : List String)
    (date : Date) (prints : Bool) : Prop where
  /-- Up to the 17th of December of the last year the walk of the case is shown. -/
  finishes : (date.year = lastYear → date.month = 12 → date.day ≤ 17) →
    ∃ caseFile answered catalog walked shown, sampleCase? date = some caseFile ∧
      caseFile.facts.application.issueDate = some date ∧
      caseFile.facts.acknowledgement = some ⟨.withoutDispute, some answered⟩ ∧
      answered.dayNumber = date.dayNumber + 14 ∧
      Catalog.standard = .ok catalog ∧
      walk catalog prints (.start caseFile) lifecycle = .ok walked ∧
      transcript catalog prints caseFile = .ok shown ∧ Recounts caseFile prints walked shown ∧
      (CommandLine.program environment today arguments).runOn tree = (.finished shown, tree)
  /-- Later on there is no case, since its answer would lie beyond the calendar. -/
  breaksOff : date.year = lastYear → date.month = 12 → 17 < date.day →
    sampleCase? date = none ∧
      (CommandLine.program environment today arguments).runOn tree =
        (.aborted .beyondCalendar, tree)

theorem showsSampleCase_of_issueDate
    (environment : Environment) (today : Date) (tree : FileTree) {text : String} {date : Date}
    {named : List String} (typed : Date.ofTypedText text = .ok date)
    (names : CommandLine.NamesIssueDate text named) (skipPrint : Bool) :
    ShowsSampleCase environment today tree
      ("demo" :: (named ++ CommandLine.skipArguments skipPrint)) date (!skipPrint) := by
  have asked := CommandLine.program_issueDate environment today typed names skipPrint
  constructor
  · intro early
    have within : date.dayNumber + daysToAnswer ≤ Date.last.dayNumber := by
      rw [Date.dayNumber_add_le_last_iff (by decide)]
      intro lastOne december
      have day := early lastOne december
      rw [daysToAnswer]
      omega
    obtain ⟨answered, reached⟩ := Date.exists_addDays? within
    obtain ⟨caseFile, sample, issued, acknowledged⟩ := exists_sampleCase reached
    have built := Catalog.standard_eq_ok
    obtain ⟨_, walks, _⟩ := walk_start_eq_ok built caseFile (!skipPrint) lifecycle
    obtain ⟨shown, told, recounts, finished⟩ := runOn_showDemo built walks tree
    refine ⟨caseFile, answered, _, _, shown, sample, issued, acknowledged,
      Date.addDays?_eq_some_iff.1 reached, built, walks, told, recounts, ?_⟩
    rw [asked, demonstrate_of_sampleCase?_eq sample]
    exact finished
  · intro lastOne december late
    have beyond : ¬ date.dayNumber + daysToAnswer ≤ Date.last.dayNumber := by
      rw [Date.dayNumber_add_le_last_iff (by decide)]
      intro early
      have day := early lastOne december
      rw [daysToAnswer] at day
      omega
    have unanswered := sampleCase?_eq_none_iff.2
      (Date.addDays?_eq_none_iff.2 (Int.not_le.1 beyond))
    refine ⟨unanswered, ?_⟩
    rw [asked, demonstrate_of_sampleCase?_eq unanswered]
    rfl

theorem showsSampleCase_of_first_of_may :
    let issued : Date := ⟨2024, 5, 1, by decide⟩
    Date.ofTypedText " 2024-5-1" = .ok issued ∧
      CommandLine.NamesIssueDate " 2024-5-1" ["--issue-date", " 2024-5-1"] ∧
      ShowsSampleCase [] issued (FileTree.ofFiles [] [])
        ["demo", "--issue-date", " 2024-5-1", "--skip-print"] issued false := by
  intro issued
  have typed : Date.ofTypedText " 2024-5-1" = .ok issued := by decide +kernel
  have names : CommandLine.NamesIssueDate " 2024-5-1" ["--issue-date", " 2024-5-1"] :=
    .apart (by decide +kernel)
  exact ⟨typed, names, showsSampleCase_of_issueDate [] issued (FileTree.ofFiles [] []) typed
    names true⟩

/-- The last day of the calendar is accepted, and the application breaks off on it. -/
theorem demo_breaks_off_on_last_day :
    let tree := FileTree.ofFiles [] []
    Date.ofTypedText "+262142-12-31" = .ok Date.last ∧ sampleCase? Date.last = none ∧
      (CommandLine.program [] Date.last ["demo", "--issue-date", "+262142-12-31"]).runOn tree =
        (.aborted .beyondCalendar, tree) := by
  intro tree
  have typed : Date.ofTypedText "+262142-12-31" = .ok Date.last := by decide +kernel
  have names : CommandLine.NamesIssueDate "+262142-12-31" ["--issue-date", "+262142-12-31"] :=
    .apart (by decide +kernel)
  have asked := CommandLine.program_issueDate [] Date.last typed names false
  have unanswered : sampleCase? Date.last = none := rfl
  refine ⟨typed, unanswered, ?_⟩
  rw [demonstrate_of_sampleCase?_eq unanswered] at asked
  exact congrArg (Program.runOn · tree) asked

end Demo

end LetterPacks
