import LetterPacks.Proofs.Calendar.Readers
import LetterPacks.Proofs.Case.Spelling
import LetterPacks.Proofs.Json.Replacement

/-!
# Dates in a case file

Two dates stand in a case file: the day of issue, and the day of the respondent's answer.  Each may
be written as any text that is accepted where a date is typed, and the case is read with the date
that was typed.
-/

namespace LetterPacks

open Json

namespace CaseFile

def issuedOn (caseFile : CaseFile) (date : Date) : CaseFile :=
  { caseFile with
    facts := { caseFile.facts with
      application := { caseFile.facts.application with issueDate := some date } } }

/-- The case file with an acknowledgement that was submitted on a day. -/
def answeredOn (caseFile : CaseFile) (acknowledgement : Acknowledgement) (date : Date) : CaseFile :=
  { caseFile with
    facts := { caseFile.facts with
      acknowledgement := some { acknowledgement with dateSubmitted := some date } } }

def issueDatePath : List String :=
  ["data", "application", "issueDate"]

/-- Where the day of the answer stands in a written case file. -/
def dateSubmittedPath : List String :=
  ["data", "acknowledgementOfService", "dateSubmitted"]

def textWith (caseFile : CaseFile) (form : Form) (path : List String) (text : String) : String :=
  form.text (Json.replace (.text text) path (CaseFile.shape.toJson caseFile))

variable {text : String} {date : Date}

private theorem unambiguous_facts : CaseFacts.shape.Unambiguous :=
  unambiguous_shape.2.2.2.1

private theorem takes_optional_date (read : Date.ofCaseText text = .ok date) :
    (Shape.optional .date).Takes (.text text) (some date) :=
  (takes_date read).optional Json.noConfusion

private theorem takes_issueDate
    (read : Date.ofCaseText text = .ok date) (application : Application) :
    Application.shape.Takes
      (Json.replace (.text text) ["issueDate"] (Application.shape.toJson application))
      { application with issueDate := some date } :=
  .replace (.later <| .later .here) (.later <| .later .here)
    (by simp [Shape.Unambiguous, Fields.Unambiguous, Fields.names, Shape.isOptional])
    (takes_optional_date read)

private theorem takes_dateSubmitted
    (read : Date.ofCaseText text = .ok date) (acknowledgement : Acknowledgement) :
    Acknowledgement.shape.Takes
      (Json.replace (.text text) ["dateSubmitted"] (Acknowledgement.shape.toJson acknowledgement))
      { acknowledgement with dateSubmitted := some date } :=
  .replace (.later .here) (.later .here)
    (by simp [Shape.Unambiguous, Fields.Unambiguous, Fields.names, Shape.isOptional])
    (takes_optional_date read)

private theorem readCase_issueDate
    (read : Date.ofCaseText text = .ok date) (caseFile : CaseFile) (form : Form) :
    Program.readCase (caseFile.textWith form issueDatePath text) =
      .ok (caseFile.issuedOn date) := by
  refine Shape.Takes.readAll ?_ form
  refine .replace (.later .here) (.later .here) unambiguous_shape ?_
  exact .replace (.later <| .later <| .later <| .later <| .later .here)
    (.later <| .later <| .later <| .later <| .later .here) unambiguous_facts
    (takes_issueDate read caseFile.facts.application)

private theorem readCase_dateSubmitted
    (read : Date.ofCaseText text = .ok date) {caseFile : CaseFile}
    {acknowledgement : Acknowledgement}
    (found : caseFile.facts.acknowledgement = some acknowledgement) (form : Form) :
    Program.readCase (caseFile.textWith form dateSubmittedPath text) =
      .ok (caseFile.answeredOn acknowledgement date) := by
  rcases caseFile with ⟨id, ⟨_, _, _, _, _, _, _, _, _, _, _⟩⟩
  obtain rfl := found
  refine Shape.Takes.readAll ?_ form
  refine .replace (.later .here) (.later .here) unambiguous_shape ?_
  exact .replace
    (.later <| .later <| .later <| .later <| .later <| .later .here)
    (.later <| .later <| .later <| .later <| .later <| .later .here) unambiguous_facts
    ((takes_dateSubmitted read acknowledgement).optional Json.noConfusion)

end CaseFile

/-- A date is read alike where it is typed and where it stands in a case file. -/
structure Date.ReadAlike (date : Date) : Prop where
  /-- White space around the written date is left out where it is typed. -/
  typed : ∀ before after : String, Text.AllBlank before.toList → Text.AllBlank after.toList →
    ofTypedText (before ++ date.toText ++ after) = .ok date
  /-- A case that is issued on the date is read from all of its spellings. -/
  issued : ∀ (caseFile : CaseFile) (text : String), (caseFile.issuedOn date).Spells text →
    Program.readCase text = .ok (caseFile.issuedOn date)
  answered : ∀ (caseFile : CaseFile) (acknowledgement : Acknowledgement) (text : String),
    (caseFile.answeredOn acknowledgement date).Spells text →
      Program.readCase text = .ok (caseFile.answeredOn acknowledgement date)
  /-- Every text that is read as the date where it is typed is read as the date in a case file,
  however it is spelled there. -/
  filed : ∀ text, ofTypedText text = .ok date → ofCaseText text = .ok date ∧
    ∀ written rest, Quotes text written → readDate (written ++ rest) = .ok (date, rest)
  filedAsIssue : ∀ text, ofTypedText text = .ok date → ∀ (caseFile : CaseFile) (form : Form),
    Program.readCase (caseFile.textWith form CaseFile.issueDatePath text) =
      .ok (caseFile.issuedOn date)
  filedAsAnswer : ∀ text, ofTypedText text = .ok date →
    ∀ (caseFile : CaseFile) (acknowledgement : Acknowledgement) (form : Form),
      caseFile.facts.acknowledgement = some acknowledgement →
        Program.readCase (caseFile.textWith form CaseFile.dateSubmittedPath text) =
          .ok (caseFile.answeredOn acknowledgement date)
  /-- No text is read as the date in one place and as another date in the other. -/
  agree : ∀ text other, ofTypedText text = .ok date → ofCaseText text = .ok other → other = date

theorem Date.readAlike (date : Date) : date.ReadAlike where
  typed := fun _ _ blankBefore blankAfter => date.ofTypedText_padded blankBefore blankAfter
  issued := fun _ _ spells => CaseFile.readAll_of_spells spells
  answered := fun _ _ _ spells => CaseFile.readAll_of_spells spells
  filed := by
    intro text typed
    have read := ofCaseText_of_ofTypedText typed
    exact ⟨read, fun _ _ quotes => readDate_of_ofCaseText quotes read⟩
  filedAsIssue := fun _ typed caseFile form =>
    CaseFile.readCase_issueDate (ofCaseText_of_ofTypedText typed) caseFile form
  filedAsAnswer := fun _ typed _ _ form found =>
    CaseFile.readCase_dateSubmitted (ofCaseText_of_ofTypedText typed) found form
  agree := by
    intro text other typed read
    exact Except.ok.inj (read.symm.trans (ofCaseText_of_ofTypedText typed))

/-- The first day of the calendar has a long negative year, and zeros or white space may stand
before a number.  White space before a hyphen is allowed in a case file only. -/
theorem Date.readAlike_of_first_day :
    let first : Date := ⟨-262143, 1, 1, by decide⟩
    let text := "\u2003" ++ first.toText ++ "\u00A0\u2028"
    let bare := CaseFile.bare 7
    text = "\u2003-262143-01-01\u00A0\u2028" ∧
      first.ReadAlike ∧ ofTypedText text = .ok first ∧
      Program.readCase (bare.textWith .pretty CaseFile.issueDatePath "-0262143- 1-\u30001") =
        .ok (bare.issuedOn first) ∧
      ofTypedText "-262143 -01-01" = .error .invalid ∧
      ofCaseText "-262143 -01-01" = .ok first := by
  intro first text bare
  have typed : ofTypedText "-0262143- 1-\u30001" = .ok first := by decide +kernel
  refine ⟨by decide +kernel, first.readAlike, ?_, ?_, by decide +kernel, by decide +kernel⟩
  · exact first.readAlike.typed "\u2003" "\u00A0\u2028" (by decide +kernel) (by decide +kernel)
  · exact first.readAlike.filedAsIssue _ typed bare .pretty

end LetterPacks
