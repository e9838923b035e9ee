import LetterPacks.Text.Blank
import LetterPacks.Vocabulary

/-!
# Parties

A case has two parties, and every letter is sent to one of them.
-/

namespace LetterPacks

inductive Party where
  | applicant1
  | applicant2
deriving DecidableEq, Repr

namespace Party

def vocabulary : Vocabulary Party where
  all := [.applicant1, .applicant2]
  name
    | .applicant1 => "applicant1"
    | .applicant2 => "applicant2"
  complete := by intro value; cases value <;> decide
  distinct := by decide

def name (party : Party) : String :=
  vocabulary.name party

def other : Party → Party
  | .applicant1 => .applicant2
  | .applicant2 => .applicant1

/-- The names under which a person may speak of a party, in small letters. -/
def spokenNames : List (String × Party) := [
  ("applicant1", .applicant1), ("app1", .applicant1), ("1", .applicant1),
  ("applicant2", .applicant2), ("app2", .applicant2), ("respondent", .applicant2),
  ("2", .applicant2)]

/-- The party of a typed name: white space around it and the case of ASCII letters do not count.  An
unknown name is given back as it was compared. -/
def ofTypedText (text : String) : Except String Party :=
  let spoken := Text.asciiLower (Text.trim text)
  match spokenNames.lookup spoken with
  | some party => .ok party
  | none => .error spoken

def unknownMessage (spoken : String) : String :=
  "unknown party '" ++ spoken ++ "' (expected applicant1 or applicant2)"

end Party

end LetterPacks
