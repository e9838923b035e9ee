import LetterPacks.Proofs.Case.Spelling
import LetterPacks.Proofs.Json.Locality
import LetterPacks.Web.Server

/-!
# Bodies of requests

The body of a request holds the text of a case file as the value of a member.  A text that is
accepted as a case file of its own is read as the same case file there
(`PackRequest.ofBody_of_carries`), whatever white space stands around the members and however the
party is spelled.
-/

namespace LetterPacks

namespace Web.PackRequest

open Json

variable {caseText body : String} {party : Party} {caseFile : CaseFile} {entry : Entry}
  {after : List Char}

/-- A body holds the text of a case file and a party as its two members. -/
def Carries (caseText : String) (party : Party) (body : String) : Prop :=
  ∃ caseEntry partyEntry : Entry,
    caseEntry.Names "case" ∧ caseEntry.value = caseText.toList ∧
      partyEntry.Names "party" ∧ SpellsName party.name partyEntry.value ∧
      Bracket.record.Encloses [caseEntry.chars, partyEntry.chars] body.toList

def writtenBody (caseText : String) (party : Party) : String :=
  "\x7b\"case\": " ++ caseText ++ ", \"party\": \"" ++ party.name ++ "\"\x7d"

theorem carries_writtenBody (caseText : String) (party : Party) :
    Carries caseText party (writtenBody caseText party) := by
  refine ⟨writtenEntry [' '] "case" caseText.toList,
    writtenEntry [' '] "party" (quotedChars party.name),
    ⟨spells_flatMap_escapedChar _, isSpaces_nil, isSpaces_blank⟩, rfl,
    ⟨spells_flatMap_escapedChar _, isSpaces_nil, isSpaces_blank⟩,
    .inl (quotes_quotedChars party.name), _,
    .parts isSpaces_nil (.more isSpaces_nil isSpaces_blank (.done isSpaces_nil)), ?_⟩
  cases party <;>
    simp [writtenBody, writtenEntry, Entry.chars, Bracket.enclose, Bracket.opening,
      Bracket.closing, quotedChars, escapedChar, Party.name, Party.vocabulary]

def fields : Fields (CaseFile × Party × Unit) :=
  .required "case" CaseFile.shape <| .required "party" (.choice Party.vocabulary) .nil

def noted (caseFile? : Option CaseFile) (party? : Option Party) : fields.Slots :=
  (caseFile?, party?, ())

private theorem readMember_case
    (accepted : Program.readCase caseText = .ok caseFile) (named : entry.Names "case")
    (same : entry.value = caseText.toList) (delimited : Delimited after) :
    ∃ space, IsSpaces space ∧
      fields.readMember (noted none none) "case"
          (entry.before ++ ':' :: (entry.behind ++ (entry.value ++ after))) =
        .ok (noted (some caseFile) none, space ++ after) := by
  obtain ⟨space, spaces, read⟩ := Shape.read_of_readAll accepted delimited
  refine ⟨space, spaces, ?_⟩
  rw [same]
  simp [fields, noted, Fields.readMember, readColon_append named.2.1,
    CaseFile.shape.read_append_spaces named.2.2, read, bind, Except.bind]

private theorem readMember_party
    (named : entry.Names "party") (spelled : SpellsName party.name entry.value) :
    fields.readMember (noted (some caseFile) none) "party"
        (entry.before ++ ':' :: (entry.behind ++ (entry.value ++ after))) =
      .ok (noted (some caseFile) (some party), after) := by
  have read : (Shape.choice Party.vocabulary).read (entry.behind ++ (entry.value ++ after)) =
      .ok (party, after) := by
    rw [Shape.read_append_spaces _ named.2.2]
    exact readChoice_of_spellsName spelled
  simp [fields, noted, Fields.readMember, readColon_append named.2.1, read, bind, Except.bind]

private theorem read_of_carries
    (accepted : Program.readCase caseText = .ok caseFile) (carries : Carries caseText party body) :
    ∃ rest, shape.read body.toList = .ok (⟨caseFile, party⟩, rest) := by
  obtain ⟨caseEntry, partyEntry, caseNamed, sameText, partyNamed, partySpelled, inner, listed,
    written⟩ := carries
  have following : Following true [caseEntry.chars, partyEntry.chars] inner := listed
  obtain ⟨fuel, enough⟩ : ∃ fuel, (inner ++ ['}']).length + 1 = fuel + 1 + 1 + 1 := by
    have long := following.length_le
    simp only [List.length_cons, List.length_nil, List.length_append] at long ⊢
    exact ⟨inner.length - 1, by omega⟩
  obtain ⟨behindCase, followingCase, readCase⟩ :=
    readMembers_of_entry following caseNamed
      (fun _ delimited => readMember_case accepted caseNamed sameText delimited) (fuel + 1 + 1)
  obtain ⟨behindParty, followingParty, readParty⟩ :=
    readMembers_of_entry followingCase partyNamed
      (fun _ _ => ⟨[], isSpaces_nil, readMember_party partyNamed partySpelled⟩) (fuel + 1)
  have members : readMembers fields.readMember ((inner ++ ['}']).length + 1) true (noted none none)
      (inner ++ ['}']) = .ok (noted (some caseFile) (some party), behindParty ++ ['}']) := by
    rw [enough, readCase, readParty, readMembers_of_spaces followingParty.spaces]
  have closed : fields.close (noted (some caseFile) (some party)) = .ok (caseFile, party, ()) := rfl
  refine ⟨[], ?_⟩
  rw [written, shape]
  change Shape.read (.record _ fields _ _ _) ('{' :: (inner ++ ['}'])) = _
  rw [Shape.read, dropSpace_cons (by decide)]
  change (readMembers fields.readMember _ true (noted none none) _ >>= _) = _
  simp only [members, closed, readClosing_append followingParty.spaces '}' (by decide), bind,
    Except.bind]

theorem ofBody_of_carries
    {caseText : String} {party : Party} {caseFile : CaseFile} {request : Request}
    (marked : namesJson request.contentType = true)
    (admitted : request.body.utf8ByteSize ≤ largestBody)
    (accepted : Program.readCase caseText = .ok caseFile)
    (carries : Carries caseText party request.body) :
    ofBody request = .ok ⟨caseFile, party⟩ := by
  obtain ⟨rest, read⟩ := read_of_carries accepted carries
  rw [ofBody, marked, if_neg (by simp), if_neg (Nat.not_lt.2 admitted)]
  simp only [read]

end Web.PackRequest

end LetterPacks
