import LetterPacks.Proofs.Json.SingleValues

/-!
# Reading parts between brackets

The parts of a list or a record that are still to be read either come first behind the opening
bracket or follow another part.  `Following` covers both, so that every reader of parts is followed
through in one induction.
-/

namespace LetterPacks.Json

variable {rest text part : List Char} {parts : List (List Char)} {isFirst : Bool}

def Following (isFirst : Bool) (parts : List (List Char)) (text : List Char) : Prop :=
  if isFirst then Listed parts text else Continued parts text

theorem Following.length_le (following : Following isFirst parts text) :
    parts.length ≤ text.length + 1 := by
  cases isFirst with
  | false =>
      exact Nat.le_succ_of_le (Continued.length_le following)
  | true =>
      cases following with
      | empty =>
          exact Nat.zero_le _
      | parts _ continued =>
          have shorter := continued.length_le
          simp only [List.length_cons, List.length_append]
          omega

theorem Following.spaces (following : Following isFirst [] text) : IsSpaces text := by
  cases isFirst with
  | false =>
      cases following with
      | done spaces => exact spaces
  | true =>
      cases following with
      | empty spaces => exact spaces

theorem nextItem_closing (spaces : IsSpaces text) :
    nextItem isFirst (text ++ ']' :: rest) = .ok none := by
  rw [nextItem, dropSpace_append_cons spaces (by decide)]
  rfl

/-- The next part of a list is found behind the white space and the comma before it. -/
theorem nextItem_of_following
    (following : Following isFirst (part :: parts) text) (starts : StartsPart part)
    (rest : List Char) :
    ∃ after, Continued parts after ∧
      nextItem isFirst (text ++ rest) = .ok (some (part ++ (after ++ rest))) := by
  obtain ⟨first, others, rfl, printed, notClosing, _⟩ := starts
  have comma : isSpace ',' = false := by decide
  cases isFirst with
  | false =>
      cases following with
      | @more space before _ after _ spaces spacesBefore continued =>
          refine ⟨after, continued, ?_⟩
          simp [nextItem, dropSpace_append spaces, dropSpace_append spacesBefore,
            dropSpace_cons printed, dropSpace_cons comma, notClosing]
  | true =>
      cases following with
      | @parts before _ after _ spaces continued =>
          refine ⟨after, continued, ?_⟩
          simp [nextItem, dropSpace_append spaces, dropSpace_cons printed]

private theorem nextName_closing (spaces : IsSpaces text) :
    nextName isFirst (text ++ '}' :: rest) = .ok none := by
  rw [nextName, dropSpace_append_cons spaces (by decide)]
  rfl

theorem nextName_of_following
    {entry : Entry} {name : String} (following : Following isFirst (entry.chars :: parts) text)
    (spelled : Spells name.toList entry.name) (rest : List Char) :
    ∃ after, Continued parts after ∧
      nextName isFirst (text ++ rest) =
        .ok (some (name,
          entry.before ++ ':' :: (entry.behind ++ (entry.value ++ (after ++ rest))))) := by
  have comma : isSpace ',' = false := by decide
  have quote : isSpace '"' = false := by decide
  cases isFirst with
  | false =>
      cases following with
      | @more space before _ after _ spaces spacesBefore continued =>
          refine ⟨after, continued, ?_⟩
          simp [nextName, Entry.chars, dropSpace_append spaces, dropSpace_cons comma,
            readName_of_spells spacesBefore spelled, Except.map]
  | true =>
      cases following with
      | @parts before _ after _ spaces continued =>
          refine ⟨after, continued, ?_⟩
          simp [nextName, Entry.chars, dropSpace_append spaces,
            dropSpace_cons quote, readQuoted_of_spells spelled, Except.map]

theorem readMembers_of_entry
    {σ : Type} {readMember : σ → String → List Char → Except Fault (σ × List Char)}
    {isFirst : Bool} {entry : Entry} {name : String} {slots noted : σ}
    (following : Following isFirst (entry.chars :: parts) text) (named : entry.Names name)
    (reads : ∀ after, Delimited (after ++ '}' :: rest) → ∃ space, IsSpaces space ∧
      readMember slots name
          (entry.before ++ ':' :: (entry.behind ++ (entry.value ++ (after ++ '}' :: rest)))) =
        .ok (noted, space ++ (after ++ '}' :: rest))) (fuel : Nat) :
    ∃ later, Following false parts later ∧
      readMembers readMember (fuel + 1) isFirst slots (text ++ '}' :: rest) =
        readMembers readMember fuel false noted (later ++ '}' :: rest) := by
  obtain ⟨after, continued, next⟩ := nextName_of_following following named.1 ('}' :: rest)
  obtain ⟨space, spaces, read⟩ := reads after (continued.delimited .record rest)
  refine ⟨space ++ after, continued.append_spaces spaces, ?_⟩
  simp only [readMembers, next, read, bind, Except.bind, List.append_assoc]

theorem readMembers_of_spaces
    {σ : Type} {readMember : σ → String → List Char → Except Fault (σ × List Char)}
    {isFirst : Bool} {slots : σ} (spaces : IsSpaces text) (fuel : Nat) :
    readMembers readMember (fuel + 1) isFirst slots (text ++ '}' :: rest) =
      .ok (slots, text ++ '}' :: rest) := by
  simp only [readMembers, nextName_closing spaces, bind, Except.bind]

end LetterPacks.Json
