import LetterPacks.Proofs.Calendar.WrittenDate
import LetterPacks.Proofs.Json.Spelling

/-!
# Reading single values

Numbers, texts, truth values, dates and names of a vocabulary are read from every spelling that they
have.  A number is read as far as its digits go, so nothing may follow with which it could go on.
-/

namespace LetterPacks.Json

variable {rest : List Char}

private theorem le_continueValue (value : Nat) (run : List Char) :
    value ≤ Number.continueValue value run := by
  induction run generalizing value with
  | nil =>
      exact Nat.le_refl value
  | cons digit run ih =>
      rw [Number.continueValue_cons]
      exact Nat.le_trans (by omega) (ih _)

private theorem extend_append
    {bound value : Nat} {run : List Char} (digits : IsDigits run)
    (fits : Number.continueValue value run ≤ bound)
    (stops : ∀ next ∈ rest.head?, next.isDigit = false) :
    extend bound value (run ++ rest) = (Number.continueValue value run, run.length, rest) := by
  induction run generalizing value with
  | nil =>
      cases rest with
      | nil =>
          rfl
      | cons next rest =>
          simp [extend, stops next rfl]
  | cons digit run ih =>
      rw [IsDigits, List.forall_mem_cons] at digits
      rw [Number.continueValue_cons] at fits
      have grown := Nat.le_trans (le_continueValue _ run) fits
      simp [extend, digits.1, grown, ih digits.2 fits]

theorem goesOn_of_delimited (delimited : Delimited rest) : goesOn rest = false := by
  cases rest with
  | nil =>
      rfl
  | cons next rest =>
      obtain ⟨_, notPoint, notMark, notCapital⟩ := not_numeral_of_endsValue (delimited next rfl)
      unfold goesOn
      split
      · next same => exact absurd (List.cons.inj same).1 notPoint
      · next same => exact absurd (List.cons.inj same).1 notMark
      · next same => exact absurd (List.cons.inj same).1 notCapital
      · rfl

private theorem readWhole_of_delimited (significand : Nat) (delimited : Delimited rest) :
    readWhole false significand rest = .ok (.integer significand, rest) := by
  rw [readWhole, goesOn_of_delimited delimited]
  rfl

private theorem readNumeral_digits {number : Nat} (fits : number ≤ largestNatural)
    (delimited : Delimited rest) :
    readNumeral false (Number.digits number ++ rest) = .ok (.integer number, rest) := by
  have stops := delimited.not_digit
  have digits : IsDigits (Number.digits number) := fun _ => Number.isDigit_of_mem_digits
  have value := Number.valueOfDigits_digits number
  obtain ⟨first, run, written⟩ := List.exists_cons_of_ne_nil (Number.digits_ne_nil number)
  rw [written] at digits value ⊢
  by_cases zero : first = '0'
  · subst zero
    obtain ⟨rfl, rfl⟩ := Number.eq_zero_of_digits_eq_cons written
    simp only [List.cons_append, List.nil_append, readNumeral,
      Number.leadingDigits_of_not_digit stops, List.isEmpty_nil, if_true]
    exact readWhole_of_delimited 0 delimited
  · rw [IsDigits, List.forall_mem_cons] at digits
    rw [Number.valueOfDigits, Number.continueValue_cons, Nat.zero_mul, Nat.zero_add] at value
    have extended := extend_append digits.2 (value.symm ▸ fits) stops
    rw [value] at extended
    rw [List.cons_append, readNumeral]
    · simp only [digits.1, if_true, extended, Number.leadingDigits_of_not_digit stops,
        List.isEmpty_nil]
      exact readWhole_of_delimited number delimited
    · exact fun same => zero same

theorem readNatural_digits (value : UInt64) (delimited : Delimited rest) :
    readNatural (Number.digits value.toNat ++ rest) = .ok (value, rest) := by
  have fits : value.toNat ≤ largestNatural := Nat.le_of_lt_succ value.toNat_lt
  have read := readNumeral_digits fits delimited
  have digits : IsDigits (Number.digits value.toNat) := fun _ => Number.isDigit_of_mem_digits
  obtain ⟨first, run, written⟩ := List.exists_cons_of_ne_nil (Number.digits_ne_nil value.toNat)
  rw [written] at digits read ⊢
  have isDigit : first.isDigit = true := digits first List.mem_cons_self
  have signed : readSigned (first :: run ++ rest) = .ok (.integer value.toNat, rest) := by
    unfold readSigned
    split
    · next same =>
        obtain ⟨rfl, _⟩ := List.cons.inj same
        cases isDigit
    · exact read
  rw [readNatural, List.cons_append, dropSpace_cons (not_space_of_isDigit isDigit).1]
  rw [List.cons_append] at signed
  simp [startsNumeral, isDigit, signed]

theorem readWord_append (letters : List Char) : readWord letters (letters ++ rest) = .ok rest := by
  induction letters with
  | nil =>
      rfl
  | cons letter letters ih =>
      rw [List.cons_append, readWord, if_pos rfl]
      exact ih

theorem readFlag_append (value : Bool) :
    readFlag ((if value then "true" else "false").toList ++ rest) = .ok (value, rest) := by
  cases value with
  | true =>
      change (readWord ['r', 'u', 'e'] (['r', 'u', 'e'] ++ rest)).map _ = _
      rw [readWord_append]
      rfl
  | false =>
      change (readWord ['a', 'l', 's', 'e'] (['a', 'l', 's', 'e'] ++ rest)).map _ = _
      rw [readWord_append]
      rfl

private theorem readNothing_append {space : List Char} (spaces : IsSpaces space) :
    readNothing (space ++ (['n', 'u', 'l', 'l'] ++ rest)) = .ok rest := by
  rw [readNothing, List.cons_append, dropSpace_append_cons spaces (by decide)]
  exact readWord_append ['u', 'l', 'l']

theorem readTextAs_of_quotes
    {text : String} {written : List Char} (quotes : Quotes text written) (wanted : Wanted) :
    readTextAs wanted (written ++ rest) = .ok (text, rest) := by
  obtain ⟨body, spelled, rfl⟩ := quotes
  rw [readTextAs, List.cons_append, dropSpace_cons (by decide), List.append_assoc]
  exact readQuoted_of_spells spelled

theorem readDate_of_ofCaseText
    {text : String} {date : Date} {written : List Char} (quotes : Quotes text written)
    (read : Date.ofCaseText text = .ok date) : readDate (written ++ rest) = .ok (date, rest) := by
  rw [readDate, readTextAs_of_quotes quotes]
  simp only [read]

theorem readDate_of_quotes
    {date : Date} {written : List Char} (quotes : Quotes date.toText written) :
    readDate (written ++ rest) = .ok (date, rest) :=
  readDate_of_ofCaseText quotes date.ofCaseText_toText

theorem readColon_append {space : List Char} (spaces : IsSpaces space) :
    readColon (space ++ ':' :: rest) = .ok rest := by
  rw [readColon, dropSpace_append_cons spaces (by decide)]
  rfl

theorem readClosing_append
    {space : List Char} (spaces : IsSpaces space) (closing : Char)
    (printed : isSpace closing = false) :
    readClosing closing (space ++ closing :: rest) = .ok rest := by
  rw [readClosing, dropSpace_append_cons spaces printed]
  exact if_pos rfl

theorem readName_of_spells
    {space body : List Char} {name : String} (spaces : IsSpaces space)
    (spelled : Spells name.toList body) :
    readName (space ++ '"' :: (body ++ '"' :: rest)) = .ok (name, rest) := by
  rw [readName, dropSpace_append_cons spaces (by decide)]
  exact readQuoted_of_spells spelled

private theorem chosen_name {α : Type} (vocabulary : Vocabulary α) (value : α) :
    chosen vocabulary (vocabulary.name value) = .ok value := by
  rw [chosen, vocabulary.find?_name]

theorem readChoice_of_spellsName
    {α : Type} {vocabulary : Vocabulary α} {value : α} {written : List Char}
    (spelled : SpellsName (vocabulary.name value) written) :
    readChoice vocabulary (written ++ rest) = .ok (value, rest) := by
  rcases spelled with ⟨body, spelled, rfl⟩ | ⟨entry, ⟨spelled, spaced⟩, isNull, inner, listed, rfl⟩
  · rw [readChoice, List.cons_append, dropSpace_cons (by decide), List.append_assoc]
    simp only [List.cons_append, List.nil_append, readQuoted_of_spells spelled, bind, Except.bind,
      chosen_name]
  · cases listed with
    | @parts before _ space _ spaces continued =>
        cases continued with
        | done spacesBehind =>
            have shown : Bracket.record.enclose (before ++ (entry.chars ++ space)) ++ rest =
                '{' :: (before ++ '"' :: (entry.name ++ '"' :: (entry.before ++ ':' ::
                  (entry.behind ++ (['n', 'u', 'l', 'l'] ++ (space ++ '}' :: rest)))))) := by
              simp [Bracket.enclose, Bracket.opening, Bracket.closing, Entry.chars, isNull]
            rw [shown, readChoice, dropSpace_cons (by decide)]
            simp only [readName_of_spells spaces spelled, bind, Except.bind, chosen_name,
              readColon_append spaced.1, readNothing_append spaced.2]
            rw [readClosing_append spacesBehind '}' (by decide)]

end LetterPacks.Json
