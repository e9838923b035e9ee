import LetterPacks.Proofs.Json.SingleValues
import LetterPacks.Proofs.Json.Skipping
import LetterPacks.Proofs.Number.Digits

/-!
# Reading is local

A value that is read from a text is read in the same way when the text goes on, provided that
nothing follows with which a number could go on.  So a text that holds one value can be put between
others.  The statement is made for one tail throughout: every reader that is called on the way
leaves the same tail behind.
-/

namespace LetterPacks.Json

variable {α β : Type} {source rest tail : List Char} {first : Char}

/-- A reader that succeeds on a text succeeds on the text and a tail, and leaves the tail. -/
def IsLocal (tail : List Char) (read : List Char → Except Fault (α × List Char)) : Prop :=
  ∀ ⦃source value rest⦄, read source = .ok (value, rest) →
    read (source ++ tail) = .ok (value, rest ++ tail)

theorem exists_of_bind_eq_ok
    {first : Except Fault α} {next : α → Except Fault β} {value : β}
    (read : (first >>= next) = .ok value) :
    ∃ found, first = .ok found ∧ next found = .ok value := by
  cases first with
  | error fault => cases read
  | ok found => exact ⟨found, rfl, read⟩

private theorem exists_of_map_eq_ok
    {first : Except Fault α} {give : α → β} {value : β}
    (read : first.map give = .ok value) :
    ∃ found, first = .ok found ∧ give found = value := by
  cases first with
  | error fault => cases read
  | ok found => exact ⟨found, rfl, Except.ok.inj read⟩

private theorem dropSpace_append_of_cons
    (shown : dropSpace source = first :: rest) (tail : List Char) :
    dropSpace (source ++ tail) = first :: (rest ++ tail) := by
  unfold dropSpace at shown ⊢
  rw [List.dropWhile_append, shown]
  rfl

private theorem refuse_ne_ok (wanted : Wanted) (source : List Char) (value : α) :
    refuse wanted source ≠ .ok value := by
  unfold refuse
  cases readFound source <;> simp

private theorem readWord_local
    {letters : List Char} (read : readWord letters source = .ok rest) (tail : List Char) :
    readWord letters (source ++ tail) = .ok (rest ++ tail) := by
  induction letters generalizing source with
  | nil =>
      obtain rfl := Except.ok.inj read
      rfl
  | cons letter letters ih =>
      cases source with
      | nil =>
          cases read
      | cons character source =>
          rw [readWord] at read
          by_cases same : character = letter
          · rw [if_pos same] at read
            rw [List.cons_append, readWord, if_pos same]
            exact ih read
          · rw [if_neg same] at read
            cases read

private theorem readWordAs_local (letters : List Char) (meant : α) (tail : List Char) :
    IsLocal tail fun source => (readWord letters source).map fun rest => (meant, rest) := by
  intro source value rest read
  obtain ⟨after, word, same⟩ := exists_of_map_eq_ok read
  obtain ⟨rfl, rfl⟩ := Prod.mk.inj same
  simp only [readWord_local word tail, Except.map]

private theorem readQuotedFrom_local
    {state : QuotedState} {before : List Char} {text : String}
    (read : readQuotedFrom state before source = .ok (text, rest)) (tail : List Char) :
    readQuotedFrom state before (source ++ tail) = .ok (text, rest ++ tail) := by
  induction source generalizing state before with
  | nil =>
      cases read
  | cons character source ih =>
      rw [readQuotedFrom] at read
      rw [List.cons_append, readQuotedFrom]
      cases stepped : state.step character with
      | next later =>
          rw [stepped] at read
          exact ih read
      | emit meant =>
          rw [stepped] at read
          exact ih read
      | close =>
          rw [stepped] at read
          obtain ⟨rfl, rfl⟩ := Prod.mk.inj (Except.ok.inj read)
          rfl
      | refuse =>
          rw [stepped] at read
          cases read

private theorem readQuoted_local (tail : List Char) : IsLocal tail readQuoted :=
  fun _ _ _ read => readQuotedFrom_local read tail

private theorem readTextAs_local (wanted : Wanted) (tail : List Char) :
    IsLocal tail (readTextAs wanted) := by
  intro source text rest read
  unfold readTextAs at read ⊢
  split at read
  · next shown =>
      rw [dropSpace_append_of_cons shown]
      exact readQuoted_local tail read
  · exact absurd read (refuse_ne_ok _ _ _)

private theorem readFlag_local (tail : List Char) : IsLocal tail readFlag := by
  intro source flag rest read
  unfold readFlag at read ⊢
  split at read
  · next shown =>
      rw [dropSpace_append_of_cons shown]
      exact readWordAs_local _ true tail read
  · next shown =>
      rw [dropSpace_append_of_cons shown]
      exact readWordAs_local _ false tail read
  · exact absurd read (refuse_ne_ok _ _ _)

private theorem readDate_local (tail : List Char) : IsLocal tail readDate := by
  intro source date rest read
  unfold readDate at read ⊢
  cases written : readTextAs .date source with
  | error fault =>
      rw [written] at read
      cases read
  | ok result =>
      obtain ⟨text, after⟩ := result
      rw [written] at read
      rw [readTextAs_local .date tail written]
      dsimp only at read ⊢
      cases dated : Date.ofCaseText text with
      | error fault =>
          rw [dated] at read
          cases read
      | ok found =>
          rw [dated] at read
          obtain ⟨rfl, rfl⟩ := Prod.mk.inj (Except.ok.inj read)
          rfl

private theorem readNothing_local (read : readNothing source = .ok rest) (tail : List Char) :
    readNothing (source ++ tail) = .ok (rest ++ tail) := by
  unfold readNothing at read ⊢
  split at read
  · next shown =>
      rw [dropSpace_append_of_cons shown]
      exact readWord_local read tail
  · exact absurd read (refuse_ne_ok _ _ _)

private theorem readColon_local (read : readColon source = .ok rest) (tail : List Char) :
    readColon (source ++ tail) = .ok (rest ++ tail) := by
  unfold readColon at read ⊢
  split at read
  · cases read
  · next shown =>
      obtain rfl := Except.ok.inj read
      rw [dropSpace_append_of_cons shown]
      rfl
  · cases read

private theorem readName_local (tail : List Char) : IsLocal tail readName := by
  intro source name rest read
  unfold readName at read ⊢
  split at read
  · cases read
  · next shown =>
      rw [dropSpace_append_of_cons shown]
      exact readQuoted_local tail read
  · cases read

private theorem readClosing_local
    {bracket : Char} (read : readClosing bracket source = .ok rest) (tail : List Char) :
    readClosing bracket (source ++ tail) = .ok (rest ++ tail) := by
  unfold readClosing at read ⊢
  split at read
  · cases read
  · next first after shown =>
      rw [dropSpace_append_of_cons shown]
      by_cases same : first = bracket
      · rw [if_pos same] at read
        obtain rfl := Except.ok.inj read
        exact if_pos same
      · rw [if_neg same] at read
        cases read

private theorem readChoice_local (vocabulary : Vocabulary α) (tail : List Char) :
    IsLocal tail (readChoice vocabulary) := by
  intro source value rest read
  unfold readChoice at read ⊢
  split at read
  · cases read
  · next shown =>
      obtain ⟨⟨name, after⟩, named, read⟩ := exists_of_bind_eq_ok read
      obtain ⟨found, known, read⟩ := exists_of_bind_eq_ok read
      obtain ⟨rfl, rfl⟩ := Prod.mk.inj (Except.ok.inj read)
      rw [dropSpace_append_of_cons shown]
      simp only [readQuoted_local tail named, known, bind, Except.bind]
  · next shown =>
      obtain ⟨⟨name, after⟩, named, read⟩ := exists_of_bind_eq_ok read
      obtain ⟨found, known, read⟩ := exists_of_bind_eq_ok read
      obtain ⟨afterColon, colon, read⟩ := exists_of_bind_eq_ok read
      obtain ⟨afterNothing, nothing, read⟩ := exists_of_bind_eq_ok read
      obtain ⟨afterClosing, closing, read⟩ := exists_of_bind_eq_ok read
      obtain ⟨rfl, rfl⟩ := Prod.mk.inj (Except.ok.inj read)
      rw [dropSpace_append_of_cons shown]
      simp only [readName_local tail named, known, readColon_local colon tail,
        readNothing_local nothing tail, readClosing_local closing tail, bind, Except.bind]
  · cases read

/-! ## Numbers -/

private theorem extend_local
    (bound value : Nat) (source : List Char) (stops : ∀ next ∈ tail.head?, next.isDigit = false) :
    extend bound value (source ++ tail) =
      ((extend bound value source).1, (extend bound value source).2.1,
        (extend bound value source).2.2 ++ tail) := by
  induction source generalizing value with
  | nil =>
      cases tail with
      | nil =>
          rfl
      | cons next tail =>
          simp [extend, stops next rfl]
  | cons digit source ih =>
      rw [List.cons_append, extend, extend]
      by_cases taken :
          (digit.isDigit && value * 10 + Number.digitValue digit ≤ bound) = true
      · simp only [taken, if_true, ih]
      · simp only [taken]
        rfl

private theorem goesOn_local (source : List Char) (delimited : Delimited tail) :
    goesOn (source ++ tail) = goesOn source := by
  cases source with
  | nil =>
      exact goesOn_of_delimited delimited
  | cons first source =>
      unfold goesOn
      split <;> simp_all

section

variable {negative : Bool} {significand : Nat} {power value : Int}

private theorem floating_ne_integer :
    floating negative significand power source ≠ .ok (.integer value, rest) := by
  unfold floating
  split <;> simp

private theorem readExponent_ne_integer :
    readExponent negative significand power source ≠ .ok (.integer value, rest) := by
  unfold readExponent
  dsimp only
  split
  · simp
  · split
    · split
      · exact floating_ne_integer
      · split
        · simp
        · exact floating_ne_integer
    · simp

private theorem readPower_ne_integer :
    readPower negative significand power source ≠ .ok (.integer value, rest) := by
  unfold readPower
  split
  · exact readExponent_ne_integer
  · exact readExponent_ne_integer
  · exact floating_ne_integer

private theorem readScaled_ne_integer :
    readScaled negative significand power source ≠ .ok (.integer value, rest) := by
  unfold readScaled readFraction
  split
  · split
    · simp
    · dsimp only
      split
      · exact readPower_ne_integer
      · simp
  · exact readPower_ne_integer

private theorem whole_local
    (read : whole negative significand source = .ok (.integer value, rest)) (tail : List Char) :
    whole negative significand (source ++ tail) = .ok (.integer value, rest ++ tail) := by
  unfold whole at read ⊢
  split at read
  · next sign =>
      rw [if_pos sign]
      split at read
      · exact absurd read floating_ne_integer
      · next fits =>
          rw [if_neg fits]
          obtain ⟨same, rfl⟩ := Prod.mk.inj (Except.ok.inj read)
          rw [same]
  · next sign =>
      rw [if_neg sign]
      obtain ⟨same, rfl⟩ := Prod.mk.inj (Except.ok.inj read)
      rw [same]

private theorem readWhole_local
    (read : readWhole negative significand source = .ok (.integer value, rest))
    (delimited : Delimited tail) :
    readWhole negative significand (source ++ tail) = .ok (.integer value, rest ++ tail) := by
  unfold readWhole at read ⊢
  rw [goesOn_local source delimited]
  split at read
  · exact absurd read readScaled_ne_integer
  · next stops =>
      rw [if_neg stops]
      exact whole_local read tail

private theorem readNumeral_local
    (read : readNumeral negative source = .ok (.integer value, rest))
    (delimited : Delimited tail) :
    readNumeral negative (source ++ tail) = .ok (.integer value, rest ++ tail) := by
  have stops := delimited.not_digit
  cases source with
  | nil =>
      cases read
  | cons first after =>
      rw [List.cons_append]
      by_cases zero : first = '0'
      · subst zero
        simp only [readNumeral] at read ⊢
        rw [Number.leadingDigits_local after stops]
        split at read
        · next alone =>
            rw [if_pos alone]
            exact readWhole_local read delimited
        · cases read
      · rw [readNumeral] at read ⊢
        · by_cases digit : first.isDigit = true
          · simp only [if_pos digit, extend_local _ _ _ stops, Number.leadingDigits_local _ stops]
              at read ⊢
            split at read
            · next alone =>
                rw [if_pos alone]
                exact readWhole_local read delimited
            · exact absurd read readScaled_ne_integer
          · rw [if_neg digit] at read
            cases read
        · exact fun same => zero same
        · exact fun same => zero same

private theorem readSigned_local
    (read : readSigned source = .ok (.integer value, rest)) (delimited : Delimited tail) :
    readSigned (source ++ tail) = .ok (.integer value, rest ++ tail) := by
  cases source with
  | nil =>
      cases read
  | cons first after =>
      rw [List.cons_append]
      by_cases minus : first = '-'
      · subst minus
        exact readNumeral_local read delimited
      · rw [readSigned] at read ⊢
        · exact readNumeral_local read delimited
        · exact fun _ same => minus (List.cons.inj same).1
        · exact fun _ same => minus (List.cons.inj same).1

end

private theorem readNatural_local (delimited : Delimited tail) : IsLocal tail readNatural := by
  intro source value rest read
  unfold readNatural at read ⊢
  split at read
  · cases read
  · next first after shown =>
      rw [dropSpace_append_of_cons shown]
      by_cases starts : startsNumeral first = true
      · simp only [if_pos starts] at read ⊢
        split at read
        · cases read
        · next signed =>
            rw [← List.cons_append, readSigned_local signed delimited]
            split at read
            · next large =>
                obtain ⟨rfl, rfl⟩ := Prod.mk.inj (Except.ok.inj read)
                exact if_pos large
            · cases read
        · cases read
      · rw [if_neg starts] at read
        exact absurd read (refuse_ne_ok _ _ _)

private theorem skipFrom_local
    {state : SkipState} {brackets : List Bracket} (delimited : Delimited tail)
    (skipped : skipFrom state brackets source = .ok rest) :
    skipFrom state brackets (source ++ tail) = .ok (rest ++ tail) := by
  induction source generalizing state brackets with
  | nil =>
      cases state with
      | number place =>
          simp only [skipFrom, SkipState.finish] at skipped
          split at skipped
          · cases skipped
          · next complete =>
              split at skipped
              · next outside =>
                  obtain rfl := Except.ok.inj skipped
                  rw [List.isEmpty_iff.1 outside]
                  exact skipFrom_number_of_delimited (by simpa using complete) delimited
              · cases skipped
      | _ =>
          cases skipped
  | cons character source ih =>
      rw [List.cons_append]
      rw [skipFrom] at skipped ⊢
      cases stepped : state.step brackets character with
      | next later after =>
          rw [stepped] at skipped
          exact ih skipped
      | last =>
          rw [stepped] at skipped
          obtain rfl := Except.ok.inj skipped
          rfl
      | past =>
          rw [stepped] at skipped
          obtain rfl := Except.ok.inj skipped
          rfl
      | refuse =>
          rw [stepped] at skipped
          cases skipped

private theorem nextItem_local
    {isFirst : Bool} {item : Option (List Char)} (next : nextItem isFirst source = .ok item)
    (tail : List Char) :
    nextItem isFirst (source ++ tail) = .ok (item.map (· ++ tail)) := by
  unfold nextItem at next
  split at next
  · cases next
  · next shown =>
      obtain rfl := Except.ok.inj next
      rw [nextItem, dropSpace_append_of_cons shown]
      rfl
  · next first after notClosing shown =>
      split at next
      · next isFirst =>
          obtain rfl := Except.ok.inj next
          simp [nextItem, dropSpace_append_of_cons shown, isFirst]
      · next later =>
          split at next
          · next comma =>
              subst comma
              cases behind : dropSpace after with
              | nil =>
                  rw [behind] at next
                  cases next
              | cons start others =>
                  rw [behind] at next
                  split at next
                  · cases next
                  · cases next
                  · next notClosed _ =>
                      obtain rfl := Except.ok.inj next
                      simp_all [nextItem, dropSpace_append_of_cons shown,
                        dropSpace_append_of_cons behind]
          · cases next

private theorem nextName_local
    {isFirst : Bool} {member : Option (String × List Char)}
    (next : nextName isFirst source = .ok member) (tail : List Char) :
    nextName isFirst (source ++ tail) =
      .ok (member.map fun found => (found.1, found.2 ++ tail)) := by
  unfold nextName at next
  split at next
  · cases next
  · next shown =>
      obtain rfl := Except.ok.inj next
      rw [nextName, dropSpace_append_of_cons shown]
      rfl
  · next first after notClosing shown =>
      split at next
      · next isFirst =>
          split at next
          · next quote =>
              obtain ⟨found, read, rfl⟩ := exists_of_map_eq_ok next
              simp [nextName, dropSpace_append_of_cons shown, isFirst, quote,
                readQuoted_local tail read, Except.map]
          · cases next
      · next later =>
          split at next
          · next comma =>
              obtain ⟨found, read, rfl⟩ := exists_of_map_eq_ok next
              simp [nextName, dropSpace_append_of_cons shown, later, comma,
                readName_local tail read, Except.map]
          · cases next

private theorem readItems_local
    {readItem : List Char → Except Fault (α × List Char)} (item : IsLocal tail readItem)
    {fuel more : Nat} (enough : fuel ≤ more) {isFirst : Bool} {before items : List α}
    (read : readItems readItem fuel isFirst before source = .ok (items, rest)) :
    readItems readItem more isFirst before (source ++ tail) = .ok (items, rest ++ tail) := by
  induction fuel generalizing more isFirst before source with
  | zero =>
      cases read
  | succ fuel ih =>
      obtain ⟨more, rfl⟩ := Nat.exists_eq_add_one_of_ne_zero (Nat.ne_zero_of_lt enough)
      rw [readItems] at read ⊢
      obtain ⟨found, next, read⟩ := exists_of_bind_eq_ok read
      cases found with
      | none =>
          obtain ⟨rfl, rfl⟩ := Prod.mk.inj (Except.ok.inj read)
          simp only [nextItem_local next tail, Option.map, bind, Except.bind]
      | some start =>
          obtain ⟨⟨value, after⟩, readItem, read⟩ := exists_of_bind_eq_ok read
          simp only [nextItem_local next tail, Option.map, item readItem, bind, Except.bind]
          exact ih (Nat.le_of_succ_le_succ enough) read

private theorem readMembers_local
    {σ : Type} {readMember : σ → String → List Char → Except Fault (σ × List Char)}
    (member : ∀ slots name, IsLocal tail (readMember slots name))
    {fuel more : Nat} (enough : fuel ≤ more) {isFirst : Bool} {before slots : σ}
    (read : readMembers readMember fuel isFirst before source = .ok (slots, rest)) :
    readMembers readMember more isFirst before (source ++ tail) = .ok (slots, rest ++ tail) := by
  induction fuel generalizing more isFirst before source with
  | zero =>
      cases read
  | succ fuel ih =>
      obtain ⟨more, rfl⟩ := Nat.exists_eq_add_one_of_ne_zero (Nat.ne_zero_of_lt enough)
      rw [readMembers] at read ⊢
      obtain ⟨found, next, read⟩ := exists_of_bind_eq_ok read
      cases found with
      | none =>
          obtain ⟨rfl, rfl⟩ := Prod.mk.inj (Except.ok.inj read)
          simp only [nextName_local next tail, Option.map, bind, Except.bind]
      | some named =>
          obtain ⟨⟨grown, after⟩, readMember, read⟩ := exists_of_bind_eq_ok read
          simp only [nextName_local next tail, Option.map, member _ _ readMember, bind,
            Except.bind]
          exact ih (Nat.le_of_succ_le_succ enough) read

/-! ## All shapes -/

theorem Shape.read_nil {α : Type} : (shape : Shape α) → shape.read [] = .error .ended
  | .natural | .text | .flag | .date | .choice _ | .list _ | .record _ _ _ _ _ => by
      rw [Shape.read]
      rfl
  | .optional shape => by
      rw [Shape.read]
      exact congrArg (Except.map _) shape.read_nil

mutual

theorem Shape.read_local {α : Type} (delimited : Delimited tail) :
    (shape : Shape α) → IsLocal tail shape.read
  | .natural => readNatural_local delimited
  | .text => readTextAs_local .text tail
  | .flag => readFlag_local tail
  | .date => readDate_local tail
  | .choice vocabulary => readChoice_local vocabulary tail
  | .optional shape => by
      intro source value rest read
      unfold Shape.read at read ⊢
      split at read
      · next shown =>
          rw [dropSpace_append_of_cons shown]
          exact readWordAs_local _ none tail read
      · next notNull =>
          obtain ⟨⟨found, after⟩, inner, same⟩ := exists_of_map_eq_ok read
          obtain ⟨rfl, rfl⟩ := Prod.mk.inj same
          cases shown : dropSpace source with
          | nil =>
              rw [shown, shape.read_nil] at inner
              cases inner
          | cons first others =>
              rw [shown] at inner notNull
              rw [dropSpace_append_of_cons shown]
              split
              · next same =>
                  exact absurd (List.cons.inj same).1 fun null => notNull others (null ▸ rfl)
              · rw [← List.cons_append, shape.read_local delimited inner]
                rfl
  | .list item => by
      intro source value rest read
      unfold Shape.read at read ⊢
      split at read
      · next inside shown =>
          obtain ⟨⟨items, after⟩, inner, read⟩ := exists_of_bind_eq_ok read
          obtain ⟨closed, closing, read⟩ := exists_of_bind_eq_ok read
          obtain ⟨rfl, rfl⟩ := Prod.mk.inj (Except.ok.inj read)
          have enough : inside.length + 1 ≤ (inside ++ tail).length + 1 := by simp
          rw [dropSpace_append_of_cons shown]
          simp only [readItems_local (item.read_local delimited) enough inner,
            readClosing_local closing tail, bind, Except.bind]
      · exact absurd read (refuse_ne_ok _ _ _)
  | .record name fields pack unpack pack_unpack => by
      intro source value rest read
      unfold Shape.read at read ⊢
      split at read
      · next inside shown =>
          obtain ⟨⟨slots, after⟩, inner, read⟩ := exists_of_bind_eq_ok read
          obtain ⟨values, complete, read⟩ := exists_of_bind_eq_ok read
          obtain ⟨closed, closing, read⟩ := exists_of_bind_eq_ok read
          obtain ⟨rfl, rfl⟩ := Prod.mk.inj (Except.ok.inj read)
          have enough : inside.length + 1 ≤ (inside ++ tail).length + 1 := by simp
          rw [dropSpace_append_of_cons shown]
          simp only [readMembers_local (fields.readMember_local delimited) enough inner,
            complete, readClosing_local closing tail, bind, Except.bind]
      · next shown =>
          obtain ⟨⟨values, after⟩, inner, read⟩ := exists_of_bind_eq_ok read
          obtain ⟨closed, closing, read⟩ := exists_of_bind_eq_ok read
          obtain ⟨rfl, rfl⟩ := Prod.mk.inj (Except.ok.inj read)
          rw [dropSpace_append_of_cons shown]
          simp only [fields.readInOrder_local delimited name fields.count 0 true inner,
            readClosing_local closing tail, bind, Except.bind]
      · exact absurd read (refuse_ne_ok _ _ _)

theorem Fields.readMember_local {β : Type} (delimited : Delimited tail) :
    (fields : Fields β) → (slots : fields.Slots) → (name : String) →
      IsLocal tail (fields.readMember slots name)
  | .nil, slots, name => by
      intro source found rest read
      unfold Fields.readMember at read ⊢
      obtain ⟨after, colon, read⟩ := exists_of_bind_eq_ok read
      obtain ⟨behind, skipped, read⟩ := exists_of_bind_eq_ok read
      obtain ⟨rfl, rfl⟩ := Prod.mk.inj (Except.ok.inj read)
      simp only [readColon_local colon tail, skipValue, skipFrom_local delimited skipped, bind,
        Except.bind]
  | .cons known _ shape others, slots, name => by
      intro source found rest read
      unfold Fields.readMember at read ⊢
      split at read
      · next same =>
          rw [if_pos same]
          split at read
          · cases read
          · next unread =>
              rw [if_neg unread]
              obtain ⟨after, colon, read⟩ := exists_of_bind_eq_ok read
              obtain ⟨⟨value, behind⟩, inner, read⟩ := exists_of_bind_eq_ok read
              obtain ⟨rfl, rfl⟩ := Prod.mk.inj (Except.ok.inj read)
              simp only [readColon_local colon tail, shape.read_local delimited inner, bind,
                Except.bind]
      · next other =>
          rw [if_neg other]
          obtain ⟨⟨slots, after⟩, inner, read⟩ := exists_of_bind_eq_ok read
          obtain ⟨rfl, rfl⟩ := Prod.mk.inj (Except.ok.inj read)
          simp only [others.readMember_local delimited _ name inner, bind, Except.bind]

theorem Fields.readInOrder_local {β : Type} (delimited : Delimited tail) :
    (fields : Fields β) → (owner : String) → (wanted index : Nat) → (isFirst : Bool) →
      IsLocal tail (fields.readInOrder owner wanted index isFirst)
  | .nil, _, _, _, _ => by
      intro source values rest read
      obtain ⟨rfl, rfl⟩ := Prod.mk.inj (Except.ok.inj read)
      rfl
  | .cons _ absent shape others, owner, wanted, index, isFirst => by
      intro source values rest read
      unfold Fields.readInOrder at read ⊢
      obtain ⟨found, next, read⟩ := exists_of_bind_eq_ok read
      cases found with
      | some start =>
          obtain ⟨⟨value, after⟩, inner, read⟩ := exists_of_bind_eq_ok read
          obtain ⟨⟨values, behind⟩, later, read⟩ := exists_of_bind_eq_ok read
          obtain ⟨rfl, rfl⟩ := Prod.mk.inj (Except.ok.inj read)
          simp only [nextItem_local next tail, Option.map, shape.read_local delimited inner,
            others.readInOrder_local delimited owner wanted (index + 1) false later, bind,
            Except.bind]
      | none =>
          cases absent with
          | some value =>
              obtain ⟨⟨values, behind⟩, later, read⟩ := exists_of_bind_eq_ok read
              obtain ⟨rfl, rfl⟩ := Prod.mk.inj (Except.ok.inj read)
              simp only [nextItem_local next tail, Option.map,
                others.readInOrder_local delimited owner wanted (index + 1) isFirst later, bind,
                Except.bind]
          | none =>
              cases read

end

theorem Shape.read_of_readAll
    {shape : Shape α} {value : α} (read : shape.readAll source = .ok value)
    (delimited : Delimited tail) :
    ∃ space, IsSpaces space ∧ shape.read (source ++ tail) = .ok (value, space ++ tail) := by
  unfold Shape.readAll at read
  split at read
  · cases read
  · next found space alone =>
      split at read
      · next ended =>
          obtain rfl := Except.ok.inj read
          exact ⟨space, isSpaces_of_dropSpace_eq_nil (List.isEmpty_iff.1 ended),
            shape.read_local delimited alone⟩
      · cases read

end LetterPacks.Json
