import LetterPacks.Proofs.Json.Grammar

/-!
# Passing over values

Every JSON value is passed over, whatever follows it as long as no number can go on with it
(`skipValue_of_isValue`).  Inside brackets the machine then stands behind the value, and so the
statement is made for every stack of open brackets.
-/

namespace LetterPacks.Json

/-- What passing over comes to when a value inside some brackets has just ended. -/
def skipBehind : List Bracket → List Char → Except Fault (List Char)
  | [], rest => .ok rest
  | bracket :: brackets, rest => skipFrom .behind (bracket :: brackets) rest

variable {state next : SkipState} {brackets after : List Bracket} {character : Char}
  {rest : List Char}

private theorem skipFrom_of_next (stepped : state.step brackets character = .next next after) :
    skipFrom state brackets (character :: rest) = skipFrom next after rest := by
  rw [skipFrom, stepped]

private theorem skipFrom_of_afterValue
    (stepped : state.step brackets character = afterValue after) :
    skipFrom state brackets (character :: rest) = skipBehind after rest := by
  rw [skipFrom, stepped]
  cases after <;> rfl

private theorem skipFrom_of_spaces
    {space : List Char} (spaces : IsSpaces space)
    (stays : ∀ character, isSpace character = true →
      state.step brackets character = .next state brackets) :
    skipFrom state brackets (space ++ rest) = skipFrom state brackets rest := by
  induction space with
  | nil =>
      rfl
  | cons character space ih =>
      have stay := stays character (spaces character List.mem_cons_self)
      rw [List.cons_append, skipFrom_of_next stay]
      exact ih fun other member => spaces other (List.mem_cons_of_mem _ member)

private theorem step_value_of_isSpace (space : isSpace character = true) :
    SkipState.step .value brackets character = .next .value brackets :=
  if_pos space

private theorem step_name_of_isSpace (space : isSpace character = true) :
    SkipState.step .name brackets character = .next .name brackets :=
  if_pos space

private theorem step_colon_of_isSpace (space : isSpace character = true) :
    SkipState.step .colon brackets character = .next .colon brackets :=
  if_pos space

private theorem step_behind_of_isSpace (space : isSpace character = true) :
    SkipState.step .behind brackets character = .next .behind brackets :=
  if_pos space

private theorem step_opened_of_isSpace {bracket : Bracket} (space : isSpace character = true) :
    SkipState.step (.opened bracket) brackets character = .next (.opened bracket) brackets :=
  if_pos space

private theorem skipFrom_word {letter : Char} {letters : List Char} :
    skipFrom (.word (letter :: letters)) brackets (letter :: letters ++ rest) =
      skipBehind brackets rest := by
  induction letters generalizing letter with
  | nil =>
      exact skipFrom_of_afterValue (by simp [SkipState.step])
  | cons other letters ih =>
      have stepped : SkipState.step (.word (letter :: other :: letters)) brackets letter =
          .next (.word (other :: letters)) brackets := by
        simp [SkipState.step]
      rw [List.cons_append, skipFrom_of_next stepped]
      exact ih

/-- What passing over comes to behind the closing quote of a text. -/
def skipBehindText (isName : Bool) (brackets : List Bracket) (rest : List Char) :
    Except Fault (List Char) :=
  if isName then skipFrom .colon brackets rest else skipBehind brackets rest

theorem utf8Size_of_hexValue?
    {digit : Char} {value : Nat} (read : Number.hexValue? digit = some value) :
    digit.utf8Size = 1 := by
  have small : digit.toNat ≤ 0x7f := by
    unfold Number.hexValue? at read
    simp only [show '0'.toNat = 48 from rfl, show '9'.toNat = 57 from rfl,
      show 'a'.toNat = 97 from rfl, show 'f'.toNat = 102 from rfl,
      show 'A'.toNat = 65 from rfl, show 'F'.toNat = 70 from rfl] at read
    split at read
    · omega
    · split at read
      · omega
      · split at read
        · omega
        · cases read
  have ascii : digit.val ≤ 0x7f := small
  exact if_pos ascii

private theorem skipFrom_unit
    {isName : Bool} {value : Nat} {digits : List Char} (unit : IsUnit value digits) :
    skipFrom (.text isName (.unit 0 true)) brackets (digits ++ rest) =
      skipFrom (.text isName .plain) brackets rest := by
  cases unit with
  | digits first second third fourth =>
      simp [skipFrom, SkipState.step, textStep, first, second, third, fourth,
        utf8Size_of_hexValue? first, utf8Size_of_hexValue? second, utf8Size_of_hexValue? third,
        utf8Size_of_hexValue? fourth]

private theorem skipFrom_text
    {isName : Bool} {body : List Char} (quoted : IsQuoted body) :
    skipFrom (.text isName .plain) brackets (body ++ '"' :: rest) =
      skipBehindText isName brackets rest := by
  induction quoted with
  | empty =>
      cases isName with
      | true =>
          exact skipFrom_of_next (by simp [SkipState.step, textStep])
      | false =>
          exact skipFrom_of_afterValue (by simp [SkipState.step, textStep])
  | @plain character body notQuote notBackslash printed _ ih =>
      have stepped : SkipState.step (.text isName .plain) brackets character =
          .next (.text isName .plain) brackets := by
        simp [SkipState.step, textStep, notQuote, notBackslash, Nat.not_lt.2 printed]
      rw [List.cons_append, skipFrom_of_next stepped]
      exact ih
  | @escape letter body means _ ih =>
      have notUnit : letter ≠ 'u' := by
        rintro rfl
        rw [escaped?_u] at means
        cases means
      have escapes : SkipState.step (.text isName .plain) brackets '\\' =
          .next (.text isName .escape) brackets := by
        simp [SkipState.step, textStep]
      have stepped : SkipState.step (.text isName .escape) brackets letter =
          .next (.text isName .plain) brackets := by
        simp [SkipState.step, textStep, notUnit, means]
      rw [List.cons_append, List.cons_append, skipFrom_of_next escapes, skipFrom_of_next stepped]
      exact ih
  | @unit value digits body unit _ ih =>
      have escapes : SkipState.step (.text isName .plain) brackets '\\' =
          .next (.text isName .escape) brackets := by
        simp [SkipState.step, textStep]
      have opens : SkipState.step (.text isName .escape) brackets 'u' =
          .next (.text isName (.unit 0 true)) brackets := by
        simp [SkipState.step, textStep]
      rw [List.cons_append, List.cons_append, List.append_assoc, skipFrom_of_next escapes,
        skipFrom_of_next opens, skipFrom_unit unit]
      exact ih

/-! ## Numbers -/

private theorem skipFrom_number_of_next?
    {place later : NumberPlace} (goesOn : place.next? character = some later) :
    skipFrom (.number place) brackets (character :: rest) =
      skipFrom (.number later) brackets rest := by
  refine skipFrom_of_next ?_
  simp only [SkipState.step, numberStep, goesOn]

private theorem skipFrom_number_of_digits
    {place : NumberPlace} {run : List Char} (digits : IsDigits run)
    (stays : ∀ digit, digit.isDigit = true → place.next? digit = some place) :
    skipFrom (.number place) brackets (run ++ rest) = skipFrom (.number place) brackets rest := by
  induction run with
  | nil =>
      rfl
  | cons digit run ih =>
      rw [List.cons_append,
        skipFrom_number_of_next? (stays digit (digits digit List.mem_cons_self))]
      exact ih fun other member => digits other (List.mem_cons_of_mem _ member)

theorem skipFrom_number_of_delimited
    {place : NumberPlace} (complete : place.complete = true) (delimited : Delimited rest) :
    skipFrom (.number place) brackets rest = skipBehind brackets rest := by
  cases rest with
  | nil =>
      cases brackets <;> simp [skipFrom, SkipState.finish, skipBehind, complete]
  | cons next rest =>
      have ends := delimited next rfl
      obtain ⟨notDigit, notPoint, notMark, notCapital⟩ := not_numeral_of_endsValue ends
      have stops : place.next? next = none := by
        cases place <;>
          simp_all [NumberPlace.next?, NumberPlace.complete]
      cases brackets with
      | nil =>
          simp [skipFrom, SkipState.step, numberStep, stops, complete, notDigit, skipBehind]
      | cons bracket brackets =>
          simp [skipFrom, SkipState.step, numberStep, stops, complete, notDigit, skipBehind]

private theorem skipFrom_exponent
    {place : NumberPlace} (complete : place.complete = true)
    (marks : ∀ mark, mark = 'e' ∨ mark = 'E' → place.next? mark = some .mark)
    {exponent : List Char} (grammar : IsExponent exponent) (delimited : Delimited rest) :
    skipFrom (.number place) brackets (exponent ++ rest) = skipBehind brackets rest := by
  have run : ∀ {run : List Char}, IsDigits run →
      skipFrom (.number .exponent) brackets (run ++ rest) = skipBehind brackets rest := by
    intro run digits
    rw [skipFrom_number_of_digits digits fun digit isDigit => by simp [NumberPlace.next?, isDigit]]
    exact skipFrom_number_of_delimited rfl delimited
  cases grammar with
  | none =>
      exact skipFrom_number_of_delimited complete delimited
  | @unsigned mark first _ isMark digit digits =>
      have notSign : first ≠ '+' ∧ first ≠ '-' := by
        constructor <;> rintro rfl <;> cases digit
      have begins : NumberPlace.next? .mark first = some .exponent := by
        simp [NumberPlace.next?, notSign, digit]
      rw [List.cons_append, List.cons_append, skipFrom_number_of_next? (marks mark isMark),
        skipFrom_number_of_next? begins]
      exact run digits
  | @signed mark sign first _ isMark isSign digit digits =>
      have signs : NumberPlace.next? .mark sign = some .markSign := by
        rcases isSign with rfl | rfl <;> rfl
      have begins : NumberPlace.next? .markSign first = some .exponent := by
        simp [NumberPlace.next?, digit]
      rw [List.cons_append, List.cons_append, List.cons_append,
        skipFrom_number_of_next? (marks mark isMark), skipFrom_number_of_next? signs,
        skipFrom_number_of_next? begins]
      exact run digits

private theorem skipFrom_scaled
    {place : NumberPlace} (complete : place.complete = true)
    (points : place.next? '.' = some .point)
    (marks : ∀ mark, mark = 'e' ∨ mark = 'E' → place.next? mark = some .mark)
    {fraction exponent : List Char} (isFraction : IsFraction fraction)
    (isExponent : IsExponent exponent) (delimited : Delimited rest) :
    skipFrom (.number place) brackets (fraction ++ (exponent ++ rest)) =
      skipBehind brackets rest := by
  cases isFraction with
  | none =>
      exact skipFrom_exponent complete marks isExponent delimited
  | @digits first _ digit digits =>
      have begins : NumberPlace.next? .point first = some .fraction := by
        simp [NumberPlace.next?, digit]
      rw [List.cons_append, List.cons_append, skipFrom_number_of_next? points,
        skipFrom_number_of_next? begins,
        skipFrom_number_of_digits digits fun digit isDigit => by simp [NumberPlace.next?, isDigit]]
      refine skipFrom_exponent rfl ?_ isExponent delimited
      rintro mark (rfl | rfl) <;> rfl

private theorem skipFrom_unsigned
    (zero : state.step brackets '0' = .next (.number .zero) brackets)
    (digit : ∀ first, first.isDigit = true → first ≠ '0' →
      state.step brackets first = .next (.number .whole) brackets)
    {number : List Char} (unsigned : IsUnsigned number) (delimited : Delimited rest) :
    skipFrom state brackets (number ++ rest) = skipBehind brackets rest := by
  cases unsigned with
  | parts whole fraction exponent =>
      rw [List.append_assoc, List.append_assoc]
      cases whole with
      | zero =>
          rw [List.cons_append, List.nil_append, skipFrom_of_next zero]
          refine skipFrom_scaled rfl rfl ?_ fraction exponent delimited
          rintro mark (rfl | rfl) <;> rfl
      | digits isDigit notZero digits =>
          rw [List.cons_append, skipFrom_of_next (digit _ isDigit notZero),
            skipFrom_number_of_digits digits fun digit isDigit => by
              simp [NumberPlace.next?, isDigit]]
          refine skipFrom_scaled rfl rfl ?_ fraction exponent delimited
          rintro mark (rfl | rfl) <;> rfl

def Bracket.beforePart : Bracket → SkipState
  | .list => .value
  | .record => .name

private theorem step_beforePart_of_isSpace {bracket : Bracket} (space : isSpace character = true) :
    bracket.beforePart.step brackets character = .next bracket.beforePart brackets := by
  cases bracket with
  | list => exact step_value_of_isSpace space
  | record => exact step_name_of_isSpace space

def Skips (bracket : Bracket) (part : List Char) : Prop :=
  ∀ ⦃brackets : List Bracket⦄ ⦃rest : List Char⦄, Delimited rest →
    skipFrom bracket.beforePart (bracket :: brackets) (part ++ rest) =
      skipFrom .behind (bracket :: brackets) rest

private theorem skipFrom_behind_of_continued
    {bracket : Bracket} {parts : List (List Char)} {text : List Char}
    (continued : Continued parts text) (skips : ∀ part ∈ parts, Skips bracket part) :
    skipFrom .behind (bracket :: brackets) (text ++ bracket.closing :: rest) =
      skipBehind brackets rest := by
  induction continued with
  | done spaces =>
      rw [skipFrom_of_spaces spaces fun _ => step_behind_of_isSpace]
      refine skipFrom_of_afterValue ?_
      cases bracket <;>
        simp [SkipState.step, behindStep, Bracket.closing, isSpace, closeBracket]
  | more spaces spacesBefore continued ih =>
      rw [List.forall_mem_cons] at skips
      have comma : SkipState.step .behind (bracket :: brackets) ',' =
          .next bracket.beforePart (bracket :: brackets) := by
        cases bracket <;> simp [SkipState.step, behindStep, isSpace, Bracket.beforePart]
      rw [List.append_assoc, skipFrom_of_spaces spaces fun _ => step_behind_of_isSpace,
        List.cons_append, skipFrom_of_next comma, List.append_assoc, List.append_assoc,
        skipFrom_of_spaces spacesBefore fun _ => step_beforePart_of_isSpace,
        skips.1 (continued.delimited bracket rest)]
      exact ih skips.2

private theorem skipFrom_opened
    {bracket : Bracket} {part : List Char} (starts : StartsPart part) :
    skipFrom (.opened bracket) brackets (part ++ rest) =
      skipFrom bracket.beforePart brackets (part ++ rest) := by
  obtain ⟨first, others, rfl, printed, notList, notRecord⟩ := starts
  cases bracket <;>
    simp [skipFrom, SkipState.step, Bracket.beforePart, printed, notList, notRecord]

private theorem skipFrom_opened_of_listed
    {bracket : Bracket} {parts : List (List Char)} {inner : List Char} (listed : Listed parts inner)
    (starts : ∀ part ∈ parts, StartsPart part) (skips : ∀ part ∈ parts, Skips bracket part) :
    skipFrom (.opened bracket) (bracket :: brackets) (inner ++ bracket.closing :: rest) =
      skipBehind brackets rest := by
  cases listed with
  | empty spaces =>
      rw [skipFrom_of_spaces spaces fun _ => step_opened_of_isSpace]
      refine skipFrom_of_afterValue ?_
      cases bracket <;> simp [SkipState.step, Bracket.closing, isSpace, closeBracket]
  | parts spaces continued =>
      rw [List.forall_mem_cons] at skips starts
      rw [List.append_assoc, List.append_assoc,
        skipFrom_of_spaces spaces fun _ => step_opened_of_isSpace, skipFrom_opened starts.1,
        skips.1 (continued.delimited bracket rest)]
      exact skipFrom_behind_of_continued continued skips.2

private theorem skipFrom_enclose
    {bracket : Bracket} {parts : List (List Char)} {inner : List Char} (listed : Listed parts inner)
    (starts : ∀ part ∈ parts, StartsPart part) (skips : ∀ part ∈ parts, Skips bracket part) :
    skipFrom .value brackets (bracket.enclose inner ++ rest) = skipBehind brackets rest := by
  have opens : SkipState.step .value brackets bracket.opening =
      .next (.opened bracket) (bracket :: brackets) := by
    cases bracket <;> simp [SkipState.step, valueStep, Bracket.opening, isSpace]
  rw [bracket.enclose_append, skipFrom_of_next opens]
  exact skipFrom_opened_of_listed listed starts skips

private theorem skips_chars
    {entry : Entry} (quoted : IsQuoted entry.name) (spaced : entry.Spaced)
    (skips : ∀ ⦃brackets : List Bracket⦄ ⦃rest : List Char⦄, Delimited rest →
      skipFrom .value brackets (entry.value ++ rest) = skipBehind brackets rest) :
    Skips .record entry.chars := by
  intro brackets rest delimited
  have quote : SkipState.step .name (.record :: brackets) '"' =
      .next (.text true .plain) (.record :: brackets) := by
    simp [SkipState.step, nameStep, isSpace]
  have colon : SkipState.step .colon (.record :: brackets) ':' =
      .next .value (.record :: brackets) := by
    simp [SkipState.step, isSpace]
  have shown : entry.chars ++ rest =
      '"' :: (entry.name ++ '"' ::
        (entry.before ++ ':' :: (entry.behind ++ (entry.value ++ rest)))) := by
    simp [Entry.chars]
  change skipFrom .name (.record :: brackets) (entry.chars ++ rest) = _
  rw [shown, skipFrom_of_next quote, skipFrom_text quoted]
  change skipFrom .colon (.record :: brackets) _ = _
  rw [skipFrom_of_spaces spaced.1 fun _ => step_colon_of_isSpace, skipFrom_of_next colon,
    skipFrom_of_spaces spaced.2 fun _ => step_value_of_isSpace]
  exact skips delimited

private theorem step_value_of_isDigit
    (digit : character.isDigit = true) (notZero : character ≠ '0') :
    SkipState.step .value brackets character = .next (.number .whole) brackets := by
  have others : character ≠ '"' ∧ character ≠ '[' ∧ character ≠ '{' ∧ character ≠ '-' := by
    refine ⟨?_, ?_, ?_, ?_⟩ <;> rintro rfl <;> cases digit
  simp [SkipState.step, valueStep, (not_space_of_isDigit digit).1, others, notZero, digit]

private theorem skipFrom_of_isValue
    {text : List Char} (value : IsValue text) ⦃brackets : List Bracket⦄ ⦃rest : List Char⦄
    (delimited : Delimited rest) :
    skipFrom .value brackets (text ++ rest) = skipBehind brackets rest := by
  -- The induction follows the grammar; a part of a value stands inside one more bracket.
  induction value generalizing brackets rest with
  | null =>
      exact (skipFrom_of_next rfl).trans skipFrom_word
  | yes =>
      exact (skipFrom_of_next rfl).trans skipFrom_word
  | no =>
      exact (skipFrom_of_next rfl).trans skipFrom_word
  | positive unsigned =>
      refine skipFrom_unsigned ?_ (fun _ => step_value_of_isDigit) unsigned delimited
      simp [SkipState.step, valueStep, isSpace]
  | negative unsigned =>
      have sign : SkipState.step .value brackets '-' = .next (.number .sign) brackets := by
        simp [SkipState.step, valueStep, isSpace]
      rw [List.cons_append, skipFrom_of_next sign]
      refine skipFrom_unsigned ?_ ?_ unsigned delimited
      · simp [SkipState.step, numberStep, NumberPlace.next?]
      · intro first digit notZero
        simp [SkipState.step, numberStep, NumberPlace.next?, digit, notZero]
  | text quoted =>
      have quote : SkipState.step .value brackets '"' = .next (.text false .plain) brackets := by
        simp [SkipState.step, valueStep, isSpace]
      rw [List.cons_append, List.append_assoc, skipFrom_of_next quote]
      exact skipFrom_text quoted
  | list values listed ih =>
      exact skipFrom_enclose listed (fun item member => (values item member).startsPart)
        fun item member brackets rest delimited => ih item member delimited
  | record written _ listed ih =>
      refine skipFrom_enclose listed ?_ ?_
      · intro part member
        obtain ⟨entry, _, rfl⟩ := List.mem_map.1 member
        exact startsPart_chars entry
      · intro part member
        obtain ⟨entry, among, rfl⟩ := List.mem_map.1 member
        exact skips_chars (written entry among).1 (written entry among).2
          fun brackets rest delimited => ih entry among delimited

theorem skipValue_of_isValue
    {space text rest : List Char} (spaces : IsSpaces space) (value : IsValue text)
    (delimited : Delimited rest) : skipValue (space ++ (text ++ rest)) = .ok rest := by
  rw [skipValue, skipFrom_of_spaces spaces fun _ => step_value_of_isSpace,
    skipFrom_of_isValue value delimited]
  rfl

end LetterPacks.Json
