import LetterPacks.Proofs.Json.Faults
import LetterPacks.Proofs.Number.Digits
import Mathlib.Data.List.Infix

/-!
# Texts that break off

A written text may be cut between any two of its characters.  Whatever is being read there has ended
too early: the cut makes no value unsuitable and nothing malformed.  Only a number can be read from
its first digits, and then nothing is left of what has to follow it.
-/

namespace LetterPacks.Json

variable {α β : Type} {front text rest space : List Char} {first : Char}

private theorem append_cases_of_cut {left right : List Char} (cut : front <+: left ++ right) :
    front <+: left ∨ ∃ more, front = left ++ more ∧ more <+: right := by
  rcases List.prefix_or_prefix_of_prefix cut (left.prefix_append right) with inside | ⟨more, rfl⟩
  · exact .inl inside
  · exact .inr ⟨more, rfl, (List.prefix_append_right_inj left).1 cut⟩

private theorem isSpaces_of_cut
    (spaces : IsSpaces space) (cut : front <+: space) : IsSpaces front :=
  fun character member => spaces character (cut.subset member)

private theorem dropSpace_of_cut
    (spaces : IsSpaces space) (printed : isSpace first = false)
    (cut : front <+: space ++ first :: rest) :
    dropSpace front = [] ∨ ∃ more, dropSpace front = first :: more ∧ more <+: rest := by
  rcases append_cases_of_cut cut with inside | ⟨more, rfl, left⟩
  · exact .inl (dropSpace_of_spaces (isSpaces_of_cut spaces inside))
  · rw [dropSpace_append spaces]
    cases more with
    | nil => exact .inl rfl
    | cons character more =>
        obtain ⟨rfl, behind⟩ := List.cons_prefix_cons.1 left
        exact .inr ⟨more, dropSpace_cons printed more, behind⟩

private theorem Bracket.cases_of_cut
    {bracket : Bracket} {inner : List Char} (cut : front <+: bracket.enclose inner)
    (proper : front ≠ bracket.enclose inner) :
    front = [] ∨ ∃ more, front = bracket.opening :: more ∧ more <+: inner := by
  cases front with
  | nil => exact .inl rfl
  | cons first more =>
      obtain ⟨rfl, behind⟩ := List.cons_prefix_cons.1 cut
      rcases List.prefix_concat_iff.1 behind with rfl | inside
      · exact absurd rfl proper
      · exact .inr ⟨more, rfl, inside⟩

private theorem Continued.delimited_of_cut
    {parts : List (List Char)} (continued : Continued parts text) (cut : front <+: text) :
    Delimited front := by
  have delimited := continued.delimited .list []
  cases front with
  | nil => exact delimited_of_spaces isSpaces_nil
  | cons first more =>
      obtain ⟨others, rfl⟩ := cut
      exact delimited

/-- Reading has come to the end of the text, with a value or without one. -/
def RunsOut (read : Except Fault (α × List Char)) : Prop :=
  read = .error .ended ∨ ∃ value, read = .ok (value, [])

def Shape.BreaksOff (shape : Shape α) (text : List Char) : Prop :=
  ∀ ⦃front⦄, front <+: text → RunsOut (shape.read front)

def Shape.NeedsAll (shape : Shape α) (text : List Char) : Prop :=
  ∀ ⦃front⦄, front <+: text → front ≠ text → shape.read front = .error .ended

private theorem RunsOut.map
    {read : Except Fault (α × List Char)} (runsOut : RunsOut read) (give : α → β) :
    RunsOut (read.map fun result => (give result.1, result.2)) := by
  rcases runsOut with ended | ⟨value, whole⟩
  · exact .inl (by rw [ended]; rfl)
  · exact .inr ⟨give value, by rw [whole]; rfl⟩

private theorem Shape.BreaksOff.append_spaces
    {shape : Shape α} (breaksOff : shape.BreaksOff text) (spaces : IsSpaces space) :
    shape.BreaksOff (space ++ text) := by
  intro front cut
  rcases append_cases_of_cut cut with inside | ⟨more, rfl, left⟩
  · have read := shape.read_append_spaces (isSpaces_of_cut spaces inside) []
    rw [List.append_nil, shape.read_nil] at read
    exact .inl read
  · rw [shape.read_append_spaces spaces]
    exact breaksOff left

private theorem readWord_of_cut
    {letters : List Char} (cut : front <+: letters) (proper : front ≠ letters) :
    readWord letters front = .error .ended := by
  induction letters generalizing front with
  | nil => exact absurd (List.prefix_nil.1 cut) proper
  | cons letter letters ih =>
      cases front with
      | nil => rfl
      | cons character front =>
          obtain ⟨rfl, behind⟩ := List.cons_prefix_cons.1 cut
          rw [readWord, if_pos rfl]
          exact ih behind fun whole => proper (congrArg _ whole)

private theorem readQuotedFrom_of_cut
    {state : QuotedState} {before tail : List Char} {meant : String}
    (read : readQuotedFrom state before (front ++ tail) = .ok (meant, [])) (nonempty : tail ≠ []) :
    readQuotedFrom state before front = .error .ended := by
  induction front generalizing state before with
  | nil => rfl
  | cons character front ih =>
      rw [List.cons_append, readQuotedFrom] at read
      rw [readQuotedFrom]
      cases stepped : state.step character with
      | next later =>
          rw [stepped] at read
          exact ih read
      | emit meant =>
          rw [stepped] at read
          exact ih read
      | close =>
          rw [stepped] at read
          obtain ⟨_, nothing⟩ := Prod.mk.inj (Except.ok.inj read)
          exact absurd (List.append_eq_nil_iff.1 nothing).2 nonempty
      | refuse =>
          rw [stepped] at read
          cases read

private theorem readQuoted_of_cut
    {name : String} {body : List Char} (spelled : Spells name.toList body)
    (cut : front <+: body ++ '"' :: rest) :
    readQuoted front = .error .ended ∨
      ∃ more, readQuoted front = .ok (name, more) ∧ more <+: rest := by
  rw [List.append_cons] at cut
  rcases append_cases_of_cut cut with ⟨tail, same⟩ | ⟨more, rfl, behind⟩
  · have whole : readQuoted (body ++ ['"']) = .ok (name, []) := readQuoted_of_spells spelled
    rw [← same] at whole
    by_cases nothing : tail = []
    · rw [nothing, List.append_nil] at whole
      exact .inr ⟨[], whole, List.nil_prefix⟩
    · exact .inl (readQuotedFrom_of_cut whole nothing)
  · rw [← List.append_cons]
    exact .inr ⟨more, readQuoted_of_spells spelled, behind⟩

private theorem Quotes.cases_of_cut
    {name : String} (quotes : Quotes name text) (cut : front <+: text) (proper : front ≠ text) :
    front = [] ∨ ∃ more, front = '"' :: more ∧ readQuoted more = .error .ended := by
  obtain ⟨body, spelled, rfl⟩ := quotes
  cases front with
  | nil => exact .inl rfl
  | cons first more =>
      obtain ⟨rfl, tail, same⟩ := List.cons_prefix_cons.1 cut
      have whole : readQuoted (body ++ ['"']) = .ok (name, []) := readQuoted_of_spells spelled
      rw [← same] at whole
      refine .inr ⟨more, rfl, readQuotedFrom_of_cut whole ?_⟩
      rintro rfl
      exact proper (by rw [← same, List.append_nil])

private theorem readTextAs_of_cut
    {name : String} (quotes : Quotes name text) (wanted : Wanted) (cut : front <+: text)
    (proper : front ≠ text) : readTextAs wanted front = .error .ended := by
  rcases quotes.cases_of_cut cut proper with rfl | ⟨more, rfl, ended⟩
  · rfl
  · rw [readTextAs, dropSpace_cons (by decide)]
    exact ended

private theorem readChoice_of_cut
    (vocabulary : Vocabulary α) {name : String} (quotes : Quotes name text) (cut : front <+: text)
    (proper : front ≠ text) : readChoice vocabulary front = .error .ended := by
  rcases quotes.cases_of_cut cut proper with rfl | ⟨more, rfl, ended⟩
  · rfl
  · rw [readChoice, dropSpace_cons (by decide)]
    simp only [ended, bind, Except.bind]

private theorem readWordAs_of_cut
    {letter : Char} {letters more : List Char} (meant : α)
    (cut : first :: more <+: letter :: letters) (proper : first :: more ≠ letter :: letters) :
    first = letter ∧ (readWord letters more).map (fun rest => (meant, rest)) = .error .ended := by
  obtain ⟨rfl, behind⟩ := List.cons_prefix_cons.1 cut
  have ended := readWord_of_cut behind fun whole => proper (congrArg _ whole)
  exact ⟨rfl, by rw [ended]; rfl⟩

private theorem readFlag_of_cut
    {value : Bool} (cut : front <+: (if value then "true" else "false").toList)
    (proper : front ≠ (if value then "true" else "false").toList) :
    readFlag front = .error .ended := by
  cases front with
  | nil => rfl
  | cons first more =>
      cases value with
      | true =>
          have word : first :: more <+: 't' :: ['r', 'u', 'e'] := cut
          obtain ⟨rfl, ended⟩ := readWordAs_of_cut true word proper
          exact ended
      | false =>
          have word : first :: more <+: 'f' :: ['a', 'l', 's', 'e'] := cut
          obtain ⟨rfl, ended⟩ := readWordAs_of_cut false word proper
          exact ended

private theorem breaksOff_natural (value : UInt64) :
    Shape.natural.BreaksOff (Number.digits value.toNat) := by
  intro front cut
  by_cases nothing : front = []
  · rw [nothing, Shape.read_nil]
    exact .inl rfl
  · obtain ⟨smaller, le, rfl⟩ := Number.exists_digits_of_prefix cut nothing
    have fits : (UInt64.ofNat smaller).toNat = smaller :=
      UInt64.toNat_ofNat_of_lt (Nat.lt_of_le_of_lt le value.toNat_lt)
    have read := readNatural_digits (UInt64.ofNat smaller) (delimited_of_spaces isSpaces_nil)
    rw [fits, List.append_nil] at read
    exact .inr ⟨_, read⟩

private theorem readNull_of_cut
    (shape : Shape α) (cut : front <+: ['n', 'u', 'l', 'l'])
    (proper : front ≠ ['n', 'u', 'l', 'l']) : shape.optional.read front = .error .ended := by
  cases front with
  | nil => exact shape.optional.read_nil
  | cons first more =>
      obtain ⟨rfl, ended⟩ := readWordAs_of_cut none cut proper
      rw [Shape.read, dropSpace_cons (by decide)]
      exact ended

private theorem Shape.BreaksOff.optional
    {shape : Shape α} (breaksOff : shape.BreaksOff text) (starts : StartsPart text)
    (notNull : text.head? ≠ some 'n') : shape.optional.BreaksOff text := by
  intro front cut
  cases front with
  | nil =>
      rw [Shape.read_nil]
      exact .inl rfl
  | cons first more =>
      obtain ⟨_, others, rfl, printed, _⟩ := starts
      have runsOut := breaksOff cut
      obtain ⟨rfl, _⟩ := List.cons_prefix_cons.1 cut
      rw [Shape.read, dropSpace_cons printed]
      split
      · next same =>
          obtain ⟨rfl, _⟩ := List.cons.inj same
          exact absurd rfl notNull
      · exact runsOut.map some

section

variable {part : List Char} {parts : List (List Char)} {isFirst : Bool}

private theorem nextItem_of_cut
    (following : Following isFirst (part :: parts) text) (starts : StartsPart part)
    (cut : front <+: text) :
    nextItem isFirst front = .error .ended ∨
      ∃ start after, Continued parts after ∧ nextItem isFirst front = .ok (some start) ∧
        start <+: part ++ after := by
  obtain ⟨first, others, rfl, printed, notClosing, _⟩ := starts
  cases isFirst with
  | true =>
      cases following with
      | @parts before _ after _ spaces continued =>
          rcases dropSpace_of_cut spaces printed cut with nothing | ⟨more, shown, cut⟩
          · exact .inl (by rw [nextItem, nothing])
          · refine .inr ⟨first :: more, after, continued, ?_, ?_⟩
            · simp [nextItem, shown]
            · exact List.cons_prefix_cons.2 ⟨rfl, cut⟩
  | false =>
      cases following with
      | @more space before _ after _ spaces spacesBefore continued =>
          rcases dropSpace_of_cut spaces (by decide) cut with nothing | ⟨behind, comma, cut⟩
          · exact .inl (by rw [nextItem, nothing])
          · rcases dropSpace_of_cut spacesBefore printed cut with nothing | ⟨more, shown, cut⟩
            · exact .inl (by simp [nextItem, comma, nothing])
            · refine .inr ⟨first :: more, after, continued, ?_, ?_⟩
              · simp [nextItem, comma, shown, notClosing]
              · exact List.cons_prefix_cons.2 ⟨rfl, cut⟩

private theorem readItems_nil
    {readItem : List Char → Except Fault (α × List Char)} (fuel : Nat) (isFirst : Bool)
    (before : List α) : readItems readItem fuel isFirst before [] = .error .ended := by
  cases fuel <;> rfl

private theorem readItems_of_cut
    {item : Shape α} (reads : item.Reads) {values : List α}
    (spelled : List.Forall₂ item.Spelled values parts)
    (breaksOff : ∀ part ∈ parts, item.BreaksOff part) (following : Following isFirst parts text)
    (cut : front <+: text) (fuel : Nat) (before : List α) :
    readItems item.read fuel isFirst before front = .error .ended := by
  induction spelled generalizing isFirst text front fuel before with
  | nil =>
      have spaces := isSpaces_of_cut following.spaces cut
      cases fuel with
      | zero => rfl
      | succ fuel => simp only [readItems, nextItem, dropSpace_of_spaces spaces, bind, Except.bind]
  | @cons value part values parts spelledPart _ ih =>
      rw [List.forall_mem_cons] at breaksOff
      cases fuel with
      | zero => rfl
      | succ fuel =>
          rcases nextItem_of_cut following (item.startsPart_of_spelled spelledPart) cut with
            ended | ⟨start, after, continued, next, cut⟩
          · simp only [readItems, ended, bind, Except.bind]
          · have behind : Following false parts after := continued
            rcases append_cases_of_cut cut with inside | ⟨more, rfl, left⟩
            · rcases breaksOff.1 inside with ended | ⟨found, read⟩
              · simp only [readItems, next, ended, bind, Except.bind]
              · simp only [readItems, next, read, bind, Except.bind]
                exact readItems_nil fuel false (found :: before)
            · have read := reads spelledPart (continued.delimited_of_cut left)
              simp only [readItems, next, read, bind, Except.bind]
              exact ih breaksOff.2 behind left fuel (value :: before)

private theorem needsAll_list
    {item : Shape α} (reads : item.Reads) {values : List α}
    (spelled : List.Forall₂ item.Spelled values parts)
    (breaksOff : ∀ part ∈ parts, item.BreaksOff part)
    (encloses : Bracket.list.Encloses parts text) : (Shape.list item).NeedsAll text := by
  obtain ⟨inner, listed, rfl⟩ := encloses
  intro front cut proper
  rcases Bracket.cases_of_cut cut proper with rfl | ⟨more, rfl, left⟩
  · exact Shape.read_nil _
  · have following : Following true parts inner := listed
    have ended := readItems_of_cut reads spelled breaksOff following left (more.length + 1) []
    rw [Shape.read, Bracket.opening, dropSpace_cons (by decide)]
    simp only [ended, bind, Except.bind]

/-! ## Records -/

private theorem Entry.chars_append (entry : Entry) (after : List Char) :
    entry.chars ++ after = '"' :: (entry.name ++ '"' ::
      (entry.before ++ ':' :: (entry.behind ++ entry.value) ++ after)) := by
  simp [Entry.chars]

private theorem nextName_of_cut
    {entry : Entry} {name : String} (following : Following isFirst (entry.chars :: parts) text)
    (spelled : Spells name.toList entry.name) (cut : front <+: text) :
    nextName isFirst front = .error .ended ∨
      ∃ start after, Continued parts after ∧ nextName isFirst front = .ok (some (name, start)) ∧
        start <+: entry.before ++ ':' :: (entry.behind ++ entry.value) ++ after := by
  have quote : isSpace '"' = false := by decide
  cases isFirst with
  | true =>
      cases following with
      | @parts before _ after _ spaces continued =>
          rw [entry.chars_append] at cut
          rcases dropSpace_of_cut spaces quote cut with nothing | ⟨more, shown, left⟩
          · exact .inl (by rw [nextName, nothing])
          · rcases readQuoted_of_cut spelled left with ended | ⟨start, read, behind⟩
            · exact .inl (by simp [nextName, shown, ended, Except.map])
            · exact .inr ⟨start, after, continued, by simp [nextName, shown, read, Except.map],
                behind⟩
  | false =>
      cases following with
      | @more space before _ after _ spaces spacesBefore continued =>
          rw [entry.chars_append] at cut
          rcases dropSpace_of_cut spaces (by decide) cut with nothing | ⟨inner, comma, cut⟩
          · exact .inl (by rw [nextName, nothing])
          · rcases dropSpace_of_cut spacesBefore quote cut with nothing | ⟨more, shown, left⟩
            · exact .inl (by simp [nextName, comma, readName, nothing, Except.map])
            · rcases readQuoted_of_cut spelled left with ended | ⟨start, read, behind⟩
              · exact .inl (by simp [nextName, comma, readName, shown, ended, Except.map])
              · exact .inr ⟨start, after, continued,
                  by simp [nextName, comma, readName, shown, read, Except.map], behind⟩

/-- Reading the member of a name runs out on whatever is left of the text of its value.  This is
not said of a member that nobody wants. -/
def Fields.BreaksOff {β : Type} : Fields β → String → List Char → Prop
  | .nil, _, _ => False
  | .cons known _ shape rest, name, text =>
      if known = name then shape.BreaksOff text else rest.BreaksOff name text

private theorem Fields.readMember_of_cut {β : Type} :
    (fields : Fields β) → {slots : fields.Slots} → {values : β} → {entry : Entry} →
      {name : String} → {members : List Member} → fields.BreaksOff name entry.value →
      fields.Awaits slots values (⟨name, entry.value⟩ :: members) → entry.Spaced →
      {front : List Char} → front <+: entry.before ++ ':' :: (entry.behind ++ entry.value) →
      RunsOut (fields.readMember slots name front)
  | .nil, _, _, _, _, _, breaksOff, _, _, _, _ => breaksOff.elim
  | .cons known absent shape others, slots, values, entry, name, members, breaksOff, awaits,
      spaced, front, cut => by
      obtain ⟨own, awaits⟩ := awaits
      rw [Fields.BreaksOff] at breaksOff
      by_cases same : known = name
      · subst same
        rw [if_pos rfl] at breaksOff
        rw [List.filter_cons_of_pos (by simp)] at own
        obtain ⟨unnoted, _⟩ := Shape.awaits_cons own
        rcases dropSpace_of_cut spaced.1 (by decide) cut with nothing | ⟨more, colon, left⟩
        · exact .inl (by simp [Fields.readMember, unnoted, readColon, nothing, bind, Except.bind])
        · rcases (breaksOff.append_spaces spaced.2) left with ended | ⟨value, read⟩
          · exact .inl (by
              simp [Fields.readMember, unnoted, readColon, colon, ended, bind, Except.bind])
          · exact .inr ⟨(some value, slots.2), by
              simp [Fields.readMember, unnoted, readColon, colon, read, bind, Except.bind]⟩
      · rw [if_neg same] at breaksOff
        rw [List.filter_cons_of_pos (by simpa using Ne.symm same)] at awaits
        rcases others.readMember_of_cut breaksOff awaits spaced cut with ended | ⟨noted, read⟩
        · exact .inl (by simp only [Fields.readMember, same, if_false, ended, bind, Except.bind])
        · exact .inr ⟨(slots.1, noted), by
            simp only [Fields.readMember, same, if_false, read, bind, Except.bind]⟩

private theorem readMembers_nil
    {σ : Type} {readMember : σ → String → List Char → Except Fault (σ × List Char)}
    (fuel : Nat) (isFirst : Bool) (slots : σ) :
    readMembers readMember fuel isFirst slots [] = .error .ended := by
  cases fuel <;> rfl

private theorem Fields.readMembers_of_cut
    {fields : Fields β} (reads : fields.Reads) {members : List Member}
    (written : List.Forall₂ Member.Written members parts)
    (breaksOff : ∀ member ∈ members, fields.BreaksOff member.name member.value)
    (following : Following isFirst parts text) (cut : front <+: text) {slots : fields.Slots}
    {values : β} (awaits : fields.Awaits slots values members) (fuel : Nat) :
    readMembers fields.readMember fuel isFirst slots front = .error .ended := by
  induction written generalizing isFirst text front slots fuel with
  | nil =>
      have spaces := isSpaces_of_cut following.spaces cut
      cases fuel with
      | zero => rfl
      | succ fuel =>
          simp only [readMembers, nextName, dropSpace_of_spaces spaces, bind, Except.bind]
  | @cons member part members parts writtenMember _ ih =>
      rw [List.forall_mem_cons] at breaksOff
      obtain ⟨entry, ⟨named, spaced⟩, sameValue, rfl⟩ := writtenMember
      rw [show member = ⟨member.name, entry.value⟩ by rw [sameValue]] at awaits
      rw [← sameValue] at breaksOff
      cases fuel with
      | zero => rfl
      | succ fuel =>
          rcases nextName_of_cut following named cut with
            ended | ⟨start, after, continued, next, cut⟩
          · simp only [readMembers, ended, bind, Except.bind]
          · have behind : Following false parts after := continued
            rcases append_cases_of_cut cut with inside | ⟨more, rfl, left⟩
            · rcases fields.readMember_of_cut breaksOff.1 awaits spaced inside with
                ended | ⟨noted, read⟩
              · simp only [readMembers, next, ended, bind, Except.bind]
              · simp only [readMembers, next, read, bind, Except.bind]
                exact readMembers_nil fuel false noted
            · obtain ⟨noted, read, awaits⟩ := fields.readMember_of_awaits reads awaits spaced
                (continued.delimited_of_cut left)
              have read : fields.readMember slots member.name
                  (entry.before ++ ':' :: (entry.behind ++ entry.value) ++ more) =
                    .ok (noted, more) := by
                simpa using read
              simp only [readMembers, next, read, bind, Except.bind]
              exact ih breaksOff.2 behind left awaits fuel

private theorem needsAll_record
    {fields : Fields β} (reads : fields.Reads) {members : List Member}
    (written : List.Forall₂ Member.Written members parts)
    (breaksOff : ∀ member ∈ members, fields.BreaksOff member.name member.value)
    (encloses : Bracket.record.Encloses parts text) {values : β}
    (awaits : fields.Awaits fields.empty values members) (owner : String) (pack : β → α)
    (unpack : α → β) (pack_unpack : ∀ value, pack (unpack value) = value) :
    (Shape.record owner fields pack unpack pack_unpack).NeedsAll text := by
  obtain ⟨inner, listed, rfl⟩ := encloses
  intro front cut proper
  rcases Bracket.cases_of_cut cut proper with rfl | ⟨more, rfl, left⟩
  · exact Shape.read_nil _
  · have following : Following true parts inner := listed
    have ended := Fields.readMembers_of_cut reads written breaksOff following left awaits
      (more.length + 1)
    rw [Shape.read, Bracket.opening, dropSpace_cons (by decide)]
    simp only [ended, bind, Except.bind]

end

private theorem Form.needsAll_record
    (form : Form) {fields : Fields β} (unambiguous : fields.Unambiguous) (level : Nat)
    (values : β)
    (breaksOff : ∀ member ∈ fields.toMembers values,
      fields.BreaksOff member.1 (form.chars (level + 1) member.2))
    (owner : String) (pack : β → α) (unpack : α → β)
    (pack_unpack : ∀ value, pack (unpack value) = value) :
    (Shape.record owner fields pack unpack pack_unpack).NeedsAll
      (form.chars level (.record (fields.toMembers values))) := by
  rw [form.chars_record]
  exact Json.needsAll_record (fields.reads unambiguous) (form.written_members level _)
    (List.forall_mem_map.2 breaksOff) (form.encloses_enclose .record level _)
    (form.awaits_spelled level unambiguous (.refl _)) owner pack unpack pack_unpack

private theorem Shape.NeedsAll.breaksOff
    {shape : Shape α} {form : Form} {level : Nat} {value : α}
    (needsAll : shape.NeedsAll (form.chars level (shape.toJson value)))
    (unambiguous : shape.Unambiguous) :
    shape.BreaksOff (form.chars level (shape.toJson value)) := by
  intro front cut
  by_cases whole : front = form.chars level (shape.toJson value)
  · have read := shape.reads unambiguous (form.writes_chars.spelled shape level value)
      (delimited_of_spaces isSpaces_nil)
    rw [List.append_nil, ← whole] at read
    exact .inr ⟨value, read⟩
  · exact .inl (needsAll cut whole)

mutual

theorem Shape.breaksOff {α : Type} (form : Form) :
    (shape : Shape α) → shape.Unambiguous → (level : Nat) → (value : α) →
      shape.BreaksOff (form.chars level (shape.toJson value))
  | .natural, _, level, value => by
      rw [Shape.toJson, form.writes_chars.natural]
      exact breaksOff_natural value
  | .text, unambiguous, level, value => by
      refine Shape.NeedsAll.breaksOff (fun front cut proper => ?_) unambiguous
      rw [Shape.toJson, form.writes_chars.text] at cut proper
      exact readTextAs_of_cut (quotes_quotedChars value) .text cut proper
  | .flag, unambiguous, level, value => by
      refine Shape.NeedsAll.breaksOff (fun front cut proper => ?_) unambiguous
      rw [Shape.toJson, form.writes_chars.boolean] at cut proper
      exact readFlag_of_cut cut proper
  | .date, unambiguous, level, value => by
      refine Shape.NeedsAll.breaksOff (fun front cut proper => ?_) unambiguous
      rw [Shape.toJson, form.writes_chars.text] at cut proper
      rw [Shape.read, readDate, readTextAs_of_cut (quotes_quotedChars _) .date cut proper]
  | .choice vocabulary, unambiguous, level, value => by
      refine Shape.NeedsAll.breaksOff (fun front cut proper => ?_) unambiguous
      rw [Shape.toJson, form.writes_chars.text] at cut proper
      exact readChoice_of_cut vocabulary (quotes_quotedChars _) cut proper
  | .optional shape, unambiguous, level, none => by
      refine Shape.NeedsAll.breaksOff (fun front cut proper => ?_) unambiguous
      rw [Shape.toJson, Json.ofOption, form.writes_chars.null] at cut proper
      exact readNull_of_cut shape cut proper
  | .optional shape, unambiguous, level, some value => by
      have spelled := form.writes_chars.spelled shape level value
      obtain ⟨starts, notNull⟩ := Shape.startsPart_of_definite unambiguous.1 spelled
      exact (shape.breaksOff form unambiguous.2 level value).optional starts notNull
  | .list item, unambiguous, level, values => by
      refine Shape.NeedsAll.breaksOff ?_ unambiguous
      rw [Shape.toJson, form.chars_list]
      refine needsAll_list (item.reads unambiguous) (form.spelled_items level item values) ?_
        (form.encloses_enclose .list level _)
      rw [Form.items, List.map_map, List.forall_mem_map]
      exact fun value _ => item.breaksOff form unambiguous (level + 1) value
  | .record owner fields pack unpack pack_unpack, unambiguous, level, value =>
      Shape.NeedsAll.breaksOff
        (form.needsAll_record unambiguous level (unpack value)
          (fields.breaksOff form unambiguous (level + 1) (unpack value)) owner pack unpack
          pack_unpack)
        unambiguous

theorem Fields.breaksOff {β : Type} (form : Form) :
    (fields : Fields β) → fields.Unambiguous → (level : Nat) → (values : β) →
      ∀ member ∈ fields.toMembers values,
        fields.BreaksOff member.1 (form.chars level member.2)
  | .nil, _, _, _ => fun _ none => by cases none
  | .cons name _ shape rest, unambiguous, level, values => by
      rw [Fields.toMembers, List.forall_mem_cons]
      constructor
      · rw [Fields.BreaksOff, if_pos rfl]
        exact shape.breaksOff form unambiguous.2.1 level values.1
      · intro member listed
        have known : member.1 ∈ rest.names := by
          rw [← rest.names_toMembers values.2]
          exact List.mem_map_of_mem listed
        have apart : name ≠ member.1 := fun same => unambiguous.1 (same ▸ known)
        rw [Fields.BreaksOff, if_neg apart]
        exact rest.breaksOff form unambiguous.2.2 level values.2 member listed

end

theorem Shape.needsAll_of_record
    {owner : String} {fields : Fields β} {pack : β → α} {unpack : α → β}
    {pack_unpack : ∀ value, pack (unpack value) = value} (unambiguous : fields.Unambiguous)
    (form : Form) (level : Nat) (value : α) :
    (Shape.record owner fields pack unpack pack_unpack).NeedsAll
      (form.chars level ((Shape.record owner fields pack unpack pack_unpack).toJson value)) :=
  form.needsAll_record unambiguous level (unpack value)
    (fields.breaksOff form unambiguous (level + 1) (unpack value)) owner pack unpack pack_unpack

end LetterPacks.Json
