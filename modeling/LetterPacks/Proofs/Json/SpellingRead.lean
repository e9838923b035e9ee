import LetterPacks.Proofs.Json.Parts
import LetterPacks.Proofs.Json.Skipping

/-!
# Reading every spelling

A value whose shape is unambiguous is read from each of its spellings (`Shape.reads`).

While the members of a record are read, `Fields.Awaits` relates the members that are still to come
to the ones that have been noted: a member that is noted has its value and does not come again,
and one that is not comes exactly once, or never if the value for an absent one is right.  Every
member that is read keeps this, and when none is left the record can be closed.
-/

namespace LetterPacks.Json

variable {α β : Type}

def Shape.Reads (shape : Shape α) : Prop :=
  ∀ ⦃value : α⦄ ⦃text rest : List Char⦄, shape.Spelled value text → Delimited rest →
    shape.read (text ++ rest) = .ok (value, rest)

def Fields.Reads {β : Type} : Fields β → Prop
  | .nil => True
  | .cons _ _ shape rest => shape.Reads ∧ rest.Reads

theorem Shape.read_append_spaces
    (shape : Shape α) {space : List Char} (spaces : IsSpaces space) (source : List Char) :
    shape.read (space ++ source) = shape.read source := by
  cases shape <;>
    simp only [Shape.read, readNatural, readTextAs, readFlag, readDate, readChoice,
      dropSpace_append spaces]

theorem Shape.startsPart_of_definite
    {shape : Shape α} (definite : shape.isOptional = false) {value : α} {text : List Char}
    (spelled : shape.Spelled value text) : StartsPart text ∧ text.head? ≠ some 'n' := by
  cases shape with
  | natural =>
      obtain ⟨first, run, written⟩ := List.exists_cons_of_ne_nil (Number.digits_ne_nil value.toNat)
      have digit : first.isDigit = true :=
        Number.isDigit_of_mem_digits (written ▸ List.mem_cons_self)
      rw [Shape.Spelled, written] at spelled
      subst spelled
      refine ⟨⟨first, run, rfl, not_space_of_isDigit digit⟩, fun same => ?_⟩
      obtain rfl := Option.some.inj same
      cases digit
  | text | date =>
      obtain ⟨body, _, rfl⟩ := spelled
      exact ⟨⟨'"', _, rfl, by decide, by decide, by decide⟩, by simp⟩
  | flag =>
      rw [Shape.Spelled] at spelled
      subst spelled
      cases value <;> exact ⟨⟨_, _, rfl, by decide, by decide, by decide⟩, by decide⟩
  | choice vocabulary =>
      rcases spelled with ⟨body, _, rfl⟩ | ⟨_, _, _, inner, _, rfl⟩ <;>
        exact ⟨⟨_, _, rfl, by decide, by decide, by decide⟩,
          by simp [Bracket.enclose, Bracket.opening]⟩
  | optional shape => cases definite
  | list item =>
      obtain ⟨_, _, inner, _, rfl⟩ := spelled
      exact ⟨⟨_, _, rfl, by decide, by decide, by decide⟩,
        by simp [Bracket.enclose, Bracket.opening]⟩
  | record name fields pack unpack pack_unpack =>
      rcases spelled with ⟨_, _, _, _, _, _, _, _, inner, _, rfl⟩ | ⟨_, _, inner, _, rfl⟩ <;>
        exact ⟨⟨_, _, rfl, by decide, by decide, by decide⟩,
          by simp [Bracket.enclose, Bracket.opening]⟩

theorem Shape.startsPart_of_spelled {α : Type} :
    (shape : Shape α) → {value : α} → {text : List Char} →
      shape.Spelled value text → StartsPart text
  | .optional _, none, _, spelled => by
      rw [Shape.Spelled] at spelled
      subst spelled
      exact ⟨'n', _, rfl, by decide, by decide, by decide⟩
  | .optional shape, some _, _, spelled => by
      rw [Shape.Spelled] at spelled
      exact shape.startsPart_of_spelled spelled
  | .natural, _, _, spelled
  | .text, _, _, spelled
  | .flag, _, _, spelled
  | .date, _, _, spelled
  | .choice _, _, _, spelled
  | .list _, _, _, spelled
  | .record .., _, _, spelled =>
      (Shape.startsPart_of_definite rfl spelled).1

private theorem Shape.Reads.optional
    {shape : Shape α} (reads : shape.Reads) (definite : shape.isOptional = false) :
    (Shape.optional shape).Reads := by
  intro value text rest spelled delimited
  cases value with
  | none =>
      rw [Shape.Spelled] at spelled
      subst spelled
      rw [Shape.read, List.cons_append, dropSpace_cons (by decide)]
      simp only [readWord_append, Except.map]
  | some value =>
      rw [Shape.Spelled] at spelled
      obtain ⟨starts, notNull⟩ := Shape.startsPart_of_definite definite spelled
      have read := reads spelled delimited
      obtain ⟨first, others, rfl, printed, _⟩ := starts
      have notN : first ≠ 'n' := fun same => notNull (congrArg some same)
      rw [Shape.read, List.cons_append, dropSpace_cons printed]
      rw [List.cons_append] at read
      simp [notN, read, Except.map]

private theorem readItems_of_spelled
    {item : Shape α} (reads : item.Reads) {values : List α} {parts : List (List Char)}
    (spelled : List.Forall₂ item.Spelled values parts) {isFirst : Bool} {text : List Char}
    (following : Following isFirst parts text) {fuel : Nat} (enough : parts.length < fuel)
    (before : List α) (rest : List Char) :
    ∃ space, IsSpaces space ∧
      readItems item.read fuel isFirst before (text ++ ']' :: rest) =
        .ok (before.reverse ++ values, space ++ ']' :: rest) := by
  -- Each item takes one unit of fuel, and the last one is left for the closing bracket.
  induction spelled generalizing isFirst text fuel before with
  | nil =>
      obtain ⟨fuel, rfl⟩ := Nat.exists_eq_succ_of_ne_zero (Nat.ne_of_gt enough)
      refine ⟨text, following.spaces, ?_⟩
      simp [readItems, nextItem_closing following.spaces, bind, Except.bind]
  | @cons value part values parts spelledPart _ ih =>
      obtain ⟨fuel, rfl⟩ := Nat.exists_eq_succ_of_ne_zero (Nat.ne_of_gt (Nat.zero_lt_of_lt enough))
      obtain ⟨after, continued, next⟩ := nextItem_of_following following
        (item.startsPart_of_spelled spelledPart) (']' :: rest)
      have behind : Following false parts after := continued
      obtain ⟨space, spaces, read⟩ := ih behind (Nat.lt_of_succ_lt_succ enough) (value :: before)
      have delimited : Delimited (after ++ ']' :: rest) := continued.delimited .list rest
      refine ⟨space, spaces, ?_⟩
      simp only [readItems, next, bind, Except.bind, reads spelledPart delimited, read]
      simp

private theorem Shape.Reads.list
    {item : Shape α} (reads : item.Reads) : (Shape.list item).Reads := by
  intro values text rest spelled _
  obtain ⟨parts, spelled, inner, listed, rfl⟩ := spelled
  have following : Following true parts inner := listed
  have enough : parts.length < (inner ++ ']' :: rest).length + 1 := by
    have shorter := following.length_le
    simp only [List.length_append, List.length_cons]
    omega
  obtain ⟨space, spaces, read⟩ := readItems_of_spelled reads spelled following enough [] rest
  have shown : Bracket.list.enclose inner ++ rest = '[' :: (inner ++ ']' :: rest) :=
    Bracket.list.enclose_append inner rest
  rw [shown, Shape.read, dropSpace_cons (by decide)]
  simp only [read, bind, Except.bind, readClosing_append spaces ']' (by decide),
    List.reverse_nil, List.nil_append]

/-! ## Members in any order -/

/-- What is still to come of one member: nothing if it has been noted, else the member itself, or
nothing if the value for an absent one is right. -/
def Shape.Awaits
    (shape : Shape α) (absent noted : Option α) (value : α) (own : List Member) : Prop :=
  match noted with
  | some found => found = value ∧ own = []
  | none =>
      (absent = some value ∧ own = []) ∨
        ∃ member, own = [member] ∧ shape.Spelled value member.value

/-- What is still to come of all members, and of others among them. -/
def Fields.Awaits {β : Type} : (fields : Fields β) → fields.Slots → β → List Member → Prop
  | .nil, _, _, members => ∀ member ∈ members, IsValue member.value
  | .cons name absent shape rest, slots, values, members =>
      shape.Awaits absent slots.1 values.1 (members.filter fun member => member.name = name) ∧
        rest.Awaits slots.2 values.2 (members.filter fun member => member.name ≠ name)

theorem Shape.awaits_cons
    {shape : Shape α} {absent noted : Option α} {value : α} {member : Member} {own : List Member}
    (awaits : shape.Awaits absent noted value (member :: own)) :
    noted = none ∧ own = [] ∧ shape.Spelled value member.value := by
  cases noted with
  | some found => cases awaits.2
  | none =>
      rcases awaits with ⟨_, nothing⟩ | ⟨_, only, spelled⟩
      · cases nothing
      · cases only
        exact ⟨rfl, rfl, spelled⟩

theorem Fields.readMember_of_awaits {β : Type} :
    (fields : Fields β) → fields.Reads → {slots : fields.Slots} → {values : β} →
      {entry : Entry} → {name : String} → {members : List Member} →
      fields.Awaits slots values (⟨name, entry.value⟩ :: members) → entry.Spaced →
      {rest : List Char} → Delimited rest →
      ∃ noted, fields.readMember slots name
          (entry.before ++ ':' :: (entry.behind ++ (entry.value ++ rest))) = .ok (noted, rest) ∧
        fields.Awaits noted values members
  | .nil, _, slots, values, entry, name, members, awaits, spaced, rest, delimited => by
      rw [Fields.Awaits, List.forall_mem_cons] at awaits
      refine ⟨slots, ?_, awaits.2⟩
      simp only [Fields.readMember, readColon_append spaced.1, bind, Except.bind,
        skipValue_of_isValue spaced.2 awaits.1 delimited]
  | .cons known absent shape others, reads, slots, values, entry, name, members, awaits, spaced,
      rest, delimited => by
      obtain ⟨own, awaits⟩ := awaits
      by_cases same : name = known
      · subst same
        rw [List.filter_cons_of_neg (by simp)] at awaits
        rw [List.filter_cons_of_pos (by simp)] at own
        obtain ⟨unnoted, noOther, spelled⟩ := Shape.awaits_cons own
        refine ⟨(some values.1, slots.2), ?_, ⟨rfl, noOther⟩, awaits⟩
        simp [Fields.readMember, unnoted, readColon_append spaced.1, bind, Except.bind,
          shape.read_append_spaces spaced.2, reads.1 spelled delimited]
      · rw [List.filter_cons_of_pos (by simpa using same)] at awaits
        rw [List.filter_cons_of_neg (by simpa using same)] at own
        obtain ⟨noted, read, awaits⟩ :=
          others.readMember_of_awaits reads.2 awaits spaced delimited
        refine ⟨(slots.1, noted), ?_, own, awaits⟩
        simp only [Fields.readMember, Ne.symm same, if_false, read, bind, Except.bind]

theorem Fields.readMembers_of_awaits
    {fields : Fields β} (reads : fields.Reads) {members : List Member} {parts : List (List Char)}
    (written : List.Forall₂ Member.Written members parts) {isFirst : Bool} {text : List Char}
    (following : Following isFirst parts text) {fuel : Nat} (enough : parts.length < fuel)
    {slots : fields.Slots} {values : β} (awaits : fields.Awaits slots values members)
    (rest : List Char) :
    ∃ noted space, IsSpaces space ∧ fields.Awaits noted values [] ∧
      readMembers fields.readMember fuel isFirst slots (text ++ '}' :: rest) =
        .ok (noted, space ++ '}' :: rest) := by
  induction written generalizing isFirst text fuel slots with
  | nil =>
      obtain ⟨fuel, rfl⟩ := Nat.exists_eq_succ_of_ne_zero (Nat.ne_of_gt enough)
      exact ⟨slots, text, following.spaces, awaits, readMembers_of_spaces following.spaces fuel⟩
  | @cons member part members parts writtenMember _ ih =>
      obtain ⟨fuel, rfl⟩ := Nat.exists_eq_succ_of_ne_zero (Nat.ne_of_gt (Nat.zero_lt_of_lt enough))
      obtain ⟨entry, ⟨named, spaced⟩, sameValue, rfl⟩ := writtenMember
      obtain ⟨after, continued, next⟩ := nextName_of_following following named ('}' :: rest)
      have delimited : Delimited (after ++ '}' :: rest) := continued.delimited .record rest
      rw [show member = ⟨member.name, entry.value⟩ by rw [sameValue]] at awaits
      obtain ⟨noted, readMember, awaits⟩ :=
        fields.readMember_of_awaits reads awaits spaced delimited
      have behind : Following false parts after := continued
      obtain ⟨noted, space, spaces, awaits, read⟩ :=
        ih behind (Nat.lt_of_succ_lt_succ enough) awaits
      refine ⟨noted, space, spaces, awaits, ?_⟩
      simp only [readMembers, next, bind, Except.bind, readMember, read]

theorem Fields.close_of_awaits {β : Type} :
    (fields : Fields β) → {slots : fields.Slots} → {values : β} →
      fields.Awaits slots values [] → fields.close slots = .ok values
  | .nil, _, _, _ => rfl
  | .cons name absent shape others, slots, values, awaits => by
      obtain ⟨own, awaits⟩ := awaits
      have closed := others.close_of_awaits awaits
      cases noted : slots.1 with
      | some found =>
          rw [noted] at own
          simp [Fields.close, noted, own.1, closed, bind, Except.bind]
      | none =>
          rw [noted] at own
          rcases own with ⟨absentValue, _⟩ | ⟨_, only, _⟩
          · simp [Fields.close, noted, absentValue, closed, bind, Except.bind]
          · cases only

private theorem Fields.name_mem_of_spelled {β : Type} :
    (fields : Fields β) → {values : β} → {members : List Member} →
      fields.Spelled values members → ∀ member ∈ members, member.name ∈ fields.names
  | .nil, _, _, spelled => by
      rw [Fields.Spelled] at spelled
      simp [spelled]
  | .cons name absent shape others, values, members, spelled => by
      rw [Fields.Spelled] at spelled
      rw [Fields.names]
      have behind {wanted : List Member} (spelled : others.Spelled values.2 wanted) :
          ∀ member ∈ wanted, member.name ∈ name :: others.names := fun member mem =>
        List.mem_cons_of_mem _ (others.name_mem_of_spelled spelled member mem)
      rcases spelled with ⟨_, spelled⟩ | ⟨text, rest, rfl, _, spelled⟩
      · exact behind spelled
      · rw [List.forall_mem_cons]
        exact ⟨List.mem_cons_self, behind spelled⟩

theorem filter_name_of_apart
    {name : String} {members : List Member} (apart : ∀ member ∈ members, member.name ≠ name) :
    members.filter (fun member => member.name = name) = [] ∧
      members.filter (fun member => member.name ≠ name) = members := by
  constructor
  · rw [List.filter_eq_nil_iff]
    simpa using apart
  · rw [List.filter_eq_self]
    simpa using apart

/-- Before a record is read, all of its members are to come, shuffled and among others. -/
theorem Fields.awaits_empty {β : Type} :
    (fields : Fields β) → fields.Unambiguous → {values : β} →
      {members foreign shuffled : List Member} → fields.Spelled values members →
      (∀ member ∈ foreign, member.Foreign fields.names) → shuffled.Perm (members ++ foreign) →
      fields.Awaits fields.empty values shuffled
  | .nil, _, values, members, foreign, shuffled, spelled, unwanted, shuffle => by
      rw [Fields.Spelled] at spelled
      subst spelled
      intro member mem
      exact (unwanted member (shuffle.mem_iff.1 mem)).2
  | .cons name absent shape others, unambiguous, values, members, foreign, shuffled, spelled,
      unwanted, shuffle => by
      rw [Fields.Unambiguous] at unambiguous
      rw [Fields.names] at unwanted
      have foreignApart : ∀ member ∈ foreign, member.name ≠ name := fun member mem same =>
        (unwanted member mem).1 (same ▸ List.mem_cons_self)
      have unwantedBehind : ∀ member ∈ foreign, member.Foreign others.names := fun member mem =>
        ⟨fun known => (unwanted member mem).1 (List.mem_cons_of_mem _ known),
          (unwanted member mem).2⟩
      have apart {wanted : List Member} (spelled : others.Spelled values.2 wanted) :
          ∀ member ∈ wanted, member.name ≠ name := fun member mem same =>
        unambiguous.1 (same ▸ others.name_mem_of_spelled spelled member mem)
      have own := shuffle.filter (fun member => member.name = name)
      have behind := shuffle.filter (fun member => member.name ≠ name)
      rw [List.filter_append, (filter_name_of_apart foreignApart).1, List.append_nil] at own
      rw [List.filter_append, (filter_name_of_apart foreignApart).2] at behind
      rw [Fields.Spelled] at spelled
      rcases spelled with ⟨absentValue, spelled⟩ | ⟨text, rest, rfl, spelledOwn, spelled⟩
      · rw [(filter_name_of_apart (apart spelled)).1, List.perm_nil] at own
        rw [(filter_name_of_apart (apart spelled)).2] at behind
        exact ⟨.inl ⟨absentValue, own⟩,
          others.awaits_empty unambiguous.2.2 spelled unwantedBehind behind⟩
      · rw [List.filter_cons_of_pos (by simp), (filter_name_of_apart (apart spelled)).1,
          List.perm_singleton] at own
        rw [List.filter_cons_of_neg (by simp), (filter_name_of_apart (apart spelled)).2] at behind
        exact ⟨.inr ⟨_, own, spelledOwn⟩,
          others.awaits_empty unambiguous.2.2 spelled unwantedBehind behind⟩

private theorem Fields.readInOrder_of_spelled {β : Type} (rest : List Char) (owner : String)
    (wanted : Nat) :
    (fields : Fields β) → fields.Reads → {values : β} → {parts : List (List Char)} →
      fields.SpelledInOrder values parts → {isFirst : Bool} → {text : List Char} →
      Following isFirst parts text → (index : Nat) →
      ∃ space, IsSpaces space ∧
        fields.readInOrder owner wanted index isFirst (text ++ ']' :: rest) =
          .ok (values, space ++ ']' :: rest)
  | .nil, _, _, _, spelled, _, space, following, _ => by
      rw [Fields.SpelledInOrder] at spelled
      subst spelled
      exact ⟨space, following.spaces, rfl⟩
  | .cons name absent shape others, reads, values, parts, spelled, isFirst, inner, following,
      index => by
      rw [Fields.SpelledInOrder] at spelled
      obtain ⟨part, parts, rfl, spelledOwn, spelled⟩ := spelled
      obtain ⟨after, continued, next⟩ := nextItem_of_following following
        (shape.startsPart_of_spelled spelledOwn) (']' :: rest)
      have behind : Following false parts after := continued
      have delimited : Delimited (after ++ ']' :: rest) := continued.delimited .list rest
      obtain ⟨space, spaces, read⟩ := others.readInOrder_of_spelled rest owner wanted
        reads.2 spelled behind (index + 1)
      refine ⟨space, spaces, ?_⟩
      simp only [Fields.readInOrder, next, bind, Except.bind, reads.1 spelledOwn delimited, read]

private theorem Fields.Reads.record
    {fields : Fields β} (reads : fields.Reads) (unambiguous : fields.Unambiguous) (name : String)
    (pack : β → α) (unpack : α → β) (pack_unpack : ∀ value, pack (unpack value) = value) :
    (Shape.record name fields pack unpack pack_unpack).Reads := by
  intro value text rest spelled _
  rw [Shape.Spelled] at spelled
  rcases spelled with ⟨members, spelled, foreign, shuffled, parts, unwanted, shuffle, written,
      inner, listed, rfl⟩ | ⟨parts, spelled, inner, listed, rfl⟩
  · have following : Following true parts inner := listed
    have enough : parts.length < (inner ++ '}' :: rest).length + 1 := by
      have shorter := following.length_le
      simp only [List.length_append, List.length_cons]
      omega
    obtain ⟨noted, space, spaces, awaits, read⟩ :=
      Fields.readMembers_of_awaits reads written following enough
        (fields.awaits_empty unambiguous spelled unwanted shuffle) rest
    have shown : Bracket.record.enclose inner ++ rest = '{' :: (inner ++ '}' :: rest) :=
      Bracket.record.enclose_append inner rest
    rw [shown, Shape.read, dropSpace_cons (by decide)]
    simp only [read, bind, Except.bind, fields.close_of_awaits awaits,
      readClosing_append spaces '}' (by decide), pack_unpack]
  · have following : Following true parts inner := listed
    obtain ⟨space, spaces, read⟩ :=
      fields.readInOrder_of_spelled rest name fields.count reads spelled following 0
    have shown : Bracket.list.enclose inner ++ rest = '[' :: (inner ++ ']' :: rest) :=
      Bracket.list.enclose_append inner rest
    rw [shown, Shape.read, dropSpace_cons (by decide)]
    simp only [read, bind, Except.bind,
      readClosing_append spaces ']' (by decide), pack_unpack]

mutual

theorem Shape.reads {α : Type} : (shape : Shape α) → shape.Unambiguous → shape.Reads
  | .natural, _ => fun value _ _ spelled delimited => by
      rw [Shape.Spelled] at spelled
      subst spelled
      exact readNatural_digits value delimited
  | .text, _ => fun _ _ _ spelled _ => readTextAs_of_quotes spelled _
  | .flag, _ => fun value _ _ spelled _ => by
      rw [Shape.Spelled] at spelled
      subst spelled
      exact readFlag_append value
  | .date, _ => fun _ _ _ spelled _ => readDate_of_quotes spelled
  | .choice _, _ => fun _ _ _ spelled _ => readChoice_of_spellsName spelled
  | .optional shape, unambiguous => (shape.reads unambiguous.2).optional unambiguous.1
  | .list item, unambiguous => (item.reads unambiguous).list
  | .record name fields pack unpack pack_unpack, unambiguous =>
      (fields.reads unambiguous).record unambiguous name pack unpack pack_unpack

theorem Fields.reads {β : Type} : (fields : Fields β) → fields.Unambiguous → fields.Reads
  | .nil, _ => trivial
  | .cons _ _ shape rest, unambiguous =>
      ⟨shape.reads unambiguous.2.1, rest.reads unambiguous.2.2⟩

end

theorem Shape.readAll_of_spelled
    {shape : Shape α} (unambiguous : shape.Unambiguous) {value : α} {before text after : List Char}
    (spacesBefore : IsSpaces before) (spelled : shape.Spelled value text)
    (spacesAfter : IsSpaces after) :
    shape.readAll (before ++ (text ++ after)) = .ok value := by
  have read := shape.reads unambiguous spelled (delimited_of_spaces spacesAfter)
  rw [Shape.readAll, shape.read_append_spaces spacesBefore, read]
  simp [dropSpace_of_spaces spacesAfter]

end LetterPacks.Json
