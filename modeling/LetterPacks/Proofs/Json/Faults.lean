import LetterPacks.Proofs.Json.Locality
import LetterPacks.Proofs.Json.Places
import LetterPacks.Proofs.Json.SpellingRead

/-!
# Faults deep inside a text

A text is read up to the first fault, wherever that lies.  The members in front of it are read and
noted, so that a member that comes again is told from one that is missing, and no matter what stands
behind the fault it is the one that is reported (`Place.fails`).
-/

namespace LetterPacks.Json

variable {α β : Type}

def Shape.Fails (shape : Shape α) (text : List Char) (fault : Fault) : Prop :=
  ∀ rest, shape.read (text ++ rest) = .error fault

def Fields.isNoted {β : Type} : (fields : Fields β) → fields.Slots → String → Bool
  | .nil, _, _ => false
  | .cons known _ _ rest, slots, name =>
      if known = name then slots.1.isSome else rest.isNoted slots.2 name

private theorem Fields.readMember_of_noted {β : Type} :
    (fields : Fields β) → {slots : fields.Slots} → {name : String} →
      fields.isNoted slots name = true → (source : List Char) →
      fields.readMember slots name source = .error (.unsuitable (.duplicateMember name))
  | .nil, _, _, noted, _ => by cases noted
  | .cons known _ _ others, slots, name, noted, source => by
      rw [Fields.isNoted] at noted
      rw [Fields.readMember]
      by_cases same : known = name
      · rw [if_pos same] at noted
        rw [if_pos same, if_pos noted]
      · rw [if_neg same] at noted
        rw [if_neg same, others.readMember_of_noted noted]
        rfl

private theorem Fields.isNoted_of_readMember {β : Type} :
    (fields : Fields β) → {slots noted : fields.Slots} → {name : String} →
      {source rest : List Char} → fields.readMember slots name source = .ok (noted, rest) →
      {other : String} →
      other = name ∧ name ∈ fields.names ∨ fields.isNoted slots other = true →
      fields.isNoted noted other = true
  | .nil, _, _, _, _, _, _, _, before => by
      rcases before with ⟨_, known⟩ | noted
      · cases known
      · cases noted
  | .cons known _ shape others, slots, noted, name, source, rest, read, other, before => by
      rw [Fields.readMember] at read
      rw [Fields.isNoted] at before ⊢
      by_cases same : known = name
      · rw [if_pos same] at read
        split at read
        · cases read
        · obtain ⟨_, _, read⟩ := exists_of_bind_eq_ok read
          obtain ⟨_, _, read⟩ := exists_of_bind_eq_ok read
          cases read
          by_cases own : known = other
          · rw [if_pos own]
            rfl
          · rw [if_neg own] at before ⊢
            rcases before with ⟨rfl, _⟩ | before
            · exact absurd same own
            · exact before
      · rw [if_neg same] at read
        obtain ⟨⟨later, _⟩, readLater, read⟩ := exists_of_bind_eq_ok read
        cases read
        by_cases own : known = other
        · rw [if_pos own] at before ⊢
          rcases before with ⟨rfl, _⟩ | before
          · exact absurd own same
          · exact before
        · rw [if_neg own] at before ⊢
          refine others.isNoted_of_readMember readLater ?_
          rcases before with ⟨rfl, known⟩ | before
          · exact .inl ⟨rfl, (List.mem_cons.1 known).resolve_left (Ne.symm same)⟩
          · exact .inr before

private theorem Fields.readMembers_of_front
    {fields : Fields β} (reads : fields.Reads) {front : List Member}
    {parts others : List (List Char)} (written : List.Forall₂ Member.Written front parts)
    {isFirst : Bool} {text : List Char} (following : Following isFirst (parts ++ others) text)
    {slots : fields.Slots} {values : β} {back : List Member}
    (awaits : fields.Awaits slots values (front ++ back)) (fuel : Nat) (rest : List Char) :
    ∃ noted isNext later, Following isNext others later ∧ fields.Awaits noted values back ∧
      (∀ name, (∃ member ∈ front, member.name = name) ∧ name ∈ fields.names ∨
        fields.isNoted slots name = true → fields.isNoted noted name = true) ∧
      readMembers fields.readMember (parts.length + fuel) isFirst slots (text ++ '}' :: rest) =
        readMembers fields.readMember fuel isNext noted (later ++ '}' :: rest) := by
  induction written generalizing isFirst text slots with
  | nil =>
      refine ⟨slots, isFirst, text, following, awaits, ?_, by rw [List.length_nil, Nat.zero_add]⟩
      rintro name (⟨⟨_, none, _⟩, _⟩ | noted)
      · cases none
      · exact noted
  | @cons member part front parts writtenMember _ ih =>
      obtain ⟨entry, ⟨named, spaced⟩, sameValue, rfl⟩ := writtenMember
      obtain ⟨after, continued, next⟩ := nextName_of_following following named ('}' :: rest)
      have delimited : Delimited (after ++ '}' :: rest) := continued.delimited .record rest
      rw [List.cons_append, show member = ⟨member.name, entry.value⟩ by rw [sameValue]] at awaits
      obtain ⟨slots', readMember, awaits⟩ :=
        fields.readMember_of_awaits reads awaits spaced delimited
      have behind : Following false (parts ++ others) after := continued
      obtain ⟨noted, isNext, later, following, awaits, notes, read⟩ := ih behind awaits
      refine ⟨noted, isNext, later, following, awaits, ?_, ?_⟩
      · rintro name (⟨⟨found, listed, rfl⟩, known⟩ | before)
        · rcases List.mem_cons.1 listed with rfl | listed
          · exact notes _ (.inr (fields.isNoted_of_readMember readMember (.inl ⟨rfl, known⟩)))
          · exact notes _ (.inl ⟨⟨found, listed, rfl⟩, known⟩)
        · exact notes _ (.inr (fields.isNoted_of_readMember readMember (.inr before)))
      · rw [List.length_cons, Nat.add_right_comm, readMembers]
        simp only [next, bind, Except.bind, readMember, read]

private theorem Fields.mem_names_of_mem_requiredNames {β : Type} :
    (fields : Fields β) → {name : String} → name ∈ fields.requiredNames → name ∈ fields.names
  | .nil, _, required => by cases required
  | .cons _ none _ others, _, required => by
      rcases List.mem_cons.1 required with rfl | required
      · exact List.mem_cons_self
      · exact List.mem_cons_of_mem _ (others.mem_names_of_mem_requiredNames required)
  | .cons _ (some _) _ others, _, required =>
      List.mem_cons_of_mem _ (others.mem_names_of_mem_requiredNames required)

private theorem Fields.mem_requiredNames_of_ne
    {name other : String} {absent : Option α} {shape : Shape α} {others : Fields β}
    (required : other ∈ (Fields.cons name absent shape others).requiredNames)
    (apart : other ≠ name) : other ∈ others.requiredNames := by
  cases absent with
  | none => exact (List.mem_cons.1 required).resolve_left apart
  | some value => exact required

private theorem Shape.unnoted_of_awaits
    {shape : Shape α} {absent noted : Option α} {value : α} {own : List Member}
    (awaits : shape.Awaits absent noted value own) (coming : own ≠ []) : noted = none := by
  cases noted with
  | none => rfl
  | some found => exact absurd awaits.2 coming

private theorem Shape.settled_of_awaits
    {shape : Shape α} {absent noted : Option α} {value : α}
    (awaits : shape.Awaits absent noted value []) :
    noted = some value ∨ noted = none ∧ absent = some value := by
  cases noted with
  | some found => exact .inl (congrArg some awaits.1)
  | none =>
      rcases awaits with ⟨absentValue, _⟩ | ⟨_, only, _⟩
      · exact .inr ⟨rfl, absentValue⟩
      · cases only

private theorem Fields.close_of_settled
    {name : String} {absent : Option α} {shape : Shape α} {others : Fields β}
    {slots : (Fields.cons name absent shape others).Slots} {value : α} {fault : Fault}
    (awaits : shape.Awaits absent slots.1 value []) (failed : others.close slots.2 = .error fault) :
    (Fields.cons name absent shape others).close slots = .error fault := by
  rcases Shape.settled_of_awaits awaits with noted | ⟨unnoted, absentValue⟩
  · simp [Fields.close, noted, failed, bind, Except.bind]
  · simp [Fields.close, unnoted, absentValue, failed, bind, Except.bind]

private theorem Fields.close_of_missing {β : Type} {missing : String → Bool} {first : String} :
    (fields : Fields β) → fields.Unambiguous → {slots : fields.Slots} → {values : β} →
      {left : List Member} → fields.Awaits slots values left →
      (∀ member ∈ left, member.name ∈ fields.requiredNames) →
      (∀ name ∈ fields.requiredNames, missing name = true ↔ ∃ member ∈ left, member.name = name) →
      fields.requiredNames.find? missing = some first →
      fields.close slots = .error (.unsuitable (.missingMember first))
  | .nil, _, _, _, _, _, _, _, found => by cases found
  | .cons name absent shape others, unambiguous, slots, values, left, awaits, required, misses,
      found => by
      obtain ⟨own, awaits⟩ := awaits
      by_cases gone : ∃ member ∈ left, member.name = name
      · obtain ⟨member, listed, rfl⟩ := gone
        cases absent with
        | some value =>
            have known := others.mem_names_of_mem_requiredNames (required member listed)
            exact absurd known unambiguous.1
        | none =>
            have lost := (misses member.name List.mem_cons_self).2 ⟨member, listed, rfl⟩
            rw [Fields.requiredNames, List.find?_cons_of_pos lost] at found
            obtain rfl := Option.some.inj found
            have unnoted := Shape.unnoted_of_awaits own
              (List.ne_nil_of_mem (List.mem_filter.2 ⟨listed, decide_eq_true rfl⟩))
            simp [Fields.close, unnoted, bind, Except.bind]
      · have apart : ∀ member ∈ left, member.name ≠ name := fun member listed same =>
          gone ⟨member, listed, same⟩
        rw [(filter_name_of_apart apart).1] at own
        rw [(filter_name_of_apart apart).2] at awaits
        have requiredBehind : ∀ member ∈ left, member.name ∈ others.requiredNames :=
          fun member listed => mem_requiredNames_of_ne (required member listed)
            (apart member listed)
        refine Fields.close_of_settled own ?_
        cases absent with
        | none =>
            have kept : ¬ missing name = true := fun lost =>
              gone ((misses name List.mem_cons_self).1 lost)
            rw [Fields.requiredNames, List.find?_cons_of_neg kept] at found
            exact others.close_of_missing unambiguous.2.2 awaits requiredBehind
              (fun other listed => misses other (List.mem_cons_of_mem _ listed)) found
        | some value =>
            exact others.close_of_missing unambiguous.2.2 awaits requiredBehind misses found

/-! ## Faults within a record -/

/-- Reading what stands between the brackets of a record fails in one way. -/
def Fields.FailsWithin (fields : Fields β) (inner : List Char) (fault : Fault) : Prop :=
  ∀ rest, (readMembers fields.readMember ((inner ++ '}' :: rest).length + 1) true fields.empty
    (inner ++ '}' :: rest) >>= fun read => fields.close read.1) = .error fault

private theorem Fields.FailsWithin.record
    {fields : Fields β} {inner : List Char} {fault : Fault} (fails : fields.FailsWithin inner fault)
    (owner : String) (pack : β → α) (unpack : α → β)
    (pack_unpack : ∀ value, pack (unpack value) = value) :
    (Shape.record owner fields pack unpack pack_unpack).Fails (Bracket.record.enclose inner)
      fault := by
  intro rest
  have shown : Bracket.record.enclose inner ++ rest = '{' :: (inner ++ '}' :: rest) :=
    Bracket.record.enclose_append inner rest
  have failed := fails rest
  rw [shown, Shape.read, dropSpace_cons (by decide)]
  cases read : readMembers fields.readMember ((inner ++ '}' :: rest).length + 1) true fields.empty
      (inner ++ '}' :: rest) with
  | error other =>
      rw [read] at failed
      obtain rfl : other = fault := Except.error.inj failed
      simp only [read, bind, Except.bind]
  | ok found =>
      rw [read] at failed
      have closed : fields.close found.1 = .error fault := failed
      simp only [read, bind, Except.bind, closed]

/-- The first members of a record are read, and the others are left to be read, with fuel enough for
all of them. -/
theorem Fields.readMembers_of_listed
    {fields : Fields β} (unambiguous : fields.Unambiguous) {front : List Member}
    {parts others : List (List Char)} (written : List.Forall₂ Member.Written front parts)
    {inner : List Char} (listed : Listed (parts ++ others) inner) {values : β}
    {back : List Member} (awaits : fields.Awaits fields.empty values (front ++ back))
    (rest : List Char) :
    ∃ noted isNext later fuel, Following isNext others later ∧ fields.Awaits noted values back ∧
      others.length ≤ fuel ∧
      (∀ member ∈ front, member.name ∈ fields.names →
        fields.isNoted noted member.name = true) ∧
      readMembers fields.readMember ((inner ++ '}' :: rest).length + 1) true fields.empty
          (inner ++ '}' :: rest) =
        readMembers fields.readMember (fuel + 1) isNext noted (later ++ '}' :: rest) := by
  have following : Following true (parts ++ others) inner := listed
  obtain ⟨fuel, same, enough⟩ : ∃ fuel,
      (inner ++ '}' :: rest).length + 1 = parts.length + (fuel + 1) ∧ others.length ≤ fuel := by
    have shorter := following.length_le
    refine ⟨(inner ++ '}' :: rest).length - parts.length, ?_⟩
    simp only [List.length_append, List.length_cons] at shorter ⊢
    omega
  obtain ⟨noted, isNext, later, following, awaits, notes, read⟩ :=
    Fields.readMembers_of_front (fields.reads unambiguous) written following awaits (fuel + 1) rest
  refine ⟨noted, isNext, later, fuel, following, awaits, enough, ?_, ?_⟩
  · exact fun member listed known => notes _ (.inl ⟨⟨member, listed, rfl⟩, known⟩)
  · rw [same, read]

private theorem Fields.failsWithin_of_missing
    {fields : Fields β} (unambiguous : fields.Unambiguous) {front left : List Member}
    {parts : List (List Char)} (written : List.Forall₂ Member.Written front parts)
    {inner : List Char} (listed : Listed parts inner) {values : β}
    (awaits : fields.Awaits fields.empty values (front ++ left)) {missing : String → Bool}
    (required : ∀ member ∈ left, member.name ∈ fields.requiredNames)
    (misses : ∀ name ∈ fields.requiredNames,
      missing name = true ↔ ∃ member ∈ left, member.name = name) {first : String}
    (found : fields.requiredNames.find? missing = some first) :
    fields.FailsWithin inner (.unsuitable (.missingMember first)) := by
  intro rest
  rw [← List.append_nil parts] at listed
  obtain ⟨noted, isNext, later, fuel, following, awaits, _, _, read⟩ :=
    fields.readMembers_of_listed unambiguous written listed awaits rest
  rw [read, readMembers_of_spaces following.spaces]
  exact fields.close_of_missing unambiguous awaits required misses found

private theorem Fields.failsWithin_of_repeated
    {fields : Fields β} (unambiguous : fields.Unambiguous) {front back : List Member}
    {parts others : List (List Char)} (written : List.Forall₂ Member.Written front parts)
    {entry : Entry} {inner : List Char} (listed : Listed (parts ++ entry.chars :: others) inner)
    {values : β} (awaits : fields.Awaits fields.empty values (front ++ back)) {member : Member}
    (first : member ∈ front) (known : member.name ∈ fields.names)
    (named : Spells member.name.toList entry.name) :
    fields.FailsWithin inner (.unsuitable (.duplicateMember member.name)) := by
  intro rest
  obtain ⟨noted, isNext, later, fuel, following, _, _, notes, read⟩ :=
    fields.readMembers_of_listed unambiguous written listed awaits rest
  obtain ⟨after, _, next⟩ := nextName_of_following following named ('}' :: rest)
  rw [read]
  simp only [readMembers, next, bind, Except.bind,
    fields.readMember_of_noted (notes member first known)]

theorem Fields.Splits.mem_names
    {name : String} {shape : Shape α} {value : α} {fields : Fields β} {values : β}
    {front back : List (String × Json)}
    (splits : Splits name shape value fields values front back) : name ∈ fields.names := by
  induction splits with
  | here => exact List.mem_cons_self
  | later _ ih => exact List.mem_cons_of_mem _ ih

/-- An awaited member is read by its shape, whatever text it has, and what is read is noted. -/
theorem Fields.Splits.exists_note
    {name : String} {shape : Shape α} {value : α} {fields : Fields β} {values : β}
    {front back : List (String × Json)}
    (splits : Splits name shape value fields values front back)
    (unambiguous : fields.Unambiguous) {slots : fields.Slots} {written : List Char}
    {members : List Member} (awaits : fields.Awaits slots values (⟨name, written⟩ :: members)) :
    ∃ note : α → fields.Slots, fields.Awaits (note value) values members ∧ ∀ source,
      fields.readMember slots name source = (do
        let source ← readColon source
        let (found, source) ← shape.read source
        .ok (note found, source)) := by
  induction splits generalizing members with
  | here =>
      obtain ⟨own, awaits⟩ := awaits
      rw [List.filter_cons_of_pos (by simp)] at own
      rw [List.filter_cons_of_neg (by simp)] at awaits
      obtain ⟨unnoted, noOther, _⟩ := Shape.awaits_cons own
      refine ⟨fun found => (some found, slots.2), ⟨⟨rfl, noOther⟩, awaits⟩, fun source => ?_⟩
      simp [Fields.readMember, unnoted]
  | @later _ _ other _ _ _ _ _ _ _ behind ih =>
      obtain ⟨own, awaits⟩ := awaits
      have apart : other ≠ name := by
        rintro rfl
        exact unambiguous.1 behind.mem_names
      rw [List.filter_cons_of_pos (by simpa using apart.symm)] at awaits
      rw [List.filter_cons_of_neg (by simpa using apart.symm)] at own
      obtain ⟨note, awaits, read⟩ := ih unambiguous.2.2 awaits
      refine ⟨fun found => (slots.1, note found), ⟨own, awaits⟩, fun source => ?_⟩
      rw [Fields.readMember, if_neg apart, read]
      cases readColon source with
      | error fault => rfl
      | ok source =>
          simp only [bind, Except.bind]
          cases shape.read source <;> rfl

private theorem Fields.Splits.readMember_of_fails
    {name : String} {shape : Shape α} {value : α} {fields : Fields β} {values : β}
    {front back : List (String × Json)}
    (splits : Splits name shape value fields values front back)
    (unambiguous : fields.Unambiguous) {slots : fields.Slots} {written : List Char}
    {members : List Member} (awaits : fields.Awaits slots values (⟨name, written⟩ :: members))
    {entry : Entry} (spaced : entry.Spaced) {fault : Fault}
    (fails : shape.Fails entry.value fault) (rest : List Char) :
    fields.readMember slots name
      (entry.before ++ ':' :: (entry.behind ++ (entry.value ++ rest))) = .error fault := by
  obtain ⟨note, _, read⟩ := splits.exists_note unambiguous awaits
  simp only [read, readColon_append spaced.1, bind, Except.bind,
    shape.read_append_spaces spaced.2, fails rest]

private theorem Fields.Splits.failsWithin
    {name : String} {shape : Shape α} {value : α} {fields : Fields β} {values : β}
    {before behind : List (String × Json)}
    (splits : Splits name shape value fields values before behind)
    (unambiguous : fields.Unambiguous) {front back : List Member}
    {parts others : List (List Char)} (written : List.Forall₂ Member.Written front parts)
    {entry : Entry} {inner : List Char} (listed : Listed (parts ++ entry.chars :: others) inner)
    {text : List Char} (awaits : fields.Awaits fields.empty values (front ++ ⟨name, text⟩ :: back))
    (named : entry.Names name) {fault : Fault} (fails : shape.Fails entry.value fault) :
    fields.FailsWithin inner fault := by
  intro rest
  obtain ⟨noted, isNext, later, fuel, following, awaits, _, _, read⟩ :=
    fields.readMembers_of_listed unambiguous written listed awaits rest
  obtain ⟨after, _, next⟩ := nextName_of_following following named.1 ('}' :: rest)
  rw [read]
  simp only [readMembers, next, bind, Except.bind,
    splits.readMember_of_fails unambiguous awaits named.2 fails]

private theorem Shape.Fails.optional
    {shape : Shape α} {bracket : Bracket} {text : List Char} {fault : Fault}
    (fails : shape.Fails (bracket.opening :: text) fault) :
    (Shape.optional shape).Fails (bracket.opening :: text) fault := by
  intro rest
  have read := fails rest
  have printed : isSpace bracket.opening = false := by cases bracket <;> decide
  have notN : bracket.opening ≠ 'n' := by cases bracket <;> decide
  rw [List.cons_append] at read
  rw [Shape.read, List.cons_append, dropSpace_cons printed]
  simp [notN, read, Except.map]

private theorem readItems_of_fails
    {item : Shape α} (reads : item.Reads) {values : List α} {parts others : List (List Char)}
    (spelled : List.Forall₂ item.Spelled values parts) {part : List Char}
    (starts : StartsPart part) {fault : Fault} (fails : item.Fails part fault) {isFirst : Bool}
    {text : List Char} (following : Following isFirst (parts ++ part :: others) text) {fuel : Nat}
    (enough : parts.length < fuel) (before : List α) (rest : List Char) :
    readItems item.read fuel isFirst before (text ++ ']' :: rest) = .error fault := by
  induction spelled generalizing isFirst text fuel before with
  | nil =>
      obtain ⟨fuel, rfl⟩ := Nat.exists_eq_succ_of_ne_zero (Nat.ne_of_gt enough)
      obtain ⟨after, _, next⟩ := nextItem_of_following following starts (']' :: rest)
      simp only [readItems, next, bind, Except.bind, fails (after ++ ']' :: rest)]
  | @cons value own values parts spelledOwn _ ih =>
      obtain ⟨fuel, rfl⟩ := Nat.exists_eq_succ_of_ne_zero (Nat.ne_of_gt (Nat.zero_lt_of_lt enough))
      obtain ⟨after, continued, next⟩ := nextItem_of_following following
        (item.startsPart_of_spelled spelledOwn) (']' :: rest)
      have behind : Following false (parts ++ part :: others) after := continued
      have delimited : Delimited (after ++ ']' :: rest) := continued.delimited .list rest
      simp only [readItems, next, bind, Except.bind, reads spelledOwn delimited,
        ih behind (Nat.lt_of_succ_lt_succ enough)]

private theorem Shape.Fails.list
    {item : Shape α} (reads : item.Reads) {values : List α} {parts others : List (List Char)}
    (spelled : List.Forall₂ item.Spelled values parts) {part : List Char}
    (starts : StartsPart part) {fault : Fault} (fails : item.Fails part fault) {inner : List Char}
    (listed : Listed (parts ++ part :: others) inner) :
    (Shape.list item).Fails (Bracket.list.enclose inner) fault := by
  intro rest
  have following : Following true (parts ++ part :: others) inner := listed
  have enough : parts.length < (inner ++ ']' :: rest).length + 1 := by
    have shorter := following.length_le
    simp only [List.length_append, List.length_cons] at shorter ⊢
    omega
  have read := readItems_of_fails reads spelled starts fails following enough [] rest
  have shown : Bracket.list.enclose inner ++ rest = '[' :: (inner ++ ']' :: rest) :=
    Bracket.list.enclose_append inner rest
  rw [shown, Shape.read, dropSpace_cons (by decide)]
  simp only [read, bind, Except.bind]

namespace Form

def spelled (form : Form) (level : Nat) (members : List (String × Json)) : List Member :=
  members.map fun member => ⟨member.1, form.chars (level + 1) member.2⟩

theorem spelled_append (form : Form) (level : Nat) (front back : List (String × Json)) :
    form.spelled level (front ++ back) = form.spelled level front ++ form.spelled level back :=
  List.map_append

theorem names_writtenEntry (form : Form) (name : String) (value : List Char) :
    (writtenEntry form.gap name value).Names name :=
  ⟨spells_flatMap_escapedChar _, isSpaces_nil, form.isSpaces_gap⟩

theorem written_members (form : Form) (level : Nat) (members : List (String × Json)) :
    List.Forall₂ Member.Written (form.spelled level members) (form.members level members) := by
  rw [spelled, Form.members, List.forall₂_map_left_iff, List.forall₂_map_right_iff,
    List.forall₂_same]
  exact fun member _ => ⟨_, form.names_writtenEntry _ _, rfl, rfl⟩

theorem spelled_items (form : Form) (level : Nat) (item : Shape α) (values : List α) :
    List.Forall₂ item.Spelled values (form.items level (values.map item.toJson)) := by
  rw [items, List.map_map, List.forall₂_map_right_iff, List.forall₂_same]
  exact fun value _ => form.writes_chars.spelled item (level + 1) value

/-- Before a record is read, its written members are to come, in whatever order. -/
theorem awaits_spelled
    (form : Form) (level : Nat) {fields : Fields β} (unambiguous : fields.Unambiguous) {values : β}
    {members : List (String × Json)} (shuffle : members.Perm (fields.toMembers values)) :
    fields.Awaits fields.empty values (form.spelled level members) := by
  have all := form.writes_chars.spelledMembers fields (level + 1) values
  have foreign : ∀ member ∈ ([] : List Member), member.Foreign fields.names := by simp
  refine fields.awaits_empty unambiguous all foreign ?_
  rw [List.append_nil]
  exact shuffle.map _

end Form

private theorem Fields.exists_spelled_filter_iff
    (fields : Fields β) (form : Form) (level : Nat) (values : β) (picked : String → Bool)
    (name : String) :
    (∃ member ∈ form.spelled level ((fields.toMembers values).filter fun member => picked member.1),
        member.name = name) ↔ name ∈ fields.names ∧ picked name = true := by
  rw [← fields.names_toMembers values, List.mem_map]
  constructor
  · rintro ⟨_, listed, rfl⟩
    obtain ⟨member, kept, rfl⟩ := List.mem_map.1 listed
    obtain ⟨own, chosen⟩ := List.mem_filter.1 kept
    exact ⟨⟨member, own, rfl⟩, chosen⟩
  · rintro ⟨⟨member, own, rfl⟩, chosen⟩
    exact ⟨_, List.mem_map_of_mem (List.mem_filter.2 ⟨own, chosen⟩), rfl⟩

theorem Fields.failsWithin_of_deleted
    {form : Form} {level : Nat} {fields : Fields β} {values : β}
    (unambiguous : fields.Unambiguous) {deleted : List String} {first : String}
    (required : deleted ⊆ fields.requiredNames)
    (found : fields.requiredNames.find? (fun name => name ∈ deleted) = some first)
    {inner : List Char}
    (listed : Listed (form.members level
      ((fields.toMembers values).filter fun member => member.1 ∉ deleted)) inner) :
    fields.FailsWithin inner (.unsuitable (.missingMember first)) := by
  have shuffle := List.filter_append_perm (fun member => decide (member.1 ∉ deleted))
    (fields.toMembers values)
  have awaits := form.awaits_spelled level unambiguous shuffle
  rw [Form.spelled_append] at awaits
  have left (name : String) := fields.exists_spelled_filter_iff form level values
    (fun name => !decide (name ∉ deleted)) name
  refine Fields.failsWithin_of_missing unambiguous (form.written_members level _) listed awaits
    (fun member listed => ?_) (fun name listed => ?_) found
  · obtain ⟨_, lost⟩ := (left member.name).1 ⟨member, listed, rfl⟩
    exact required (by simpa using lost)
  · have known := fields.mem_names_of_mem_requiredNames listed
    rw [left name]
    simp [known]

theorem Fields.failsWithin_of_inserted
    {form : Form} {level : Nat} {fields : Fields β} {values : β}
    (unambiguous : fields.Unambiguous) {front back : List (String × Json)}
    (all : front ++ back = fields.toMembers values) {name : String}
    (before : name ∈ front.map Prod.fst) {entry : Entry} (named : entry.Names name)
    {inner : List Char}
    (listed : Listed (form.members level front ++ entry.chars :: form.members level back) inner) :
    fields.FailsWithin inner (.unsuitable (.duplicateMember name)) := by
  have awaits := form.awaits_spelled level unambiguous (List.Perm.of_eq all)
  rw [Form.spelled_append] at awaits
  obtain ⟨member, first, rfl⟩ := List.mem_map.1 before
  have known : member.1 ∈ fields.names := by
    rw [← fields.names_toMembers values, ← all]
    exact List.mem_map_of_mem (List.mem_append_left back first)
  exact failsWithin_of_repeated unambiguous (form.written_members level front) listed awaits
    (List.mem_map_of_mem first) known named.1

private theorem Fields.Splits.unambiguous
    {name : String} {shape : Shape α} {value : α} {fields : Fields β} {values : β}
    {front back : List (String × Json)}
    (splits : Splits name shape value fields values front back)
    (unambiguous : fields.Unambiguous) : shape.Unambiguous := by
  induction splits with
  | here => exact unambiguous.2.1
  | later _ ih => exact ih unambiguous.2.2

namespace Place

variable {form : Form} {fields : Fields β} {values : β} {depth level : Nat} {shape : Shape α}
  {value : α} {around : List Char → List Char}

theorem unambiguous
    (place : Place form fields values depth shape value level around)
    (unambiguous : shape.Unambiguous) : fields.Unambiguous := by
  induction place with
  | here => exact unambiguous
  | optional _ ih => exact ih unambiguous.2
  | item _ ih => exact ih unambiguous
  | member splits _ ih => exact ih (splits.unambiguous unambiguous)

private theorem exists_opening
    (place : Place form fields values depth shape value level around) (inner : List Char) :
    ∃ (bracket : Bracket) (rest : List Char),
      around (Bracket.record.enclose inner) = bracket.opening :: rest := by
  induction place with
  | here _ => exact ⟨.record, _, rfl⟩
  | optional _ ih => exact ih
  | item _ _ =>
      obtain ⟨_, _, same⟩ := form.encloses_enclose .list _ _
      exact ⟨.list, _, same⟩
  | member _ _ _ =>
      obtain ⟨_, _, same⟩ := form.encloses_enclose .record _ _
      exact ⟨.record, _, same⟩

theorem fails
    (place : Place form fields values depth shape value level around)
    (unambiguous : shape.Unambiguous) {inner : List Char} {fault : Fault}
    (failsWithin : fields.FailsWithin inner fault) :
    shape.Fails (around (Bracket.record.enclose inner)) fault := by
  -- Outwards along the place: each layer reads what it has in front of the fault, and then fails.
  induction place with
  | here _ => exact failsWithin.record _ _ _ _
  | optional inside ih =>
      obtain ⟨bracket, rest, same⟩ := inside.exists_opening inner
      rw [same] at ih ⊢
      exact (ih unambiguous.2).optional
  | @item _ item before after value level around inside ih =>
      obtain ⟨text, listed, same⟩ := form.encloses_enclose .list level
        (form.items level (before.map item.toJson) ++
          around (Bracket.record.enclose inner) :: form.items level (after.map item.toJson))
      have starts : StartsPart (around (Bracket.record.enclose inner)) := by
        obtain ⟨bracket, rest, opened⟩ := inside.exists_opening inner
        exact ⟨_, rest, opened, by cases bracket <;> decide⟩
      dsimp only
      rw [same]
      exact Shape.Fails.list (item.reads unambiguous) (form.spelled_items level item before) starts
        (ih unambiguous) listed
  | @member _ _ _ _ others _ _ _ whole name shape value front back level around splits inside ih =>
      obtain ⟨text, listed, same⟩ := form.encloses_enclose .record level
        (form.members level front ++
          form.member name (around (Bracket.record.enclose inner)) :: form.members level back)
      have awaits :=
        form.awaits_spelled level unambiguous (List.Perm.of_eq splits.toMembers_eq.symm)
      rw [Form.spelled_append] at awaits
      dsimp only
      rw [same]
      exact (splits.failsWithin unambiguous (form.written_members level front) listed awaits
        (form.names_writtenEntry _ _) (ih (splits.unambiguous unambiguous))).record _ _ _ _

end Place

end LetterPacks.Json
