import LetterPacks.Proofs.Json.Spelling

/-!
# What is written is a spelling

Both written forms of a value, the one without white space and the one on many lines, are spellings
of it.  They differ only in the white space between their parts, so `Writes` says what a written
form has to look like and the spellings are followed through once for both.
-/

namespace LetterPacks.Json

def writtenEntry (gap : List Char) (name : String) (value : List Char) : Entry :=
  ⟨name.toList.flatMap escapedChar, [], gap, value⟩

/-- What the written form of each kind of value looks like on any level. -/
structure Writes (write : Nat → Json → List Char) : Prop where
  null (level : Nat) : write level .null = ['n', 'u', 'l', 'l']
  boolean (level : Nat) (value : Bool) :
    write level (.boolean value) = (if value then "true" else "false").toList
  natural (level value : Nat) : write level (.natural value) = Number.digits value
  text (level : Nat) (value : String) : write level (.text value) = quotedChars value
  list (level : Nat) (items : List Json) :
    Bracket.list.Encloses (items.map (write (level + 1))) (write level (.list items))
  record (level : Nat) (members : List (String × Json)) :
    ∃ gap, IsSpaces gap ∧
      Bracket.record.Encloses
        (members.map fun member =>
          (writtenEntry gap member.1 (write (level + 1) member.2)).chars)
        (write level (.record members))

section

variable {α : Type} {chars : α → List Char} {before after : List Char} {bracket : Bracket}

private theorem exists_continued
    {more : List α → List Char} (spacesBefore : IsSpaces before) (spacesAfter : IsSpaces after)
    (nil : more [] = after ++ [bracket.closing])
    (cons : ∀ part parts, more (part :: parts) = ',' :: (before ++ (chars part ++ more parts)))
    (parts : List α) :
    ∃ text, Continued (parts.map chars) text ∧ more parts = text ++ [bracket.closing] := by
  induction parts with
  | nil =>
      exact ⟨after, .done spacesAfter, nil⟩
  | cons part parts ih =>
      obtain ⟨text, continued, written⟩ := ih
      refine ⟨_, .more isSpaces_nil spacesBefore continued, ?_⟩
      simp [cons, written]

private theorem encloses_of_more
    (all more : List α → List Char) (spacesBefore : IsSpaces before) (spacesAfter : IsSpaces after)
    (moreNil : more [] = after ++ [bracket.closing])
    (moreCons : ∀ part parts, more (part :: parts) = ',' :: (before ++ (chars part ++ more parts)))
    (allNil : all [] = [bracket.opening, bracket.closing])
    (allCons : ∀ part parts,
      all (part :: parts) = bracket.opening :: (before ++ (chars part ++ more parts)))
    (parts : List α) : bracket.Encloses (parts.map chars) (all parts) := by
  cases parts with
  | nil =>
      exact ⟨[], .empty isSpaces_nil, allNil⟩
  | cons part parts =>
      obtain ⟨text, continued, written⟩ :=
        exists_continued spacesBefore spacesAfter moreNil moreCons parts
      refine ⟨_, .parts spacesBefore continued, ?_⟩
      simp [allCons, written, Bracket.enclose]

end

theorem writes_compactChars : Writes fun _ => compactChars where
  null _ := by simp [compactChars]
  boolean _ _ := by simp [compactChars]
  natural _ _ := by simp [compactChars]
  text _ _ := by simp [compactChars]
  list _ items := by
    refine encloses_of_more (fun items => compactChars (.list items)) compactMoreItems
      isSpaces_nil isSpaces_nil ?_ (fun _ _ => ?_) ?_ (fun _ _ => ?_) items <;>
      simp [compactChars, compactItems, compactMoreItems, Bracket.opening, Bracket.closing]
  record _ members := by
    refine ⟨[], isSpaces_nil, encloses_of_more
      (fun members => compactChars (.record members)) compactMoreMembers
      isSpaces_nil isSpaces_nil ?_ (fun _ _ => ?_) ?_ (fun _ _ => ?_) members⟩ <;>
      simp [compactChars, compactMembers, compactMoreMembers, quotedChars, writtenEntry,
        Entry.chars, Bracket.opening, Bracket.closing]

theorem isSpaces_lineStart (level : Nat) : IsSpaces (lineStart level) := by
  intro character mem
  rcases List.mem_cons.1 mem with rfl | blank
  · decide
  · obtain ⟨_, rfl⟩ := List.mem_replicate.1 blank
    decide

theorem isSpaces_blank : IsSpaces [' '] := by
  intro character mem
  obtain rfl := List.mem_singleton.1 mem
  decide

theorem writes_prettyChars : Writes prettyChars where
  null _ := by simp [prettyChars]
  boolean _ _ := by simp [prettyChars]
  natural _ _ := by simp [prettyChars]
  text _ _ := by simp [prettyChars]
  list level items := by
    refine encloses_of_more (fun items => prettyChars level (.list items)) (prettyMoreItems level)
      (isSpaces_lineStart (level + 1)) (isSpaces_lineStart level)
      ?_ (fun _ _ => ?_) ?_ (fun _ _ => ?_) items <;>
      simp [prettyChars, prettyMoreItems, Bracket.opening, Bracket.closing]
  record level members := by
    refine ⟨[' '], isSpaces_blank, encloses_of_more
      (fun members => prettyChars level (.record members)) (prettyMoreMembers level)
      (isSpaces_lineStart (level + 1)) (isSpaces_lineStart level)
      ?_ (fun _ _ => ?_) ?_ (fun _ _ => ?_) members⟩ <;>
      simp [prettyChars, prettyMoreMembers, quotedChars, writtenEntry, Entry.chars,
        Bracket.opening, Bracket.closing]

variable {write : Nat → Json → List Char}

theorem spellsRecord_of_entries
    {names : List String} {gap : List Char} (spaces : IsSpaces gap)
    {members shuffled : List Member} (foreign : List Member)
    (unwanted : ∀ member ∈ foreign, member.Foreign names)
    (shuffle : shuffled.Perm (members ++ foreign)) {written : List Char}
    (encloses : Bracket.record.Encloses
      (shuffled.map fun member => (writtenEntry gap member.name member.value).chars) written) :
    SpellsRecord names members written := by
  refine ⟨foreign, shuffled, _, unwanted, shuffle, ?_, encloses⟩
  rw [List.forall₂_map_right_iff, List.forall₂_same]
  exact fun member _ =>
    ⟨_, ⟨spells_flatMap_escapedChar _, isSpaces_nil, spaces⟩, rfl, rfl⟩

mutual

theorem Writes.spelled {α : Type} (writes : Writes write) :
    (shape : Shape α) → (level : Nat) → (value : α) →
      shape.Spelled value (write level (shape.toJson value))
  | .natural, level, value => writes.natural level value.toNat
  | .text, level, value => by
      rw [Shape.toJson, writes.text]
      exact quotes_quotedChars value
  | .flag, level, value => writes.boolean level value
  | .date, level, value => by
      rw [Shape.toJson, writes.text]
      exact quotes_quotedChars value.toText
  | .choice vocabulary, level, value => by
      rw [Shape.toJson, writes.text]
      exact .inl (quotes_quotedChars (vocabulary.name value))
  | .optional _, level, none => writes.null level
  | .optional shape, level, some value => by
      rw [Shape.Spelled]
      exact writes.spelled shape level value
  | .list item, level, values => by
      have encloses := writes.list level (values.map item.toJson)
      refine ⟨_, ?_, encloses⟩
      rw [List.map_map, List.forall₂_map_right_iff, List.forall₂_same]
      exact fun value _ => writes.spelled item (level + 1) value
  | .record _ fields _ unpack _, level, value => by
      obtain ⟨gap, spaces, encloses⟩ := writes.record level (fields.toMembers (unpack value))
      refine .inl ⟨_, writes.spelledMembers fields (level + 1) (unpack value),
        spellsRecord_of_entries spaces [] (fun _ none => absurd none List.not_mem_nil)
          (.of_eq (List.append_nil _).symm) ?_⟩
      rwa [List.map_map]

theorem Writes.spelledMembers {β : Type} (writes : Writes write) :
    (fields : Fields β) → (level : Nat) → (values : β) →
      fields.Spelled values
        ((fields.toMembers values).map fun member => ⟨member.1, write level member.2⟩)
  | .nil, _, _ => rfl
  | .cons _ _ shape rest, level, values =>
      .inr ⟨_, _, rfl, writes.spelled shape level values.1,
        writes.spelledMembers rest level values.2⟩

end

end LetterPacks.Json
