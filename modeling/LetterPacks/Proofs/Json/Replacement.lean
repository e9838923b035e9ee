import LetterPacks.Proofs.Json.Faults

/-!
# Replaced members

In a written record a member may be replaced by anything that the shape of the member reads.  The
record is then read with the value of the new member and with the others as they were, and so is
every record around it (`Shape.Takes.replace`).
-/

namespace LetterPacks.Json

/-- A value with another one in the place of the member at the end of a path of names. -/
def replace (new : Json) : List String → Json → Json
  | [], _ => new
  | name :: path, .record members =>
      .record (members.map fun member =>
        if member.1 = name then (name, replace new path member.2) else member)
  | _ :: _, other => other

variable {α β γ : Type}

/-- What is written of some JSON value is read as a value of a shape, in either form and on every
level. -/
def Shape.Takes (shape : Shape α) (json : Json) (value : α) : Prop :=
  ∀ (form : Form) (level : Nat) ⦃rest : List Char⦄, Delimited rest →
    shape.read (form.chars level json ++ rest) = .ok (value, rest)

theorem Shape.Takes.readAll
    {shape : Shape α} {json : Json} {value : α} (takes : shape.Takes json value) (form : Form) :
    shape.readAll (form.text json).toList = .ok value := by
  have read := takes form 0 (delimited_of_spaces isSpaces_nil)
  rw [List.append_nil] at read
  rw [Shape.readAll, Form.text, String.toList_ofList, read]
  rfl

theorem takes_date {text : String} {date : Date} (read : Date.ofCaseText text = .ok date) :
    Shape.date.Takes (.text text) date := by
  intro form level rest _
  rw [form.writes_chars.text, Shape.read]
  exact readDate_of_ofCaseText (quotes_quotedChars text) read

private theorem Form.exists_first
    (form : Form) (level : Nat) {json : Json} (something : json ≠ .null) :
    ∃ first rest, form.chars level json = first :: rest ∧ isSpace first = false ∧ first ≠ 'n' := by
  cases json with
  | null => cases something rfl
  | boolean value =>
      rw [form.writes_chars.boolean]
      cases value <;> exact ⟨_, _, rfl, by decide, by decide⟩
  | natural value =>
      rw [form.writes_chars.natural]
      obtain ⟨first, run, written⟩ := List.exists_cons_of_ne_nil (Number.digits_ne_nil value)
      have digit : first.isDigit = true :=
        Number.isDigit_of_mem_digits (written ▸ List.mem_cons_self)
      refine ⟨first, run, written, (not_space_of_isDigit digit).1, ?_⟩
      rintro rfl
      cases digit
  | text value =>
      rw [form.writes_chars.text]
      exact ⟨'"', _, rfl, by decide, by decide⟩
  | list items =>
      obtain ⟨inner, _, same⟩ := form.writes_chars.list level items
      exact ⟨'[', _, same, by decide, by decide⟩
  | record members =>
      obtain ⟨_, _, inner, _, same⟩ := form.writes_chars.record level members
      exact ⟨'{', _, same, by decide, by decide⟩

theorem Shape.Takes.optional
    {shape : Shape α} {json : Json} {value : α} (takes : shape.Takes json value)
    (something : json ≠ .null) : (Shape.optional shape).Takes json (some value) := by
  intro form level rest delimited
  have read := takes form level delimited
  obtain ⟨first, others, written, printed, notN⟩ := form.exists_first level something
  rw [written, List.cons_append] at read ⊢
  rw [Shape.read, dropSpace_cons printed]
  simp [notN, read, Except.map]

namespace Fields.Splits

variable {name : String} {shape : Shape α} {value : α} {fields : Fields β} {values : β}
  {front back : List (String × Json)}

private theorem readMember_of_reads
    (splits : Splits name shape value fields values front back)
    (unambiguous : fields.Unambiguous) {slots : fields.Slots} {awaited : List Char}
    {members : List Member} (awaits : fields.Awaits slots values (⟨name, awaited⟩ :: members))
    {entry : Entry} (spaced : entry.Spaced)
    (reads : ∀ rest, Delimited rest → shape.read (entry.value ++ rest) = .ok (value, rest)) :
    ∃ noted, fields.Awaits noted values members ∧ ∀ rest, Delimited rest →
      fields.readMember slots name
          (entry.before ++ ':' :: (entry.behind ++ (entry.value ++ rest))) = .ok (noted, rest) := by
  obtain ⟨note, awaits, read⟩ := splits.exists_note unambiguous awaits
  refine ⟨note value, awaits, fun rest delimited => ?_⟩
  simp only [read, readColon_append spaced.1, bind, Except.bind,
    shape.read_append_spaces spaced.2, reads rest delimited]

private theorem readMembers_of_reads
    (splits : Splits name shape value fields values front back)
    (unambiguous : fields.Unambiguous) (form : Form) (level : Nat) {entry : Entry}
    (named : entry.Names name)
    (reads : ∀ rest, Delimited rest → shape.read (entry.value ++ rest) = .ok (value, rest))
    {inner : List Char}
    (listed : Listed (form.members level front ++ entry.chars :: form.members level back) inner)
    (rest : List Char) :
    ∃ noted space, IsSpaces space ∧ fields.close noted = .ok values ∧
      readMembers fields.readMember ((inner ++ '}' :: rest).length + 1) true fields.empty
        (inner ++ '}' :: rest) = .ok (noted, space ++ '}' :: rest) := by
  have awaits := form.awaits_spelled level unambiguous (List.Perm.of_eq splits.toMembers_eq.symm)
  rw [Form.spelled_append] at awaits
  obtain ⟨noted, isNext, later, fuel, following, awaits, enough, _, read⟩ :=
    fields.readMembers_of_listed unambiguous (form.written_members level front) listed awaits rest
  obtain ⟨noted, awaits, readMember⟩ :=
    splits.readMember_of_reads unambiguous awaits named.2 reads
  have readEntry (after : List Char) (delimited : Delimited (after ++ '}' :: rest)) :
      ∃ space, IsSpaces space ∧ fields.readMember _ name (entry.before ++ ':' ::
          (entry.behind ++ (entry.value ++ (after ++ '}' :: rest)))) =
        .ok (noted, space ++ (after ++ '}' :: rest)) :=
    ⟨[], isSpaces_nil, readMember _ delimited⟩
  obtain ⟨later, following, readNext⟩ := readMembers_of_entry following named readEntry fuel
  obtain ⟨noted, space, spaces, awaits, readRest⟩ :=
    Fields.readMembers_of_awaits (fields.reads unambiguous) (form.written_members level back)
      following enough awaits rest
  refine ⟨noted, space, spaces, fields.close_of_awaits awaits, ?_⟩
  rw [read, readNext, readRest]

private theorem takes
    {whole : γ} {unpack : γ → β} (splits : Splits name shape value fields (unpack whole) front back)
    (unambiguous : fields.Unambiguous) {json : Json} (takes : shape.Takes json value)
    (owner : String) (pack : β → γ) (pack_unpack : ∀ value, pack (unpack value) = value) :
    (Shape.record owner fields pack unpack pack_unpack).Takes
      (.record (front ++ (name, json) :: back)) whole := by
  intro form level rest _
  rw [Form.chars_record]
  obtain ⟨inner, listed, same⟩ := form.encloses_enclose .record level
    (form.members level (front ++ (name, json) :: back))
  rw [Form.members, List.map_append, List.map_cons] at listed
  obtain ⟨noted, space, spaces, closed, read⟩ := splits.readMembers_of_reads unambiguous form level
    (form.names_writtenEntry name (form.chars (level + 1) json))
    (fun _ delimited => takes form (level + 1) delimited) listed rest
  have shown : Bracket.record.enclose inner ++ rest = '{' :: (inner ++ '}' :: rest) :=
    Bracket.record.enclose_append inner rest
  rw [same, shown, Shape.read, dropSpace_cons (by decide)]
  simp only [read, bind, Except.bind, closed, readClosing_append spaces '}' (by decide),
    pack_unpack]

private theorem apart
    (splits : Splits name shape value fields values front back)
    (unambiguous : fields.Unambiguous) : ∀ member ∈ front ++ back, member.1 ≠ name := by
  induction splits with
  | @here _ _ rest others =>
      rintro member listed rfl
      have known : member.1 ∈ rest.names := by
        rw [← rest.names_toMembers others]
        exact List.mem_map_of_mem listed
      exact unambiguous.1 known
  | later behind ih =>
      rw [List.cons_append, List.forall_mem_cons]
      refine ⟨?_, ih unambiguous.2.2⟩
      rintro rfl
      exact unambiguous.1 behind.mem_names

private theorem replace_toMembers
    (splits : Splits name shape value fields values front back)
    (unambiguous : fields.Unambiguous) (new : Json) (path : List String) :
    replace new (name :: path) (.record (fields.toMembers values)) =
      .record (front ++ (name, replace new path (shape.toJson value)) :: back) := by
  have others := splits.apart unambiguous
  rw [List.forall_mem_append] at others
  have kept {members : List (String × Json)} (apart : ∀ member ∈ members, member.1 ≠ name) :
      (members.map fun member =>
        if member.1 = name then (name, replace new path member.2) else member) = members := by
    refine (List.map_congr_left fun member listed => ?_).trans (List.map_id members)
    exact if_neg (apart member listed)
  rw [splits.toMembers_eq, replace, List.map_append, List.map_cons, kept others.1, kept others.2,
    if_pos rfl]

end Fields.Splits

/-- A record with a replaced member is read as what differs from it in this member. -/
theorem Shape.Takes.replace
    {owner name : String} {fields : Fields β} {pack : β → γ} {unpack : γ → β}
    {pack_unpack : ∀ value, pack (unpack value) = value} {whole changed : γ} {shape : Shape α}
    {value newValue : α} {front back : List (String × Json)} {new : Json} {path : List String}
    (splits : Fields.Splits name shape value fields (unpack whole) front back)
    (splitsChanged : Fields.Splits name shape newValue fields (unpack changed) front back)
    (unambiguous : fields.Unambiguous)
    (takes : shape.Takes (replace new path (shape.toJson value)) newValue) :
    (Shape.record owner fields pack unpack pack_unpack).Takes
      (Json.replace new (name :: path)
        ((Shape.record owner fields pack unpack pack_unpack).toJson whole)) changed := by
  rw [Shape.toJson, splits.replace_toMembers unambiguous]
  exact splitsChanged.takes unambiguous takes owner pack pack_unpack

end LetterPacks.Json
