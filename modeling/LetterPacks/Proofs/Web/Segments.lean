import LetterPacks.Proofs.Json.Skipping
import LetterPacks.Web.Target
import Mathlib.Data.List.TakeWhile

/-!
# Percent-encoded segments

A text is sent as a segment of a path.  A character that may stand in a segment stands for itself
or is escaped like every other one: each byte of its UTF-8 form is written as a percent sign and
two hexadecimal digits.  Every such segment is decoded to the text (`decodeSegment?_of_encodes`)
and passes through the routing of a path unharmed (`ofPath?_resolveTarget`).
-/

namespace LetterPacks.Web

def segmentMarks : List Char :=
  ['-', '.', '_', '~', '!', '$', '&', '\x27', '(', ')', '*', '+', ',', ';', '=', ':', '@']

def isSegmentChar (character : Char) : Bool :=
  character.isAlphanum || segmentMarks.contains character

/-- Some bytes, each as a percent sign and two hexadecimal digits. -/
inductive Escapes : List UInt8 → List Char → Prop
  | nil : Escapes [] []
  | cons {high low : Char} {highValue lowValue : Nat} {bytes : List UInt8} {escapes : List Char} :
      Number.hexValue? high = some highValue → Number.hexValue? low = some lowValue →
      Escapes bytes escapes →
      Escapes (UInt8.ofNat (highValue * 16 + lowValue) :: bytes) ('%' :: high :: low :: escapes)

/-- The ways in which some characters are written as a segment. -/
inductive Encodes : List Char → List Char → Prop
  | nil : Encodes [] []
  | plain {character : Char} {text segment : List Char} :
      isSegmentChar character = true → Encodes text segment →
      Encodes (character :: text) (character :: segment)
  | escaped {character : Char} {text escapes segment : List Char} :
      Escapes (String.utf8EncodeChar character) escapes → Encodes text segment →
      Encodes (character :: text) (escapes ++ segment)

def escapedByte (byte : UInt8) : List Char :=
  ['%', Number.hexDigit (byte.toNat / 16), Number.hexDigit (byte.toNat % 16)]

def escapedSegment (text : String) : String :=
  String.ofList (text.toList.flatMap fun character =>
    (String.utf8EncodeChar character).flatMap escapedByte)

private theorem escapes_flatMap_escapedByte (bytes : List UInt8) :
    Escapes bytes (bytes.flatMap escapedByte) := by
  induction bytes with
  | nil =>
      exact .nil
  | cons byte bytes ih =>
      have bound := byte.toNat_lt
      have whole : byte.toNat / 16 * 16 + byte.toNat % 16 = byte.toNat := by omega
      have readHigh : Number.hexValue? (Number.hexDigit (byte.toNat / 16)) =
          some (byte.toNat / 16) := Number.hexValue?_hexDigit (by omega)
      have readLow : Number.hexValue? (Number.hexDigit (byte.toNat % 16)) =
          some (byte.toNat % 16) := Number.hexValue?_hexDigit (by omega)
      have escapes := Escapes.cons readHigh readLow ih
      rwa [whole, UInt8.ofNat_toNat] at escapes

theorem encodes_escapedSegment (text : String) :
    Encodes text.toList (escapedSegment text).toList := by
  rw [escapedSegment, String.toList_ofList]
  induction text.toList with
  | nil =>
      exact .nil
  | cons character text ih =>
      rw [List.flatMap_cons]
      exact .escaped (escapes_flatMap_escapedByte _) ih

variable {character digit : Char} {byte high low : UInt8} {bytes : List UInt8}
  {text segment escapes : List Char}

private theorem ofNat_toUInt8_of_utf8Size (single : character.utf8Size = 1) :
    Char.ofNat character.val.toUInt8.toNat = character := by
  have small : character.val.toNat ≤ 127 :=
    UInt32.le_iff_toNat_le.1 (Char.utf8Size_eq_one_iff.1 single)
  have same : character.val.toUInt8.toNat = character.toNat := by
    rw [UInt32.toNat_toUInt8]
    exact Nat.mod_eq_of_lt (by omega)
  rw [same, Char.ofNat_toNat]

private theorem hexByte?_of_hexValue? {value : Nat} (read : Number.hexValue? digit = some value) :
    hexByte? digit.val.toUInt8 = some value := by
  rw [hexByte?, ofNat_toUInt8_of_utf8Size (Json.utf8Size_of_hexValue? read), read]

private theorem utf8Size_of_isAlphanum (plain : character.isAlphanum = true) :
    character.utf8Size = 1 := by
  have ranges :
      ((decide ('A'.val ≤ character.val ∧ character.val ≤ 'Z'.val) ||
        (decide ('a'.val ≤ character.val) && decide (character.val ≤ 'z'.val))) ||
        (decide ('0'.val ≤ character.val) && decide (character.val ≤ '9'.val))) = true := plain
  simp only [Bool.or_eq_true, Bool.and_eq_true, decide_eq_true_eq, UInt32.le_iff_toNat_le,
    Char.reduceVal, UInt32.reduceToNat] at ranges
  rw [Char.utf8Size_eq_one_iff, UInt32.le_iff_toNat_le]
  change character.val.toNat ≤ 127
  omega

private theorem utf8Size_of_isSegmentChar (plain : isSegmentChar character = true) :
    character.utf8Size = 1 := by
  rw [isSegmentChar, Bool.or_eq_true] at plain
  rcases plain with alphanumeric | mark
  · exact utf8Size_of_isAlphanum alphanumeric
  · have marks : segmentMarks.all (fun mark => mark.utf8Size == 1) = true := by decide
    have single := List.all_eq_true.1 marks character (List.contains_iff_mem.1 mark)
    exact eq_of_beq single

private theorem resolveEscapes_cons (plain : byte ≠ 0x25) (bytes : List UInt8) :
    resolveEscapes (byte :: bytes) = byte :: resolveEscapes bytes := by
  rw [resolveEscapes]
  exact fun _ _ _ same => absurd same plain

private theorem resolveEscapes_of_encodedByte?
    (read : encodedByte? high low = some byte) (bytes : List UInt8) :
    resolveEscapes (0x25 :: high :: low :: bytes) = byte :: resolveEscapes bytes := by
  rw [resolveEscapes, read]

private theorem resolveEscapes_of_escapes (escaped : Escapes bytes escapes) (segment : List Char) :
    resolveEscapes ((escapes ++ segment).flatMap String.utf8EncodeChar) =
      bytes ++ resolveEscapes (segment.flatMap String.utf8EncodeChar) := by
  induction escaped with
  | nil =>
      rfl
  | @cons high low highValue lowValue bytes escapes readHigh readLow _ ih =>
      have percent : String.utf8EncodeChar '%' = [0x25] := by decide
      have read : encodedByte? high.val.toUInt8 low.val.toUInt8 =
          some (UInt8.ofNat (highValue * 16 + lowValue)) := by
        simp only [encodedByte?, hexByte?_of_hexValue? readHigh, hexByte?_of_hexValue? readLow,
          Option.bind_eq_bind, Option.bind_some]
      simp only [List.cons_append, List.flatMap_cons, percent,
        String.utf8EncodeChar_eq_singleton (Json.utf8Size_of_hexValue? readHigh),
        String.utf8EncodeChar_eq_singleton (Json.utf8Size_of_hexValue? readLow), List.nil_append,
        resolveEscapes_of_encodedByte? read, ih]

private theorem resolveEscapes_of_encodes (encodes : Encodes text segment) :
    resolveEscapes (segment.flatMap String.utf8EncodeChar) =
      text.flatMap String.utf8EncodeChar := by
  induction encodes with
  | nil =>
      rfl
  | @plain character text segment plain _ ih =>
      have single := utf8Size_of_isSegmentChar plain
      have notPercent : character.val.toUInt8 ≠ 0x25 := by
        intro same
        have back := ofNat_toUInt8_of_utf8Size single
        rw [same] at back
        subst back
        revert plain
        decide
      rw [List.flatMap_cons, List.flatMap_cons, String.utf8EncodeChar_eq_singleton single,
        List.singleton_append, List.singleton_append, resolveEscapes_cons notPercent, ih]
  | escaped escaped _ ih =>
      rw [resolveEscapes_of_escapes escaped, List.flatMap_cons, ih]

private theorem fromUTF8?_flatMap (text : List Char) :
    String.fromUTF8? ⟨(text.flatMap String.utf8EncodeChar).toArray⟩ =
      some (String.ofList text) := by
  have written : (⟨(text.flatMap String.utf8EncodeChar).toArray⟩ : ByteArray) =
      (String.ofList text).toByteArray := by
    rw [String.toByteArray_ofList, List.utf8Encode, ← List.data_toByteArray]
  rw [written, String.fromUTF8?, dif_pos (String.ofList text).isValidUTF8]
  rfl

theorem decodeSegment?_of_encodes {text segment : String}
    (encodes : Encodes text.toList segment.toList) : decodeSegment? segment = some text := by
  have bytes : segment.toUTF8.data.toList = segment.toList.flatMap String.utf8EncodeChar := by
    rw [String.toUTF8_eq_toByteArray, ← String.utf8Encode_toList, List.utf8Encode,
      List.toList_data_toByteArray]
  rw [decodeSegment?, bytes, resolveEscapes_of_encodes encodes, fromUTF8?_flatMap,
    String.ofList_toList]

private theorem Escapes.not_mem {separator : Char} (escaped : Escapes bytes escapes)
    (notPercent : separator ≠ '%') (notDigit : Number.hexValue? separator = none) :
    separator ∉ escapes := by
  induction escaped with
  | nil =>
      exact List.not_mem_nil
  | cons readHigh readLow _ ih =>
      simp only [List.mem_cons, not_or]
      refine ⟨notPercent, ?_, ?_, ih⟩
      · rintro rfl
        rw [notDigit] at readHigh
        cases readHigh
      · rintro rfl
        rw [notDigit] at readLow
        cases readLow

private theorem Escapes.ne_nil
    (escaped : Escapes bytes escapes) (some : bytes ≠ []) : escapes ≠ [] := by
  cases escaped with
  | nil =>
      exact absurd rfl some
  | cons =>
      exact List.cons_ne_nil _ _

private theorem Encodes.not_mem {separator : Char} (encodes : Encodes text segment)
    (notPercent : separator ≠ '%') (notDigit : Number.hexValue? separator = none)
    (notPlain : isSegmentChar separator = false) : separator ∉ segment := by
  induction encodes with
  | nil =>
      exact List.not_mem_nil
  | plain plain _ ih =>
      rw [List.mem_cons, not_or]
      refine ⟨?_, ih⟩
      rintro rfl
      rw [notPlain] at plain
      cases plain
  | escaped escaped _ ih =>
      rw [List.mem_append, not_or]
      exact ⟨escaped.not_mem notPercent notDigit, ih⟩

private theorem Encodes.ne_nil
    (encodes : Encodes text segment) (shown : text ≠ []) : segment ≠ [] := by
  cases encodes with
  | nil =>
      exact absurd rfl shown
  | plain =>
      exact List.cons_ne_nil _ _
  | escaped escaped _ =>
      exact List.append_ne_nil_of_left_ne_nil (escaped.ne_nil String.utf8EncodeChar_ne_nil) _

private theorem splitChars_of_not_mem {separator : Char} (absent : separator ∉ segment) :
    Text.splitChars separator segment = [segment] := by
  induction segment with
  | nil =>
      rfl
  | cons first segment ih =>
      rw [List.mem_cons, not_or] at absent
      rw [Text.splitChars, ih absent.2, if_neg (Ne.symm absent.1)]

/-- The target of a request to resolve the letter of a segment. -/
def resolveTarget (segment : String) : String :=
  "/api/v1/document-packs/" ++ segment

private theorem pathOf_eq_self {target : String} (rooted : target.toList.head? = some '/')
    (noQuery : '?' ∉ target.toList) (noFragment : '#' ∉ target.toList) :
    pathOf target = target := by
  have printed : ∀ character ∈ target.toList, (!endsPath character) = true := by
    intro character member
    have notQuery : character ≠ '?' := fun same => noQuery (same ▸ member)
    have notFragment : character ≠ '#' := fun same => noFragment (same ▸ member)
    simp [endsPath, notQuery, notFragment]
  obtain ⟨rest, written⟩ := List.head?_eq_some_iff.1 rooted
  have whole : afterAuthority target.toList = target.toList := by
    rw [written]
    rfl
  rw [pathOf, whole, List.takeWhile_eq_self_iff.2 printed, String.ofList_toList]

theorem ofPath?_resolveTarget {text segment : String}
    (encodes : Encodes text.toList segment.toList) (shown : text ≠ "") :
    Route.ofPath? (pathOf (resolveTarget segment)) = some (.resolve segment) := by
  have slash : '/' ∉ segment.toList := encodes.not_mem (by decide) (by decide) (by decide)
  have noQuery : '?' ∉ segment.toList := encodes.not_mem (by decide) (by decide) (by decide)
  have noFragment : '#' ∉ segment.toList := encodes.not_mem (by decide) (by decide) (by decide)
  have nonempty : segment ≠ "" := by
    have printed := encodes.ne_nil (by simpa using shown)
    simpa using printed
  have target : (resolveTarget segment).toList =
      "/api/v1/document-packs/".toList ++ segment.toList :=
    String.toList_append
  have path : pathOf (resolveTarget segment) = resolveTarget segment := by
    refine pathOf_eq_self ?_ ?_ ?_ <;> rw [target]
    · rfl
    · simp [noQuery]
    · simp [noFragment]
  rw [path, Route.ofPath?, Text.split, target]
  simp [Text.splitChars, splitChars_of_not_mem slash, nonempty]

end LetterPacks.Web
