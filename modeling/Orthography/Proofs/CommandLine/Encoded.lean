import Orthography.CommandLine.Files
import Orthography.Proofs.Text.Cutting

/-!
# Encoded texts

A text is encoded character by character, and a byte below 128 stands for the character with that
number and for no other.  So the lines of the bytes that encode a text are the encoded lines of the
text, and every one of them can be decoded (`Text.linesBy_encoded`).
-/

namespace Orthography.Text

/-- The bytes that encode a text. -/
def encoded (text : Text) : List UInt8 := text.flatMap String.utf8EncodeChar

@[simp] theorem encoded_nil : encoded [] = [] := rfl

@[simp] theorem encoded_cons (c : Char) (text : Text) :
    encoded (c :: text) = String.utf8EncodeChar c ++ encoded text := rfl

@[simp] theorem encoded_append (first second : Text) :
    encoded (first ++ second) = encoded first ++ encoded second := List.flatMap_append

/-- The bytes of a text are those that it is stored as. -/
theorem utf8Encode_eq (text : Text) : text.utf8Encode = ⟨(encoded text).toArray⟩ :=
  ByteArray.ext List.data_toByteArray

/-- Only the empty text takes no bytes. -/
@[simp] theorem encoded_eq_nil_iff {text : Text} : encoded text = [] ↔ text = [] := by
  cases text with
  | nil => exact iff_of_true rfl rfl
  | cons c text => simp

/-- Bytes are decoded to the text that they encode, and to no other. -/
theorem decode?_eq_some_iff {bytes : List UInt8} {text : Text} :
    CommandLine.decode? ⟨bytes.toArray⟩ = some text ↔ bytes = encoded text := by
  rw [CommandLine.decode?, Option.map_eq_some_iff]
  constructor
  · rintro ⟨string, hstring, rfl⟩
    have hstored : string.toByteArray = ⟨bytes.toArray⟩ := by
      unfold String.fromUTF8? at hstring
      split at hstring
      · cases hstring
        rfl
      · cases hstring
    rw [← String.ofList_toList (s := string), String.toByteArray_ofList, utf8Encode_eq] at hstored
    simpa using (ByteArray.mk.inj hstored).symm
  · rintro rfl
    refine ⟨String.ofList text, ?_, String.toList_ofList⟩
    rw [String.fromUTF8?, ← utf8Encode_eq, dif_pos (.intro text rfl)]
    rfl

/-- The bytes of a character beyond 127 are beyond 127. -/
theorem le_of_mem_utf8EncodeChar {c : Char} {byte : UInt8} (hwide : 127 < c.val.toNat)
    (hbyte : byte ∈ String.utf8EncodeChar c) : 128 ≤ byte.toNat := by
  unfold String.utf8EncodeChar at hbyte
  dsimp only at hbyte
  rw [if_neg (Nat.not_le.mpr hwide)] at hbyte
  split at hbyte
  · simp only [List.mem_cons, List.not_mem_nil, or_false] at hbyte
    rcases hbyte with rfl | rfl <;> (rw [UInt8.toNat_ofNat']; omega)
  · split at hbyte
    · simp only [List.mem_cons, List.not_mem_nil, or_false] at hbyte
      rcases hbyte with rfl | rfl | rfl <;> (rw [UInt8.toNat_ofNat']; omega)
    · simp only [List.mem_cons, List.not_mem_nil, or_false] at hbyte
      rcases hbyte with rfl | rfl | rfl | rfl <;> (rw [UInt8.toNat_ofNat']; omega)

/-- A byte below 128 encodes the character with its number, by itself. -/
theorem eq_of_mem_utf8EncodeChar {c d : Char} (hlow : c.val.toNat ≤ 127)
    (hbyte : UInt8.ofNat c.val.toNat ∈ String.utf8EncodeChar d) : d = c := by
  have hbyteNat : (UInt8.ofNat c.val.toNat).toNat = c.val.toNat := by
    rw [UInt8.toNat_ofNat']
    omega
  by_cases hwide : 127 < d.val.toNat
  · have hle := le_of_mem_utf8EncodeChar hwide hbyte
    omega
  · unfold String.utf8EncodeChar at hbyte
    dsimp only at hbyte
    rw [if_pos (Nat.not_lt.mp hwide), List.mem_singleton] at hbyte
    have hnumber := congrArg UInt8.toNat hbyte
    rw [hbyteNat, UInt8.toNat_ofNat'] at hnumber
    refine Char.ext (UInt32.toNat_inj.mp ?_)
    omega

/-! ### Lines of bytes -/

/-- The encoded text is cut where the text is. -/
theorem splitOn_encoded (feed : Char) (hlow : feed.val.toNat ≤ 127) (text : Text) :
    (encoded text).splitOn (UInt8.ofNat feed.val.toNat) = (text.splitOn feed).map encoded := by
  have hfeed : String.utf8EncodeChar feed = [UInt8.ofNat feed.val.toNat] := by
    unfold String.utf8EncodeChar
    exact if_pos hlow
  induction text with
  | nil => rfl
  | cons c text ih =>
      rw [encoded_cons, List.splitOn_cons_eq_if_modifyHead]
      by_cases hc : c = feed
      · subst hc
        rw [hfeed, List.singleton_append, List.splitOn_cons_eq_if_modifyHead,
          if_pos (beq_self_eq_true _), if_pos (beq_self_eq_true _), ih]
        rfl
      · rw [List.splitOn_eq_splitOnP, splitOnP_append_of_forall (fun byte hbyte => ?_),
          ← List.splitOn_eq_splitOnP, ih, if_neg (by simpa using hc)]
        · obtain ⟨piece, pieces, hpieces⟩ :=
            List.exists_cons_of_ne_nil (List.splitOn_ne_nil feed text)
          rw [hpieces]
          rfl
        · rw [beq_eq_false_iff_ne]
          rintro rfl
          exact hc (eq_of_mem_utf8EncodeChar hlow hbyte)

/-- The last byte of an encoded text is dropped where the last character of the text is. -/
theorem dropLast_encoded (back : Char) (hlow : back.val.toNat ≤ 127) (text : Text) :
    dropLast (UInt8.ofNat back.val.toNat) (encoded text) = encoded (dropLast back text) := by
  have hback : String.utf8EncodeChar back = [UInt8.ofNat back.val.toNat] := by
    unfold String.utf8EncodeChar
    exact if_pos hlow
  rcases List.eq_nil_or_concat text with rfl | ⟨front, c, rfl⟩
  · rfl
  · unfold dropLast
    by_cases hc : c = back
    · subst hc
      simp [hback]
    · have hlast : (encoded (front ++ [c])).getLast? ≠ some (UInt8.ofNat back.val.toNat) := by
        rw [encoded_append, encoded_cons, encoded_nil, List.append_nil,
          List.getLast?_append_of_ne_nil _ String.utf8EncodeChar_ne_nil]
        exact fun hlast => hc (eq_of_mem_utf8EncodeChar hlow (List.mem_of_getLast? hlast))
      rw [if_neg (by simpa using hlast), if_neg (by simpa using hc)]

/-- The lines of the bytes that encode a text are the encoded lines of the text. -/
theorem linesBy_encoded (text : Text) :
    linesBy 10 13 (encoded text) = (lines text).map encoded := by
  have hsplit : (encoded text).splitOn 10 = (text.splitOn '\n').map encoded :=
    splitOn_encoded '\n' (by decide) text
  have hdrop (line : Text) : dropLast 13 (encoded line) = encoded (dropLast '\r' line) :=
    dropLast_encoded '\r' (by decide) line
  obtain ⟨front, last, hpieces⟩ : ∃ front last, text.splitOn '\n' = front ++ [last] :=
    (List.eq_nil_or_concat' _).resolve_left (List.splitOn_ne_nil _ _)
  have hfront : (front.map encoded).map (dropLast 13) =
      (front.map (dropLast '\r')).map encoded := by
    simp only [List.map_map, Function.comp_def, hdrop]
  rw [lines, linesBy, linesBy, hsplit, hpieces]
  simp only [List.map_append, List.map_singleton, List.dropLast_concat, List.getLast?_concat,
    Option.getD_some, hfront, List.isEmpty_iff, encoded_eq_nil_iff]
  split <;> rfl

end Orthography.Text
