/-!
# GameNight.Proofs.Text.Bytes

Parts of a text as parts of its bytes.

A text can be cut in front of its characters and at its end, and nowhere else (`slice?`); at the
ends of a part it can, and the part is what is cut out (`slice?_append`).  The other way round,
where the bytes of one text stand among those of another, this one has it as a part: the bytes of
a text that is not empty begin with the first byte of a character, and nothing in a character
but its first byte is one (`exists_append_of_extract`).
-/

namespace GameNight.Text

theorem fromUTF8?_toUTF8 (s : String) : String.fromUTF8? s.toUTF8 = some s := by
  unfold String.fromUTF8?
  rw [String.toUTF8_eq_toByteArray, dif_pos s.isValidUTF8]
  rfl

/-- The part of a text between two offsets, if they are in order and a character begins at each of
them, or the text ends there. -/
def slice? (text : String) (start stop : Nat) : Option String :=
  if start ≤ stop ∧ (⟨start⟩ : String.Pos.Raw).IsValid text ∧
      (⟨stop⟩ : String.Pos.Raw).IsValid text then
    String.fromUTF8? (text.toUTF8.extract start stop)
  else none

section

variable (a m b : String)

theorem extract_between :
    (a ++ m ++ b).toUTF8.extract a.utf8ByteSize (a.utf8ByteSize + m.utf8ByteSize) =
      m.toUTF8 := by
  simp only [String.toUTF8_eq_toByteArray, String.toByteArray_append, ByteArray.append_assoc]
  calc
    (a.toByteArray ++ (m.toByteArray ++ b.toByteArray)).extract (a.utf8ByteSize + 0)
        (a.utf8ByteSize + m.utf8ByteSize)
      = (m.toByteArray ++ b.toByteArray).extract 0 m.utf8ByteSize :=
        ByteArray.extract_append_size_add' String.size_toByteArray.symm
    _ = m.toByteArray := ByteArray.extract_append_eq_left String.size_toByteArray.symm

/-- Both ends of a part lie between characters. -/
theorem isValid_append :
    (⟨a.utf8ByteSize⟩ : String.Pos.Raw).IsValid (a ++ m ++ b) ∧
      (⟨a.utf8ByteSize + m.utf8ByteSize⟩ : String.Pos.Raw).IsValid (a ++ m ++ b) := by
  constructor
  · exact String.Pos.Raw.isValid_iff_exists_append.mpr ⟨a, m ++ b, String.append_assoc .., rfl⟩
  · refine String.Pos.Raw.isValid_iff_exists_append.mpr ⟨a ++ m, b, rfl, ?_⟩
    rw [String.Pos.Raw.ext_iff, String.byteIdx_rawEndPos, String.utf8ByteSize_append]

theorem slice?_append :
    slice? (a ++ m ++ b) a.utf8ByteSize (a.utf8ByteSize + m.utf8ByteSize) = some m := by
  rw [slice?, if_pos ⟨Nat.le_add_right .., isValid_append a m b⟩, extract_between,
    fromUTF8?_toUTF8]

end

variable {text a m r : String} {p : Nat}

/-- Where the bytes of a text that is not empty stand, a character begins. -/
theorem isValid_of_extract (hm : m ≠ "")
    (h : text.toUTF8.extract p (p + m.utf8ByteSize) = m.toUTF8) :
    (⟨p⟩ : String.Pos.Raw).IsValid text := by
  have hpos : m.utf8ByteSize ≠ 0 := by simpa using hm
  have hsize : p + m.utf8ByteSize ≤ text.utf8ByteSize := by
    have hlen : min (p + m.utf8ByteSize) text.utf8ByteSize - p = m.utf8ByteSize := by
      simpa using congrArg ByteArray.size h
    omega
  have hutf8 : (text.toByteArray.extract p (p + m.utf8ByteSize)).IsValidUTF8 := by
    rw [← String.toUTF8_eq_toByteArray, h]
    exact m.isValidUTF8
  rcases (String.Pos.Raw.isValidUTF8_extract_iff ⟨p⟩ ⟨p + m.utf8ByteSize⟩
    (Nat.le_add_right p _) hsize).mp hutf8 with hempty | ⟨hvalid, -⟩
  · have hbytes : p = p + m.utf8ByteSize := congrArg String.Pos.Raw.byteIdx hempty
    omega
  · exact hvalid

/-- A text whose bytes begin with those of another begins with it. -/
theorem exists_append_of_extract_zero (h : r.toUTF8.extract 0 m.utf8ByteSize = m.toUTF8) :
    ∃ b, r = m ++ b := by
  have hsize : m.utf8ByteSize ≤ r.utf8ByteSize := by
    have hlen : min m.utf8ByteSize r.utf8ByteSize = m.utf8ByteSize := by
      simpa using congrArg ByteArray.size h
    omega
  have hbytes : m.toUTF8 ++ r.toUTF8.extract m.utf8ByteSize r.utf8ByteSize = r.toUTF8 := by
    rw [← h, ← ByteArray.extract_eq_extract_append_extract _ (Nat.zero_le _) hsize]
    exact ByteArray.extract_zero_size
  have hprefix : m.toList <+: r.toList := by
    apply List.isPrefix_of_utf8Encode_append_eq_utf8Encode
    simpa using hbytes
  obtain ⟨b, hb⟩ := hprefix
  refine ⟨String.ofList b, ?_⟩
  rw [← String.toList_inj, ← hb, String.toList_append, String.toList_ofList]

/-- Where the bytes of a text that is not empty stand, it is a part of the text. -/
theorem exists_append_of_extract (hm : m ≠ "")
    (h : text.toUTF8.extract p (p + m.utf8ByteSize) = m.toUTF8) :
    ∃ a b, text = a ++ m ++ b ∧ a.utf8ByteSize = p := by
  obtain ⟨a, r, rfl, hp⟩ :=
    String.Pos.Raw.isValid_iff_exists_append.mp (isValid_of_extract hm h)
  obtain rfl : p = a.utf8ByteSize := congrArg String.Pos.Raw.byteIdx hp
  have hrest : r.toUTF8.extract 0 m.utf8ByteSize = m.toUTF8 := by
    rw [← h, String.toUTF8_eq_toByteArray, String.toUTF8_eq_toByteArray,
      String.toByteArray_append]
    exact (ByteArray.extract_append_size_add' String.size_toByteArray.symm).symm
  obtain ⟨b, rfl⟩ := exists_append_of_extract_zero hrest
  exact ⟨a, b, (String.append_assoc ..).symm, rfl⟩

end GameNight.Text
