import Triword.Text.Utf8

/-!
Texts and their bytes. Every text is found again in its bytes, and bytes that are a text are those that the
text has.
-/

namespace Triword

namespace Text

theorem map_ofBitVec_utf8 (s : String) : (utf8 s).map UInt8.ofBitVec = s.toUTF8.data.toList := by
  have hid : UInt8.ofBitVec ∘ UInt8.toBitVec = id := by
    funext b
    rfl
  unfold utf8
  rw [List.map_map, hid, List.map_id]

theorem ofUtf8?_utf8 (s : String) : ofUtf8? (utf8 s) = some s := by
  have hbytes : (⟨((utf8 s).map UInt8.ofBitVec).toArray⟩ : ByteArray) = s.toUTF8 := by
    rw [map_ofBitVec_utf8]
  unfold ofUtf8?
  rw [hbytes]
  exact dif_pos s.isValidUTF8

theorem utf8_of_ofUtf8? {bs : List Byte} {s : String} (h : ofUtf8? bs = some s) : utf8 s = bs := by
  have hid : UInt8.toBitVec ∘ UInt8.ofBitVec = id := by
    funext b
    rfl
  unfold ofUtf8? String.fromUTF8? at h
  split at h
  . cases h
    show (bs.map UInt8.ofBitVec).toArray.toList.map UInt8.toBitVec = bs
    rw [List.toList_toArray, List.map_map, hid, List.map_id]
  . cases h

theorem ofUtf8?_eq_some_iff {bs : List Byte} {s : String} : ofUtf8? bs = some s ↔ bs = utf8 s := by
  constructor
  . exact fun h => (utf8_of_ofUtf8? h).symm
  . rintro rfl
    exact ofUtf8?_utf8 s

/-- A text begins as its bytes do. -/
theorem prefix_of_utf8 {s t : String} (h : utf8 s <+: utf8 t) : s.toList <+: t.toList := by
  obtain ⟨rest, hrest⟩ := h
  have hbytes := congrArg (List.map UInt8.ofBitVec) hrest
  rw [List.map_append, map_ofBitVec_utf8, map_ofBitVec_utf8] at hbytes
  apply List.isPrefix_of_utf8Encode_append_eq_utf8Encode ⟨(rest.map UInt8.ofBitVec).toArray⟩
  rw [String.utf8Encode_toList, String.utf8Encode_toList]
  apply ByteArray.ext
  rw [ByteArray.data_append, ← Array.toList_inj, Array.toList_append]
  exact hbytes

end Text

end Triword
