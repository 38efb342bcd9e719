import PersistedOps.Source.Directory

/-!
Line ends of files. A file is read as the text of its bytes exactly when no carriage return is among
them: any other file loses some.
-/

namespace PersistedOps.DirectorySource

theorem not_mem_unifyLines (cs : List Char) : '\r' ∉ unifyLines cs := by
  fun_induction unifyLines cs with
  | case1 => simp
  | case2 rest ih => simpa using ih
  | case3 c rest _ ih =>
      by_cases hc : c = '\r'
      · simpa [hc] using ih
      · simpa [hc, Ne.symm hc] using ih

theorem unifyLines_eq_self_iff {cs : List Char} : unifyLines cs = cs ↔ '\r' ∉ cs := by
  constructor
  · intro h
    rw [← h]
    exact not_mem_unifyLines cs
  · intro h
    fun_induction unifyLines cs with
    | case1 => rfl
    | case2 rest ih => simp at h
    | case3 c rest _ ih =>
        rw [List.mem_cons, not_or] at h
        rw [if_neg (Ne.symm h.1), ih h.2]

/-! Bytes -/

/-- The byte of a carriage return. -/
def returnByte : UInt8 := 13

theorem returnByte_eq_ofNat {n : Nat} (h : returnByte = UInt8.ofNat n) : n % 256 = 13 := by
  have hnat := congrArg UInt8.toNat h
  rw [UInt8.toNat_ofNat'] at hnat
  exact hnat.symm

/-- All bytes of a longer encoding are too great to be a carriage return. -/
theorem returnByte_mem_utf8EncodeChar_iff {c : Char} :
    returnByte ∈ String.utf8EncodeChar c ↔ c = '\r' := by
  constructor
  · intro h
    have hlt : c.val.toNat < 0x110000 := by
      have hvalid := c.valid
      simp only [UInt32.isValidChar, Nat.isValidChar] at hvalid
      omega
    simp only [String.utf8EncodeChar] at h
    split at h
    · have hbyte := returnByte_eq_ofNat (List.mem_singleton.mp h)
      have hvalue : c.val.toNat = 13 := by omega
      exact Char.toNat_inj.mp hvalue
    · split at h
      · rcases List.mem_cons.mp h with h | h
        · have hbyte := returnByte_eq_ofNat h
          omega
        · have hbyte := returnByte_eq_ofNat (List.mem_singleton.mp h)
          omega
      · split at h
        · simp only [List.mem_cons, List.not_mem_nil, or_false] at h
          rcases h with h | h | h <;> have hbyte := returnByte_eq_ofNat h <;> omega
        · simp only [List.mem_cons, List.not_mem_nil, or_false] at h
          rcases h with h | h | h | h <;> have hbyte := returnByte_eq_ofNat h <;> omega
  · rintro rfl
    decide

theorem data_utf8Encode (cs : List Char) :
    cs.utf8Encode.data.toList = cs.flatMap String.utf8EncodeChar := by
  induction cs with
  | nil => rfl
  | cons c cs ih =>
      rw [List.utf8Encode_cons, ByteArray.data_append, Array.toList_append, ih,
        List.utf8Encode_singleton, List.flatMap_cons]
      simp

theorem returnByte_mem_toUTF8_iff {text : String} :
    returnByte ∈ text.toUTF8.data ↔ '\r' ∈ text.toList := by
  have hbytes : text.toUTF8.data.toList = text.toList.flatMap String.utf8EncodeChar := by
    rw [← data_utf8Encode, ← String.toByteArray_ofList, String.ofList_toList]
    rfl
  rw [← Array.mem_toList_iff, hbytes, List.mem_flatMap]
  constructor
  · rintro ⟨c, hc, hbyte⟩
    exact returnByte_mem_utf8EncodeChar_iff.mp hbyte ▸ hc
  · intro h
    exact ⟨'\r', h, returnByte_mem_utf8EncodeChar_iff.mpr rfl⟩

/-- The text that a file holds, line ends and all. -/
theorem decode_eq_some_iff {content : ByteArray} {text : String} :
    decode content = some text ↔
      ∃ held : String, held.toUTF8 = content ∧ text = String.ofList (unifyLines held.toList) := by
  rw [decode, Option.map_eq_some_iff]
  constructor
  · rintro ⟨held, hheld, rfl⟩
    refine ⟨held, ?_, rfl⟩
    rw [String.fromUTF8?] at hheld
    split at hheld
    · cases hheld
      rfl
    · cases hheld
  · rintro ⟨held, rfl, rfl⟩
    refine ⟨held, ?_, rfl⟩
    exact dif_pos held.isValidUTF8

/-- A file is read byte for byte exactly when it has no carriage return. -/
theorem toUTF8_eq_iff_of_decode {content : ByteArray} {text : String}
    (h : decode content = some text) : text.toUTF8 = content ↔ returnByte ∉ content.data := by
  obtain ⟨held, rfl, rfl⟩ := decode_eq_some_iff.mp h
  rw [returnByte_mem_toUTF8_iff, ← unifyLines_eq_self_iff]
  constructor
  · intro hsame
    have hheld := congrArg String.toList (String.toByteArray_inj.mp hsame)
    rwa [String.toList_ofList] at hheld
  · intro hsame
    rw [hsame, String.ofList_toList]

end PersistedOps.DirectorySource
