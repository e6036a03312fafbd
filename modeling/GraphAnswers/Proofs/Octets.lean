import GraphAnswers.Text.Utf8
/-!
# Texts come back from their octets

What is written is read back, and nothing else reads as it (`Text.ofOctets?_octets`,
`Text.octets_of_ofOctets?`).  The octets of a text are those of its characters one after another,
and only an end of line is written with the octet 10 (`Text.newline_mem_octets`), so octets can be
cut into lines before they are read as text.
-/
namespace GraphAnswers.Text

/-- The octets after a place, put before those that were listed. -/
theorem toList_loop (bs : ByteArray) (i : Nat) (listed : List UInt8) :
    ByteArray.toList.loop bs i listed = listed.reverse ++ bs.data.toList.drop i := by
  fun_induction ByteArray.toList.loop bs i listed with
  | case1 i listed h ih =>
    have hlt : i < bs.data.toList.length := by simpa using h
    have hget : bs.get! i = bs.data.toList[i] := by
      show bs.data[i]! = _
      rw [getElem!_pos bs.data i h]
      simp
    rw [ih, List.drop_eq_getElem_cons hlt, hget]
    simp
  | case2 i listed h =>
    have hle : bs.data.toList.length ≤ i := by simpa using h
    rw [List.drop_eq_nil_of_le hle, List.append_nil]

theorem toList_eq (bs : ByteArray) : bs.toList = bs.data.toList := by
  unfold ByteArray.toList
  rw [toList_loop]
  simp

/-- **What is written is read back.** -/
theorem ofOctets?_octets (s : String) : ofOctets? (octets s) = some s := by
  unfold ofOctets? octets
  rw [toList_eq]
  exact dif_pos s.isValidUTF8

/-- What is read was written so. -/
theorem octets_of_ofOctets? {os : List UInt8} {s : String} (h : ofOctets? os = some s) :
    octets s = os := by
  unfold ofOctets? String.fromUTF8? at h
  split at h
  · cases h
    unfold octets
    rw [toList_eq]
    rfl
  · cases h

/-! ### Character by character -/

theorem octets_eq (s : String) : octets s = s.toList.flatMap String.utf8EncodeChar := by
  unfold octets
  rw [toList_eq, String.toUTF8_eq_toByteArray, ← String.ofList_toList (s := s),
    String.toByteArray_ofList, List.utf8Encode, List.toList_data_toByteArray, String.toList_ofList]

theorem octets_append (s t : String) : octets (s ++ t) = octets s ++ octets t := by
  rw [octets_eq, octets_eq, octets_eq, String.toList_append, List.flatMap_append]

@[simp] theorem octets_empty : octets "" = [] := by rw [octets_eq]; rfl

@[simp] theorem octets_newline : octets "\n" = [10] := by rw [octets_eq]; rfl

theorem newline_mem_utf8EncodeChar {c : Char} : 10 ∈ String.utf8EncodeChar c ↔ c = '\n' := by
  constructor
  · intro h
    rw [String.utf8EncodeChar.eq_1] at h
    have hoctet {n : Nat} (hn : (10 : UInt8) = UInt8.ofNat n) (hlt : n < 256) : n = 10 := by
      have := congrArg UInt8.toNat hn
      rw [UInt8.toNat_ofNat_of_lt' hlt] at this
      exact this.symm
    -- the octets of a longer character are 128 or more, all of them
    have hval : c.val.toNat = 10 := by
      split at h
      · exact hoctet (List.mem_singleton.mp h) (by omega)
      · split at h
        · simp only [List.mem_cons, List.not_mem_nil, or_false] at h
          rcases h with h | h <;> have := hoctet h (by omega) <;> omega
        · split at h
          · simp only [List.mem_cons, List.not_mem_nil, or_false] at h
            rcases h with h | h | h <;> have := hoctet h (by omega) <;> omega
          · simp only [List.mem_cons, List.not_mem_nil, or_false] at h
            rcases h with h | h | h | h <;> have := hoctet h (by omega) <;> omega
    exact Char.ext (UInt32.toNat_inj.mp hval)
  · rintro rfl
    decide

/-- **Only an end of line has its octet.** -/
theorem newline_mem_octets {s : String} : 10 ∈ octets s ↔ '\n' ∈ s.toList := by
  rw [octets_eq, List.mem_flatMap]
  simp [newline_mem_utf8EncodeChar]

end GraphAnswers.Text
