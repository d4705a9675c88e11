/-! Texts as bytes. A text has one sequence of bytes and no other text has it. Bytes that end with the byte of a
character which takes no other are those of a text if the bytes before it are, and that text ends with the
character. -/

namespace FeedSieve.Text

def bytes (text : String) : List UInt8 := text.toByteArray.data.toList

theorem bytes_append (s t : String) : bytes (s ++ t) = bytes s ++ bytes t := by
  simp [bytes]

theorem bytes_injective {s t : String} (h : bytes s = bytes t) : s = t := by
  rw [← String.toByteArray_inj]
  exact ByteArray.ext (Array.toList_inj.mp h)

theorem bytes_ofList (cs : List Char) : bytes (String.ofList cs) = cs.flatMap String.utf8EncodeChar := by
  rw [bytes, String.toByteArray_ofList, List.utf8Encode, List.data_toByteArray]

theorem fromUTF8?_eq_some_iff {bs : List UInt8} {text : String} :
    String.fromUTF8? ⟨bs.toArray⟩ = some text ↔ bytes text = bs := by
  constructor
  · intro h
    rw [String.fromUTF8?] at h
    split at h
    · rw [← Option.some.inj h]
      rfl
    · exact absurd h (by simp)
  · rintro rfl
    have hbytes : (⟨(bytes text).toArray⟩ : ByteArray) = text.toByteArray := rfl
    rw [hbytes, String.fromUTF8?, dif_pos text.isValidUTF8]
    rfl

theorem fromUTF8?_eq_none_iff {bs : List UInt8} :
    String.fromUTF8? ⟨bs.toArray⟩ = none ↔ ∀ text, bytes text ≠ bs := by
  rw [Option.eq_none_iff_forall_ne_some]
  exact forall_congr' fun text => not_congr fromUTF8?_eq_some_iff

/-! ### Characters of one byte -/

section

variable {b : UInt8} {c : Char}

theorem eq_singleton_of_getLast? (hb : b.IsUTF8FirstByte) (h : (String.utf8EncodeChar c).getLast? = some b) :
    String.utf8EncodeChar c = [b] := by
  have hlength : (String.utf8EncodeChar c).length - 1 < (String.utf8EncodeChar c).length := by
    have := c.utf8Size_pos
    rw [String.length_utf8EncodeChar]
    omega
  rw [List.getLast?_eq_getElem?, List.getElem?_eq_getElem hlength] at h
  rw [← Option.some.inj h, UInt8.isUTF8FirstByte_getElem_utf8EncodeChar] at hb
  obtain ⟨a, ha⟩ : ∃ a, String.utf8EncodeChar c = [a] := by
    rw [← List.length_eq_one_iff]
    omega
  simp only [ha, List.length_singleton, Nat.sub_self, List.getElem_cons_zero, Option.some.injEq] at h
  rw [ha, h]

/-- A text whose last byte is that of a character which takes no other byte ends with the character. -/
theorem exists_of_bytes_eq_concat {text : String} {bs : List UInt8} (hc : String.utf8EncodeChar c = [b])
    (h : bytes text = bs ++ [b]) : ∃ start, text = start ++ String.ofList [c] ∧ bytes start = bs := by
  have hb : b.IsUTF8FirstByte := by
    have hfirst := UInt8.isUTF8FirstByte_getElem_zero_utf8EncodeChar (c := c)
    simpa [hc] using hfirst
  obtain ⟨cs, rfl⟩ := text.exists_eq_ofList
  rw [bytes_ofList] at h
  rcases List.eq_nil_or_concat cs with rfl | ⟨start, d, rfl⟩
  · exact absurd h (by simp)
  rw [List.concat_eq_append, List.flatMap_append, List.flatMap_singleton] at h
  have hlast : (String.utf8EncodeChar d).getLast? = some b := by
    have hends := congrArg List.getLast? h
    rwa [List.getLast?_append, List.getLast?_concat,
      List.getLast?_eq_some_getLast String.utf8EncodeChar_ne_nil, Option.some_or,
      ← List.getLast?_eq_some_getLast String.utf8EncodeChar_ne_nil] at hends
  have hd := eq_singleton_of_getLast? hb hlast
  have hdc : String.ofList [d] = String.ofList [c] := by
    apply bytes_injective
    rw [bytes_ofList, bytes_ofList, List.flatMap_singleton, List.flatMap_singleton, hd, hc]
  rw [hd] at h
  refine ⟨String.ofList start, ?_, by rw [bytes_ofList]; exact List.append_cancel_right h⟩
  rw [← hdc, List.concat_eq_append, String.ofList_append]

/-- Such a byte makes no difference to whether the bytes before it are those of a text. -/
theorem exists_bytes_concat_iff (hc : String.utf8EncodeChar c = [b]) (bs : List UInt8) :
    (∃ text, bytes text = bs ++ [b]) ↔ ∃ text, bytes text = bs := by
  constructor
  · rintro ⟨text, htext⟩
    obtain ⟨start, -, hstart⟩ := exists_of_bytes_eq_concat hc htext
    exact ⟨start, hstart⟩
  · rintro ⟨text, rfl⟩
    exact ⟨text ++ String.ofList [c], by rw [bytes_append, bytes_ofList, List.flatMap_singleton, hc]⟩

end

end FeedSieve.Text
