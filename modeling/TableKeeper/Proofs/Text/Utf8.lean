import TableKeeper.Text.Utf8

/-!
  TableKeeper.Proofs.Text.Utf8 — a text and its bytes.

  1. The bytes of a text are those of its characters, one behind the other (`toBytes_eq`).
  2. The byte of a mark that has only one is no part of another character
     (`mem_utf8EncodeChar`). A text that is cut at that byte is cut between two characters
     (`exists_cut`, `isValid_of_cut`).
-/

namespace TableKeeper.Text

variable {before behind : List UInt8} {mark c : Char}

/-! ## Bytes of a text -/

theorem toList_loop (bytes : ByteArray) (i : Nat) (taken : List UInt8) :
    ByteArray.toList.loop bytes i taken = taken.reverse ++ bytes.data.toList.drop i := by
  fun_induction ByteArray.toList.loop bytes i taken with
  | case1 i taken hlt ih =>
    have hlength : i < bytes.data.toList.length := by simpa using hlt
    have hget : bytes.get! i = bytes.data.toList[i] := getElem!_pos bytes.data i (by simpa using hlt)
    rw [ih, List.drop_eq_getElem_cons hlength, hget, List.reverse_cons, List.append_assoc]
    rfl
  | case2 i taken hge =>
    have hend : bytes.data.toList.length ≤ i := by simpa using Nat.le_of_not_lt hge
    rw [List.drop_eq_nil_of_le hend, List.append_nil]

/-- The bytes of a text are those of its characters, one behind the other. -/
theorem toBytes_eq (s : String) : toBytes s = s.toList.flatMap String.utf8EncodeChar := by
  have hencoded : s.toByteArray = (s.toList.flatMap String.utf8EncodeChar).toByteArray := String.utf8Encode_toList.symm
  rw [toBytes, String.toUTF8_eq_toByteArray, hencoded, ByteArray.toList, toList_loop, List.reverse_nil,
    List.nil_append, List.drop_zero, List.toList_data_toByteArray]

theorem length_toBytes (s : String) : (toBytes s).length = s.utf8ByteSize := by
  have hencoded : s.toByteArray = (toBytes s).toByteArray := by
    rw [toBytes_eq]
    exact String.utf8Encode_toList.symm
  rw [← String.size_toByteArray, hencoded, List.size_toByteArray]

/-! ## Marks of one byte -/

/-- The byte of a mark is no part of another character. -/
theorem mem_utf8EncodeChar (hmark : mark.utf8Size = 1) : mark.toUInt8 ∈ String.utf8EncodeChar c ↔ c = mark := by
  have hencoded : String.utf8EncodeChar mark = [mark.toUInt8] := String.utf8EncodeChar_eq_singleton hmark
  constructor
  · intro h
    obtain ⟨i, hi, hbyte⟩ := List.getElem_of_mem h
    have hfirst : UInt8.IsUTF8FirstByte mark.toUInt8 := by
      have hpositive : 0 < (String.utf8EncodeChar mark).length := by simp [hencoded]
      have hzero : (String.utf8EncodeChar mark)[0] = mark.toUInt8 := by simp [hencoded]
      rw [← hzero]
      exact UInt8.isUTF8FirstByte_getElem_zero_utf8EncodeChar
    rw [← hbyte, UInt8.isUTF8FirstByte_getElem_utf8EncodeChar] at hfirst
    subst hfirst
    -- Both characters are what the bytes are decoded as.
    obtain ⟨b, bytes, hc⟩ := List.exists_cons_of_length_pos hi
    obtain rfl : b = mark.toUInt8 := by simpa [hc] using hbyte
    have hdecoded := ByteArray.utf8DecodeChar?_utf8EncodeChar_append (b := .empty) (c := c)
    have hsame : (String.utf8EncodeChar c).toByteArray ++ ByteArray.empty =
        (String.utf8EncodeChar mark).toByteArray ++ bytes.toByteArray := by
      rw [hc, hencoded, ← List.toByteArray_append]
      simp
    rw [hsame, ByteArray.utf8DecodeChar?_utf8EncodeChar_append] at hdecoded
    exact (Option.some.inj hdecoded).symm
  · rintro rfl
    rw [hencoded]
    exact List.mem_singleton_self _

theorem mem_toBytes (hmark : mark.utf8Size = 1) {s : String} : mark.toUInt8 ∈ toBytes s ↔ mark ∈ s.toList := by
  rw [toBytes_eq, List.mem_flatMap]
  constructor
  · rintro ⟨c, hc, hbyte⟩
    exact (mem_utf8EncodeChar hmark).mp hbyte ▸ hc
  · intro h
    exact ⟨mark, h, (mem_utf8EncodeChar hmark).mpr rfl⟩

/-- Bytes of characters are cut at the byte of a mark where the characters are cut at the mark. -/
theorem exists_cut_chars (hmark : mark.utf8Size = 1) {cs : List Char}
    (h : cs.flatMap String.utf8EncodeChar = before ++ mark.toUInt8 :: behind) :
    ∃ front back, cs = front ++ mark :: back ∧ front.flatMap String.utf8EncodeChar = before ∧
      back.flatMap String.utf8EncodeChar = behind := by
  have hencoded : String.utf8EncodeChar mark = [mark.toUInt8] := String.utf8EncodeChar_eq_singleton hmark
  induction cs generalizing before with
  | nil => simp at h
  | cons c cs ih =>
    rw [List.flatMap_cons, List.append_eq_append_iff] at h
    rcases h with ⟨more, rfl, hrest⟩ | ⟨more, hc, hrest⟩
    · -- The cut is behind the first character.
      obtain ⟨front, back, rfl, hfront, hback⟩ := ih hrest
      exact ⟨c :: front, back, rfl, by rw [List.flatMap_cons, hfront], hback⟩
    · cases more with
      | nil =>
        have hnext : cs.flatMap String.utf8EncodeChar = [] ++ mark.toUInt8 :: behind := hrest.symm
        obtain ⟨front, back, rfl, hfront, hback⟩ := ih hnext
        rw [List.append_nil] at hc
        exact ⟨c :: front, back, rfl, by rw [List.flatMap_cons, hfront, List.append_nil, hc], hback⟩
      | cons b more =>
        -- The byte is in the first character, which is then the mark.
        obtain ⟨rfl, rfl⟩ := List.cons.inj hrest
        obtain rfl : c = mark := (mem_utf8EncodeChar hmark).mp (hc ▸ List.mem_append_right before List.mem_cons_self)
        rw [hencoded] at hc
        rcases List.singleton_eq_append_iff.mp hc with ⟨rfl, hmore⟩ | ⟨-, hnone⟩
        · obtain rfl : more = [] := (List.cons.inj hmore).2
          exact ⟨[], cs, rfl, rfl, rfl⟩
        · cases hnone

/-- A text is cut at the byte of a mark where it is cut at the mark. -/
theorem exists_cut (hmark : mark.utf8Size = 1) {s : String} (h : toBytes s = before ++ mark.toUInt8 :: behind) :
    ∃ front back : String, s.toList = front.toList ++ mark :: back.toList ∧ toBytes front = before ∧
      toBytes back = behind := by
  rw [toBytes_eq] at h
  obtain ⟨front, back, hcs, hfront, hback⟩ := exists_cut_chars hmark h
  exact ⟨.ofList front, .ofList back, by simpa using hcs, by simpa [toBytes_eq] using hfront,
    by simpa [toBytes_eq] using hback⟩

/-- The byte of a mark begins a character. -/
theorem isValid_of_cut (hmark : mark.utf8Size = 1) {s : String} (h : toBytes s = before ++ mark.toUInt8 :: behind) :
    String.Pos.Raw.IsValid s ⟨before.length⟩ := by
  obtain ⟨front, back, hs, rfl, -⟩ := exists_cut hmark h
  have htext : s = front ++ .ofList (mark :: back.toList) := by
    rw [← String.toList_inj, hs, String.toList_append, String.toList_ofList]
  exact String.Pos.Raw.isValid_iff_exists_append.mpr ⟨front, _, htext, by rw [length_toBytes]; rfl⟩

end TableKeeper.Text
