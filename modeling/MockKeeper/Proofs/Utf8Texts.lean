import MockKeeper.Text.Utf8

/-! Bytes that are UTF-8. They can be put together, and taken apart at an ASCII byte, which is a
character by itself wherever it stands. -/

namespace MockKeeper.Utf8

/-- The bytes of some characters. -/
def Valid (bytes : Bytes) : Prop := ∃ chars : List Char, bytes = chars.flatMap String.utf8EncodeChar

private theorem toList_loop (array : ByteArray) (start : Nat) (seen : List UInt8) :
    ByteArray.toList.loop array start seen = seen.reverse ++ array.data.toList.drop start := by
  fun_induction ByteArray.toList.loop array start seen with
  | case1 start seen more ih =>
    have inside : start < array.data.toList.length := more
    rw [ih, List.drop_eq_getElem_cons inside]
    simp [ByteArray.get!, more]
  | case2 start seen ended =>
    have outside : array.data.toList.length ≤ start := Nat.le_of_not_lt ended
    rw [List.drop_eq_nil_of_le outside, List.append_nil]

private theorem toList_eq (array : ByteArray) : array.toList = array.data.toList := by
  rw [ByteArray.toList, toList_loop, List.reverse_nil, List.nil_append, List.drop_zero]

theorem encode_eq (text : String) : encode text = text.toList.flatMap String.utf8EncodeChar := by
  rw [encode, String.toUTF8_eq_toByteArray, ← String.utf8Encode_toList, List.utf8Encode, toList_eq,
    List.toList_data_toByteArray]

theorem encode_append (first last : String) : encode (first ++ last) = encode first ++ encode last := by
  rw [encode_eq, String.toList_append, List.flatMap_append, ← encode_eq, ← encode_eq]

theorem valid_encode (text : String) : Valid (encode text) := ⟨text.toList, encode_eq text⟩

theorem decode?_isSome {bytes : Bytes} : (decode? bytes).isSome = true ↔ Valid bytes := by
  have array : (⟨bytes.toArray⟩ : ByteArray) = bytes.toByteArray := by
    apply ByteArray.ext
    rw [← Array.toList_inj, List.toList_data_toByteArray]
  unfold decode? String.fromUTF8?
  rw [array]
  split
  next valid =>
    refine iff_of_true rfl ?_
    obtain ⟨chars, same⟩ := valid
    refine ⟨chars, ?_⟩
    rw [← List.toList_data_toByteArray (l := bytes), same, List.utf8Encode, List.toList_data_toByteArray]
  next invalid =>
    refine iff_of_false Bool.false_ne_true fun ⟨chars, same⟩ => invalid ⟨chars, ?_⟩
    rw [same]
    rfl

theorem Valid.append {first last : Bytes} (before : Valid first) (behind : Valid last) : Valid (first ++ last) := by
  obtain ⟨chars, rfl⟩ := before
  obtain ⟨more, rfl⟩ := behind
  exact ⟨chars ++ more, List.flatMap_append.symm⟩

theorem valid_nil : Valid [] := ⟨[], rfl⟩

/-- The bytes of a character are one ASCII byte, or none of them is ASCII. -/
theorem encodeChar_ascii {char : Char} {byte : UInt8} (member : byte ∈ String.utf8EncodeChar char)
    (ascii : byte < 0x80) : String.utf8EncodeChar char = [byte] ∧ char.toNat = byte.toNat := by
  have least : byte.toNat < 128 := ascii
  fun_cases String.utf8EncodeChar char with
  | case1 value small =>
    rw [String.utf8EncodeChar, if_pos small] at member
    rw [List.mem_singleton.mp member, UInt8.toNat_ofNat']
    exact ⟨rfl, (Nat.mod_eq_of_lt (Nat.lt_of_le_of_lt small (by decide))).symm⟩
  | case2 value big small =>
    rw [String.utf8EncodeChar, if_neg big, if_pos small] at member
    simp only [List.mem_cons, List.not_mem_nil, or_false, ← UInt8.toNat_inj, UInt8.toNat_ofNat'] at member
    omega
  | case3 value big bigger small =>
    rw [String.utf8EncodeChar, if_neg big, if_neg bigger, if_pos small] at member
    simp only [List.mem_cons, List.not_mem_nil, or_false, ← UInt8.toNat_inj, UInt8.toNat_ofNat'] at member
    omega
  | case4 value big bigger biggest =>
    rw [String.utf8EncodeChar, if_neg big, if_neg bigger, if_neg biggest] at member
    simp only [List.mem_cons, List.not_mem_nil, or_false, ← UInt8.toNat_inj, UInt8.toNat_ofNat'] at member
    omega

theorem encodeChar_of_ascii {byte : UInt8} (ascii : byte < 0x80) :
    String.utf8EncodeChar (Char.ofNat byte.toNat) = [byte] := by
  have each : ∀ number : Fin 256, UInt8.ofFin number < 0x80 →
      String.utf8EncodeChar (Char.ofNat (UInt8.ofFin number).toNat) = [UInt8.ofFin number] := by
    decide +kernel
  exact each byte.toFin ascii

theorem valid_of_ascii {bytes : Bytes} (ascii : ∀ byte ∈ bytes, byte < 0x80) : Valid bytes := by
  refine ⟨bytes.map fun byte => Char.ofNat byte.toNat, ?_⟩
  induction bytes with
  | nil => rfl
  | cons byte rest ih =>
    rw [List.map_cons, List.flatMap_cons, encodeChar_of_ascii (ascii byte (by simp)), List.singleton_append,
      ← ih fun other member => ascii other (by simp [member])]

theorem Valid.around {first last : Bytes} {byte : UInt8} (valid : Valid (first ++ byte :: last))
    (ascii : byte < 0x80) : Valid first ∧ Valid last := by
  obtain ⟨chars, same⟩ := valid
  induction chars generalizing first with
  | nil => simp at same
  | cons char rest ih =>
    rw [List.flatMap_cons] at same
    rcases List.append_eq_append_iff.mp same with ⟨more, sameChar, sameRest⟩ | ⟨more, sameFirst, sameRest⟩
    · cases more with
      | nil =>
        rw [List.append_nil] at sameChar
        have behind := (@ih [] sameRest).2
        exact ⟨⟨[char], by simp [sameChar]⟩, behind⟩
      | cons head more =>
        -- an ASCII byte among the bytes of a character is all of them
        obtain ⟨rfl, sameLast⟩ := List.cons.inj sameRest
        have among : byte ∈ String.utf8EncodeChar char := by simp [sameChar]
        obtain ⟨alone, -⟩ := encodeChar_ascii among ascii
        have short := congrArg List.length (alone.symm.trans sameChar)
        simp only [List.length_append, List.length_cons, List.length_nil] at short
        obtain rfl : first = [] := List.eq_nil_of_length_eq_zero (by omega)
        obtain rfl : more = [] := List.eq_nil_of_length_eq_zero (by omega)
        exact ⟨valid_nil, rest, sameLast⟩
    · obtain ⟨⟨front, sameFront⟩, behind⟩ := ih sameRest.symm
      refine ⟨⟨char :: front, ?_⟩, behind⟩
      rw [sameFirst, sameFront, List.flatMap_cons]

theorem Valid.behind {front last : Bytes} (valid : Valid (front ++ last)) (ascii : ∀ byte ∈ front, byte < 0x80) :
    Valid last := by
  induction front with
  | nil => exact valid
  | cons byte front ih =>
    have rest : Valid ([] ++ byte :: (front ++ last)) := valid
    exact ih (rest.around (ascii byte List.mem_cons_self)).2 fun other member => ascii other (List.mem_cons_of_mem _ member)

theorem Valid.before {first back : Bytes} (valid : Valid (first ++ back)) (ascii : ∀ byte ∈ back, byte < 0x80) :
    Valid first := by
  cases back with
  | nil => rwa [List.append_nil] at valid
  | cons byte back => exact (valid.around (ascii byte List.mem_cons_self)).1

theorem mem_of_mem_encode {text : String} {byte : UInt8} (member : byte ∈ encode text) (ascii : byte < 0x80) :
    Char.ofNat byte.toNat ∈ text.toList := by
  rw [encode_eq] at member
  obtain ⟨char, inside, among⟩ := List.mem_flatMap.mp member
  rwa [← (encodeChar_ascii among ascii).2, Char.ofNat_toNat]

end MockKeeper.Utf8
