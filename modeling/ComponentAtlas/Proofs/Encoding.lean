import ComponentAtlas.Disk.Text

/-!
# Texts through bytes

A character is one to four bytes. The first of them tells how many there are, and the rest of
its code point is spread over six bits of each of the others. So the bytes of a text are cut
back into its characters, and a text without carriage returns is read from a disk as it was
written.
-/

namespace ComponentAtlas.Text

namespace Utf8

/-- The bytes of an array, collected in turn, are its bytes. -/
theorem toList_loop (bytes : ByteArray) (start : Nat) (collected : List UInt8) :
    ByteArray.toList.loop bytes start collected =
      collected.reverse ++ bytes.data.toList.drop start := by
  fun_induction ByteArray.toList.loop bytes start collected with
  | case1 start collected inside ih =>
    have within : start < bytes.data.toList.length := by simpa using inside
    rw [ih, List.drop_eq_getElem_cons within]
    simp [ByteArray.get!, inside]
  | case2 start collected outside =>
    rw [List.drop_eq_nil_of_le (by simpa using Nat.le_of_not_lt outside)]
    simp

/-- The bytes of a text are those of its characters in turn. -/
theorem encode_eq_flatMap (s : String) : encode s = s.toList.flatMap String.utf8EncodeChar := by
  rw [encode, String.toUTF8_eq_toByteArray, ← String.utf8Encode_toList, ByteArray.toList,
    toList_loop]
  simp [List.utf8Encode]

/-- A number that fits in a byte is the value of that byte. -/
theorem toNat_ofNat {n : Nat} (small : n < 256) : (UInt8.ofNat n).toNat = n := by
  simpa using small

/-- A byte that continues a character holds six bits of it. -/
theorem continuation {bits : Nat} (small : bits < 64) :
    isContinuation (UInt8.ofNat (bits + 0x80)) = true ∧
      payload (UInt8.ofNat (bits + 0x80)) = bits := by
  have byte : (UInt8.ofNat (bits + 0x80)).toNat = bits + 0x80 := toNat_ofNat (by omega)
  constructor
  · simp only [isContinuation, Bool.and_eq_true, decide_eq_true_eq, UInt8.le_iff_toNat_le,
      UInt8.lt_iff_toNat_lt, byte]
    exact ⟨Nat.le_add_left _ _, by simpa using by omega⟩
  · rw [payload, byte]
    omega

section

variable {lead second third fourth : UInt8} {rest : List UInt8}

/-- A byte of ASCII is a character by itself. -/
theorem leading_one (ascii : lead.toNat < 0x80) :
    leading lead rest = .char (Char.ofNat lead.toNat) 1 := by
  have low : lead < 0x80 := by simpa [UInt8.lt_iff_toNat_lt] using ascii
  unfold leading
  rw [if_pos low]

/-- Two bytes are a character, if the second goes on with it. -/
theorem leading_two (least : 0xC2 ≤ lead.toNat) (most : lead.toNat < 0xE0)
    (next : isContinuation second = true) :
    leading lead (second :: rest) =
      .char (Char.ofNat ((lead.toNat - 0xC0) * 64 + payload second)) 2 := by
  have above : ¬ lead < 0x80 ∧ ¬ lead < 0xC2 := by
    simp only [UInt8.lt_iff_toNat_lt, UInt8.reduceToNat]
    omega
  have below : lead < 0xE0 := by simpa [UInt8.lt_iff_toNat_lt] using most
  unfold leading
  rw [if_neg above.1, if_neg above.2, if_pos below]
  simp only [next, if_true]

/-- Three bytes are a character, if the second may follow the first and the third goes on with it.
-/
theorem leading_three (least : 0xE0 ≤ lead.toNat) (most : lead.toNat < 0xF0)
    (next : mayFollow lead second = true) (last : isContinuation third = true) :
    leading lead (second :: third :: rest) =
      .char (Char.ofNat (((lead.toNat - 0xE0) * 64 + payload second) * 64 + payload third)) 3 := by
  have above : ¬ lead < 0x80 ∧ ¬ lead < 0xC2 ∧ ¬ lead < 0xE0 := by
    simp only [UInt8.lt_iff_toNat_lt, UInt8.reduceToNat]
    omega
  have below : lead < 0xF0 := by simpa [UInt8.lt_iff_toNat_lt] using most
  unfold leading
  rw [if_neg above.1, if_neg above.2.1, if_neg above.2.2, if_pos below]
  simp only [next, last, if_true]

/-- Four bytes are a character, if the second may follow the first and the others go on with it. -/
theorem leading_four (least : 0xF0 ≤ lead.toNat) (most : lead.toNat < 0xF5)
    (next : mayFollow lead second = true) (later : isContinuation third = true)
    (last : isContinuation fourth = true) :
    leading lead (second :: third :: fourth :: rest) =
      .char (Char.ofNat ((((lead.toNat - 0xF0) * 64 + payload second) * 64 + payload third) * 64 +
        payload fourth)) 4 := by
  have above : ¬ lead < 0x80 ∧ ¬ lead < 0xC2 ∧ ¬ lead < 0xE0 ∧ ¬ lead < 0xF0 := by
    simp only [UInt8.lt_iff_toNat_lt, UInt8.reduceToNat]
    omega
  have below : lead < 0xF5 := by simpa [UInt8.lt_iff_toNat_lt] using most
  unfold leading
  rw [if_neg above.1, if_neg above.2.1, if_neg above.2.2.1, if_neg above.2.2.2, if_pos below]
  simp only [next, later, last, if_true]

/-- What a byte has to keep to when it is the second of a character. -/
theorem mayFollow_of (next : isContinuation second = true)
    (longer : lead.toNat = 0xE0 → 0xA0 ≤ second.toNat)
    (whole : lead.toNat = 0xED → second.toNat < 0xA0)
    (longest : lead.toNat = 0xF0 → 0x90 ≤ second.toNat)
    (bounded : lead.toNat = 0xF4 → second.toNat < 0x90) : mayFollow lead second = true := by
  simp only [mayFollow, next, Bool.true_and, Bool.not_eq_true', Bool.or_eq_false_iff,
    Bool.and_eq_false_iff, beq_eq_false_iff_ne, decide_eq_false_iff_not, ne_eq,
    ← UInt8.toNat_inj, UInt8.lt_iff_toNat_lt, UInt8.le_iff_toNat_le, UInt8.reduceToNat]
  omega

end

/-- The code point of a character, which is no surrogate. -/
theorem code_bounds (c : Char) :
    c.val.toNat < 0x110000 ∧ ¬ (0xD800 ≤ c.val.toNat ∧ c.val.toNat < 0xE000) := by
  rcases c.valid with low | ⟨high, bounded⟩
  · have below : c.val.toNat < 0xD800 := low
    omega
  · have above : 0xDFFF < c.val.toNat := high
    have most : c.val.toNat < 0x110000 := bounded
    omega

/-- Where the bytes of a character are next, they are a piece. The cases are those of the number
of bytes. -/
theorem leading_encodeChar (c : Char) :
    ∃ lead more, String.utf8EncodeChar c = lead :: more ∧
      ∀ rest, leading lead (more ++ rest) = .char c (more.length + 1) := by
  have code : ∀ n, n = c.val.toNat → Char.ofNat n = c := by
    rintro n rfl
    exact Char.ofNat_toNat c
  obtain ⟨bounded, whole⟩ := code_bounds c
  rw [String.utf8EncodeChar]
  generalize c.val.toNat = v at code bounded whole
  have low := continuation (Nat.mod_lt v (show 0 < 64 by decide))
  have middle := continuation (Nat.mod_lt (v / 64) (show 0 < 64 by decide))
  have high := continuation (Nat.mod_lt (v / 4096) (show 0 < 64 by decide))
  by_cases one : v ≤ 0x7f
  · refine ⟨_, [], by rw [if_pos one], fun rest => ?_⟩
    have lead : (UInt8.ofNat v).toNat = v := toNat_ofNat (by omega)
    rw [List.nil_append, leading_one (by omega), lead, code v rfl]
    rfl
  by_cases two : v ≤ 0x7ff
  · refine ⟨_, [_], by rw [if_neg one, if_pos two], fun rest => ?_⟩
    have lead : (UInt8.ofNat (v / 64 % 0x20 + 0xc0)).toNat = v / 64 + 0xc0 := by
      rw [toNat_ofNat] <;> omega
    rw [List.singleton_append, leading_two (by omega) (by omega) low.1, lead, low.2,
      code _ (by omega)]
    rfl
  by_cases three : v ≤ 0xffff
  · refine ⟨_, [_, _], by rw [if_neg one, if_neg two, if_pos three], fun rest => ?_⟩
    have lead : (UInt8.ofNat (v / 4096 % 0x10 + 0xe0)).toNat = v / 4096 + 0xe0 := by
      rw [toNat_ofNat] <;> omega
    have second : (UInt8.ofNat (v / 64 % 0x40 + 0x80)).toNat = v / 64 % 0x40 + 0x80 :=
      toNat_ofNat (by omega)
    have next : mayFollow (UInt8.ofNat (v / 4096 % 0x10 + 0xe0))
        (UInt8.ofNat (v / 64 % 0x40 + 0x80)) = true :=
      mayFollow_of middle.1 (by omega) (by omega) (by omega) (by omega)
    rw [List.cons_append, List.singleton_append,
      leading_three (by omega) (by omega) next low.1, lead, low.2, middle.2, code _ (by omega)]
    rfl
  · refine ⟨_, [_, _, _], by rw [if_neg one, if_neg two, if_neg three], fun rest => ?_⟩
    have lead : (UInt8.ofNat (v / 262144 % 0x08 + 0xf0)).toNat = v / 262144 + 0xf0 := by
      rw [toNat_ofNat] <;> omega
    have second : (UInt8.ofNat (v / 4096 % 0x40 + 0x80)).toNat = v / 4096 % 0x40 + 0x80 :=
      toNat_ofNat (by omega)
    have next : mayFollow (UInt8.ofNat (v / 262144 % 0x08 + 0xf0))
        (UInt8.ofNat (v / 4096 % 0x40 + 0x80)) = true :=
      mayFollow_of high.1 (by omega) (by omega) (by omega) (by omega)
    rw [List.cons_append, List.cons_append, List.singleton_append,
      leading_four (by omega) (by omega) next middle.1 low.1, lead, low.2, middle.2, high.2,
      code _ (by omega)]
    rfl

/-- The bytes of a character are cut off as one piece. -/
theorem pieces_encodeChar (c : Char) (rest : List UInt8) :
    pieces (String.utf8EncodeChar c ++ rest) =
      .char c (String.utf8EncodeChar c).length :: pieces rest := by
  obtain ⟨lead, more, bytes, piece⟩ := leading_encodeChar c
  rw [bytes, List.cons_append, pieces, piece rest, List.length_cons]
  simp [Piece.width]

/-- The pieces of the bytes of characters are those characters. -/
theorem collect_pieces (bytes : List UInt8) (start : Nat) (chars : List Char) :
    collect bytes start (pieces (chars.flatMap String.utf8EncodeChar)) = .ok chars := by
  induction chars generalizing start with
  | nil => simp [pieces, collect]
  | cons c chars ih =>
    rw [List.flatMap_cons, pieces_encodeChar, collect, ih]
    rfl

/-- A text is read back from its bytes. -/
theorem decode_encode (s : String) : decode (encode s) = .ok s := by
  rw [decode, encode_eq_flatMap, collect_pieces]
  simp [Except.map]

end Utf8

/-- Without carriage returns there are no line ends to unify. -/
theorem unifyNewlines_eq_self {chars : List Char} (plain : '\r' ∉ chars) :
    unifyNewlines chars = chars := by
  induction chars with
  | nil => rfl
  | cons c rest ih =>
    obtain ⟨other, later⟩ := List.ne_and_not_mem_of_not_mem_cons plain
    have solid : c ≠ '\r' := Ne.symm other
    simp [unifyNewlines, solid, ih later]

end ComponentAtlas.Text

namespace ComponentAtlas.Disk

/-- Looking at a disk leaves it as it is. -/
theorem run_get {ε α : Type} (next : Disk → ExceptT ε (StateM Disk) α) (disk : Disk) :
    (get >>= next).run disk = (next disk).run disk := rfl

/-- A text without carriage returns is read from the bytes that were written for it. -/
theorem readText_of_readBytes {disk : Disk} {path text : String} (plain : '\r' ∉ text.toList)
    (held : disk.readBytes path = .ok (Text.Utf8.encode text)) :
    disk.readText path = .ok text := by
  simp [readText, held, textOf, Text.Utf8.decode_encode, Text.unifyNewlines_eq_self plain]

/-- A path that is read leads to an entry. -/
theorem holds_of_readText {disk : Disk} {path text : String}
    (read : disk.readText path = .ok text) : disk.holds path = true := by
  rw [holds, find?]
  cases found : disk.locate true path with
  | error cause => simp [readText, readBytes, found] at read
  | ok destination =>
    cases destination with
    | present place entry => rfl
    | absent place => simp [readText, readBytes, found] at read

end ComponentAtlas.Disk
