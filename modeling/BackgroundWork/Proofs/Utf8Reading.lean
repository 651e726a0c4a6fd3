import BackgroundWork.Text.Utf8

set_option autoImplicit false

/-!
Reading UTF-8 against writing it. Each of the four widths of a character has one equation for
reading and one for writing, so the reader takes a character off the front of the bytes exactly if
the bytes of that character stand there. Main statement: what is read as a text are the bytes of
that text, and no other bytes are.
-/

namespace BackgroundWork.Text.Utf8

/-! ### One character -/

section

variable {a b c d : UInt8} (rest : List UInt8)

theorem pieces_one (lead : a.toNat < 0x80) :
    pieces (a :: rest) = .char (Char.ofNat a.toNat) :: pieces rest := by
  have low : a < 0x80 := lead
  rw [pieces.eq_def]
  simp only [low, ↓reduceIte]

theorem pieces_two (least : 0xC2 ≤ a.toNat) (greatest : a.toNat ≤ 0xDF) (tail : isTail b = true) :
    pieces (a :: b :: rest) = .char (assemble (a.toNat % 32) [b]) :: pieces rest := by
  have high : ¬a < 0x80 := by rw [UInt8.lt_iff_toNat_lt]; simp; omega
  have width : 0xC2 ≤ a ∧ a ≤ 0xDF := ⟨least, greatest⟩
  rw [pieces.eq_def]
  simp only [high, width, tail, decide_true, Bool.and_self, ↓reduceIte]

theorem pieces_three (least : 0xE0 ≤ a.toNat) (greatest : a.toNat ≤ 0xEF)
    (second : isSecond a b = true) (tail : isTail c = true) :
    pieces (a :: b :: c :: rest) = .char (assemble (a.toNat % 16) [b, c]) :: pieces rest := by
  have high : ¬a < 0x80 := by rw [UInt8.lt_iff_toNat_lt]; simp; omega
  have narrow : ¬a ≤ 0xDF := by rw [UInt8.le_iff_toNat_le]; simp; omega
  have width : 0xE0 ≤ a ∧ a ≤ 0xEF := ⟨least, greatest⟩
  rw [pieces.eq_def]
  simp only [high, narrow, width, second, tail, decide_true, decide_false, Bool.and_self,
    Bool.and_false, Bool.false_eq_true, ↓reduceIte]

theorem pieces_four (least : 0xF0 ≤ a.toNat) (greatest : a.toNat ≤ 0xF4)
    (second : isSecond a b = true) (third : isTail c = true) (tail : isTail d = true) :
    pieces (a :: b :: c :: d :: rest) =
      .char (assemble (a.toNat % 8) [b, c, d]) :: pieces rest := by
  have high : ¬a < 0x80 := by rw [UInt8.lt_iff_toNat_lt]; simp; omega
  have narrow : ¬a ≤ 0xDF ∧ ¬a ≤ 0xEF := by
    constructor <;> rw [UInt8.le_iff_toNat_le] <;> simp <;> omega
  have width : 0xF0 ≤ a ∧ a ≤ 0xF4 := ⟨least, greatest⟩
  rw [pieces.eq_def]
  simp only [high, narrow, width, second, third, tail, decide_true, decide_false, Bool.and_self,
    Bool.and_false, Bool.false_eq_true, ↓reduceIte]

end

theorem isTail_iff {b : UInt8} : isTail b = true ↔ 0x80 ≤ b.toNat ∧ b.toNat ≤ 0xBF := by
  simp [isTail, UInt8.le_iff_toNat_le]

/-- What is left out of the second bytes would be a longer form than needed, a surrogate, or above
the last code point. -/
theorem isSecond_iff {a b : UInt8} :
    isSecond a b = true ↔
      0x80 ≤ b.toNat ∧ b.toNat ≤ 0xBF ∧ (a.toNat = 0xE0 → 0xA0 ≤ b.toNat) ∧
        (a.toNat = 0xED → b.toNat ≤ 0x9F) ∧ (a.toNat = 0xF0 → 0x90 ≤ b.toNat) ∧
        (a.toNat = 0xF4 → b.toNat ≤ 0x8F) := by
  simp only [isSecond, secondRange, beq_iff_eq, Bool.and_eq_true, decide_eq_true_eq,
    UInt8.le_iff_toNat_le, ← UInt8.toNat_inj]
  split
  · simp_all; omega
  split
  · simp_all; omega
  split
  · simp_all; omega
  split
  · simp_all; omega
  · simp_all

theorem assemble_eq (high : Nat) (tails : List UInt8) :
    assemble high tails = Char.ofNat (tails.foldl (fun code b => code * 64 + b.toNat % 64) high) :=
  rfl

/-- The bytes of a character are read as that character. -/
theorem pieces_encodeChar (c : Char) (rest : List UInt8) :
    pieces (String.utf8EncodeChar c ++ rest) = .char c :: pieces rest := by
  have bound : c.val.toNat < 0xD800 ∨ 0xDFFF < c.val.toNat ∧ c.val.toNat < 0x110000 := c.valid
  have self : Char.ofNat c.val.toNat = c := Char.ofNat_toNat c
  generalize code : c.val.toNat = v at bound self
  have byte : ∀ n : Nat, n < 256 → (UInt8.ofNat n).toNat = n := fun n below =>
    UInt8.toNat_ofNat_of_lt' below
  unfold String.utf8EncodeChar
  simp only [code]
  split
  · have one := byte v (by omega)
    rw [List.singleton_append, pieces_one rest (by omega), one, self]
  split
  · have first := byte (v / 64 % 32 + 192) (by omega)
    have second := byte (v % 64 + 128) (by omega)
    change pieces (_ :: _ :: rest) = _
    rw [pieces_two rest (by omega) (by omega) (isTail_iff.2 (by omega)), assemble_eq]
    simp only [List.foldl_cons, List.foldl_nil, first, second]
    rw [← self]
    congr 3
    omega
  split
  · have first := byte (v / 4096 % 16 + 224) (by omega)
    have second := byte (v / 64 % 64 + 128) (by omega)
    have third := byte (v % 64 + 128) (by omega)
    change pieces (_ :: _ :: _ :: rest) = _
    rw [pieces_three rest (by omega) (by omega) (isSecond_iff.2 (by omega))
      (isTail_iff.2 (by omega)), assemble_eq]
    simp only [List.foldl_cons, List.foldl_nil, first, second, third]
    rw [← self]
    congr 3
    omega
  · have first := byte (v / 262144 % 8 + 240) (by omega)
    have second := byte (v / 4096 % 64 + 128) (by omega)
    have third := byte (v / 64 % 64 + 128) (by omega)
    have fourth := byte (v % 64 + 128) (by omega)
    change pieces (_ :: _ :: _ :: _ :: rest) = _
    rw [pieces_four rest (by omega) (by omega) (isSecond_iff.2 (by omega))
      (isTail_iff.2 (by omega)) (isTail_iff.2 (by omega)), assemble_eq]
    simp only [List.foldl_cons, List.foldl_nil, first, second, third, fourth]
    rw [← self]
    congr 3
    omega

/-- The bytes of the character with a given code point. -/
theorem encodeChar_ofNat {n : Nat} (valid : n < 0xD800 ∨ 0xDFFF < n ∧ n < 0x110000) :
    String.utf8EncodeChar (Char.ofNat n) =
      if n ≤ 127 then [.ofNat n]
      else if n ≤ 2047 then [.ofNat (n / 64 % 32 + 192), .ofNat (n % 64 + 128)]
      else if n ≤ 65535 then
        [.ofNat (n / 4096 % 16 + 224), .ofNat (n / 64 % 64 + 128), .ofNat (n % 64 + 128)]
      else
        [.ofNat (n / 262144 % 8 + 240), .ofNat (n / 4096 % 64 + 128), .ofNat (n / 64 % 64 + 128),
          .ofNat (n % 64 + 128)] := by
  have known : n.isValidChar := valid
  have code : (Char.ofNat n).val.toNat = n := by
    rw [Char.ofNat, dif_pos known]
    rfl
  unfold String.utf8EncodeChar
  simp only [code]

theorem ofNat_of_eq {n : Nat} {b : UInt8} (same : n = b.toNat) : UInt8.ofNat n = b := by
  rw [same, UInt8.ofNat_toNat]

section

variable {a b c d : UInt8}

theorem encodeChar_one (lead : a.toNat < 0x80) :
    String.utf8EncodeChar (Char.ofNat a.toNat) = [a] := by
  rw [encodeChar_ofNat (by omega), if_pos (by omega), UInt8.ofNat_toNat]

theorem encodeChar_two (least : 0xC2 ≤ a.toNat) (greatest : a.toNat ≤ 0xDF)
    (tail : isTail b = true) :
    String.utf8EncodeChar (assemble (a.toNat % 32) [b]) = [a, b] := by
  have last := isTail_iff.1 tail
  simp only [assemble, List.foldl_cons, List.foldl_nil]
  rw [encodeChar_ofNat (by omega), if_neg (by omega), if_pos (by omega),
    ofNat_of_eq (b := a) (by omega), ofNat_of_eq (b := b) (by omega)]

theorem encodeChar_three (least : 0xE0 ≤ a.toNat) (greatest : a.toNat ≤ 0xEF)
    (second : isSecond a b = true) (tail : isTail c = true) :
    String.utf8EncodeChar (assemble (a.toNat % 16) [b, c]) = [a, b, c] := by
  have middle := isSecond_iff.1 second
  have last := isTail_iff.1 tail
  simp only [assemble, List.foldl_cons, List.foldl_nil]
  rw [encodeChar_ofNat (by omega), if_neg (by omega), if_neg (by omega), if_pos (by omega),
    ofNat_of_eq (b := a) (by omega), ofNat_of_eq (b := b) (by omega),
    ofNat_of_eq (b := c) (by omega)]

theorem encodeChar_four (least : 0xF0 ≤ a.toNat) (greatest : a.toNat ≤ 0xF4)
    (second : isSecond a b = true) (third : isTail c = true) (tail : isTail d = true) :
    String.utf8EncodeChar (assemble (a.toNat % 8) [b, c, d]) = [a, b, c, d] := by
  have middle := isSecond_iff.1 second
  have later := isTail_iff.1 third
  have last := isTail_iff.1 tail
  simp only [assemble, List.foldl_cons, List.foldl_nil]
  rw [encodeChar_ofNat (by omega), if_neg (by omega), if_neg (by omega), if_neg (by omega),
    ofNat_of_eq (b := a) (by omega), ofNat_of_eq (b := b) (by omega),
    ofNat_of_eq (b := c) (by omega), ofNat_of_eq (b := d) (by omega)]

end

/-- What is read as a character are the bytes of that character. -/
theorem eq_encodeChar_of_pieces {bytes : List UInt8} {c : Char} {later : List Piece}
    (read : pieces bytes = .char c :: later) :
    ∃ rest, bytes = String.utf8EncodeChar c ++ rest ∧ pieces rest = later := by
  have found : ∀ {read : Char} {front rest : List UInt8},
      .char read :: pieces rest = .char c :: later → String.utf8EncodeChar read = front →
        ∃ tail, front ++ rest = String.utf8EncodeChar c ++ tail ∧ pieces tail = later := by
    intro read front rest same encoded
    obtain ⟨first, rfl⟩ := List.cons.inj same
    obtain rfl := Piece.char.inj first
    exact ⟨rest, by rw [encoded], rfl⟩
  revert read
  fun_cases pieces bytes with
  | case2 a rest low =>
    exact fun read => found read (encodeChar_one low)
  | case4 a _ lead b rest tail =>
    simp only [Bool.and_eq_true, decide_eq_true_eq] at lead
    exact fun read => found read (encodeChar_two lead.1 lead.2 tail)
  | case8 a _ _ lead b second c rest tail =>
    simp only [Bool.and_eq_true, decide_eq_true_eq] at lead
    exact fun read => found read (encodeChar_three lead.1 lead.2 second tail)
  | case14 a _ _ _ lead b second c third d rest tail =>
    simp only [Bool.and_eq_true, decide_eq_true_eq] at lead
    exact fun read => found read (encodeChar_four lead.1 lead.2 second third tail)
  | _ => exact nofun

/-! ### Texts -/

theorem pieces_eq_nil {bytes : List UInt8} (none : pieces bytes = []) : bytes = [] := by
  revert none
  fun_cases pieces bytes with
  | case1 => exact fun _ => rfl
  | _ => exact nofun

theorem charsFrom_eq_ok_iff (index : Nat) {bytes : List UInt8} {chars : List Char} :
    charsFrom index (pieces bytes) = .ok chars ↔
      bytes = chars.flatMap String.utf8EncodeChar := by
  constructor
  · intro read
    generalize cut : pieces bytes = list at read
    induction list generalizing index bytes chars with
    | nil =>
      obtain rfl := Except.ok.inj read
      exact pieces_eq_nil cut
    | cons piece later ih =>
      cases piece with
      | char c =>
        obtain ⟨rest, rfl, further⟩ := eq_encodeChar_of_pieces cut
        simp only [charsFrom] at read
        cases remaining : charsFrom (index + c.utf8Size) later with
        | error fault =>
          rw [remaining] at read
          cases read
        | ok others =>
          rw [remaining] at read
          obtain rfl := Except.ok.inj read
          rw [ih _ further remaining, List.flatMap_cons]
      | ill | cut => cases read
  · rintro rfl
    induction chars generalizing index with
    | nil => rfl
    | cons c chars ih =>
      rw [List.flatMap_cons, pieces_encodeChar, charsFrom, ih]
      rfl

theorem toList_eq (bytes : ByteArray) : bytes.toList = bytes.data.toList := by
  have loop : ∀ (i : Nat) (before : List UInt8),
      ByteArray.toList.loop bytes i before = before.reverse ++ bytes.data.toList.drop i := by
    intro i before
    fun_induction ByteArray.toList.loop bytes i before with
    | case1 i before more ih =>
      have inside : i < bytes.data.toList.length := more
      have found : bytes.get! i = bytes.data.toList[i] := getElem!_pos bytes.data i more
      rw [ih, found, List.drop_eq_getElem_cons inside, List.reverse_cons, List.append_assoc,
        List.singleton_append]
    | case2 i before done =>
      have outside : bytes.data.toList.length ≤ i := Nat.le_of_not_lt done
      rw [List.drop_eq_nil_of_le outside, List.append_nil]
  rw [ByteArray.toList, loop]
  rfl

theorem encode_eq (text : String) : encode text = text.toList.flatMap String.utf8EncodeChar := by
  unfold encode
  rw [toList_eq]
  change text.toByteArray.data.toList = _
  rw [← String.utf8Encode_toList, List.utf8Encode, List.toList_data_toByteArray]

/-- Reading accepts exactly the bytes of texts. -/
theorem decode_eq_ok_iff {bytes : List UInt8} {text : String} :
    decode bytes = .ok text ↔ bytes = encode text := by
  rw [encode_eq, ← charsFrom_eq_ok_iff 0]
  unfold decode
  cases charsFrom 0 (pieces bytes) with
  | error fault => exact ⟨nofun, nofun⟩
  | ok chars =>
    constructor
    · intro read
      rw [← Except.ok.inj read, String.toList_ofList]
    · intro read
      rw [Except.ok.inj read]
      exact congrArg Except.ok (String.ofList_toList)

end BackgroundWork.Text.Utf8
