/-
Bytes of a text read back as the text. The front of a text's bytes is the
shortest encoding of its first character, so the reader takes that character
and goes on with the bytes of the others. No other bytes are read as a text.
-/
import MetaGraph.Text.Utf8

namespace MetaGraph.Utf8

/-! ## A character -/

theorem toNat_ofNat {n : Nat} (h : n < 256) : (UInt8.ofNat n).toNat = n := by
  simp [Nat.mod_eq_of_lt h]

/-- Six bits in a continuation byte. -/
theorem isContinuation_ofNat (n : Nat) : isContinuation (UInt8.ofNat (n % 0x40 + 0x80)) = true := by
  have h := toNat_ofNat (n := n % 0x40 + 0x80) (by omega)
  simp only [isContinuation, Bool.and_eq_true, decide_eq_true_eq, UInt8.le_iff_toNat_le,
    UInt8.lt_iff_toNat_lt, h]
  exact ⟨by simp, by simp; omega⟩

theorem low_ofNat (n : Nat) : low (UInt8.ofNat (n % 0x40 + 0x80)) = n % 0x40 := by
  rw [low, toNat_ofNat (by omega)]
  omega

theorem first?_one {v : Nat} (hv : v ≤ 0x7f) (rest : Bytes) :
    first? (UInt8.ofNat v :: rest) = some (Char.ofNat v, rest) := by
  have h := toNat_ofNat (n := v) (by omega)
  have small : UInt8.ofNat v < 0x80 := UInt8.lt_iff_toNat_lt.2 (by rw [h]; simp; omega)
  simp only [first?, if_pos small, h]

theorem first?_two {v : Nat} (hl : 0x7f < v) (hv : v ≤ 0x7ff) (rest : Bytes) :
    first? (UInt8.ofNat (v / 64 % 0x20 + 0xc0) :: UInt8.ofNat (v % 0x40 + 0x80) :: rest) =
      some (Char.ofNat v, rest) := by
  have h := toNat_ofNat (n := v / 64 % 0x20 + 0xc0) (by omega)
  have big : ¬ UInt8.ofNat (v / 64 % 0x20 + 0xc0) < 0x80 := by
    rw [UInt8.lt_iff_toNat_lt, h]; simp
  have two : 0xC2 ≤ UInt8.ofNat (v / 64 % 0x20 + 0xc0) ∧ UInt8.ofNat (v / 64 % 0x20 + 0xc0) < 0xE0 := by
    rw [UInt8.le_iff_toNat_le, UInt8.lt_iff_toNat_lt, h]; simp; omega
  rw [first?, if_neg big, if_pos two]
  simp only [isContinuation_ofNat, if_true, low_ofNat, h]
  congr 3
  omega

theorem first?_three {v : Nat} (hl : 0x7ff < v) (hv : v ≤ 0xffff) (hs : ¬ (0xD800 ≤ v ∧ v < 0xE000))
    (rest : Bytes) :
    first? (UInt8.ofNat (v / 4096 % 0x10 + 0xe0) :: UInt8.ofNat (v / 64 % 0x40 + 0x80) ::
      UInt8.ofNat (v % 0x40 + 0x80) :: rest) = some (Char.ofNat v, rest) := by
  have h := toNat_ofNat (n := v / 4096 % 0x10 + 0xe0) (by omega)
  have big : ¬ UInt8.ofNat (v / 4096 % 0x10 + 0xe0) < 0x80 := by
    rw [UInt8.lt_iff_toNat_lt, h]; simp
  have nottwo : ¬ (0xC2 ≤ UInt8.ofNat (v / 4096 % 0x10 + 0xe0) ∧
      UInt8.ofNat (v / 4096 % 0x10 + 0xe0) < 0xE0) := by
    rw [UInt8.le_iff_toNat_le, UInt8.lt_iff_toNat_lt, h]; simp
  have three : 0xE0 ≤ UInt8.ofNat (v / 4096 % 0x10 + 0xe0) ∧
      UInt8.ofNat (v / 4096 % 0x10 + 0xe0) < 0xF0 := by
    rw [UInt8.le_iff_toNat_le, UInt8.lt_iff_toNat_lt, h]; simp; omega
  have value : ((v / 4096 % 0x10 + 0xe0 - 0xE0) * 64 + v / 64 % 0x40) * 64 + v % 0x40 = v := by omega
  rw [first?, if_neg big, if_neg nottwo, if_pos three]
  simp only [isContinuation_ofNat, low_ofNat, h, value, Bool.true_and]
  rw [if_pos]
  simp only [Bool.and_eq_true, decide_eq_true_eq, Bool.not_eq_true', decide_eq_false_iff_not]
  exact ⟨by omega, hs⟩

theorem first?_four {v : Nat} (hl : 0xffff < v) (hv : v < 0x110000) (rest : Bytes) :
    first? (UInt8.ofNat (v / 262144 % 0x08 + 0xf0) :: UInt8.ofNat (v / 4096 % 0x40 + 0x80) ::
      UInt8.ofNat (v / 64 % 0x40 + 0x80) :: UInt8.ofNat (v % 0x40 + 0x80) :: rest) =
      some (Char.ofNat v, rest) := by
  have h := toNat_ofNat (n := v / 262144 % 0x08 + 0xf0) (by omega)
  have big : ¬ UInt8.ofNat (v / 262144 % 0x08 + 0xf0) < 0x80 := by
    rw [UInt8.lt_iff_toNat_lt, h]; simp
  have nottwo : ¬ (0xC2 ≤ UInt8.ofNat (v / 262144 % 0x08 + 0xf0) ∧
      UInt8.ofNat (v / 262144 % 0x08 + 0xf0) < 0xE0) := by
    rw [UInt8.le_iff_toNat_le, UInt8.lt_iff_toNat_lt, h]; simp
  have notthree : ¬ (0xE0 ≤ UInt8.ofNat (v / 262144 % 0x08 + 0xf0) ∧
      UInt8.ofNat (v / 262144 % 0x08 + 0xf0) < 0xF0) := by
    rw [UInt8.le_iff_toNat_le, UInt8.lt_iff_toNat_lt, h]; simp
  have four : 0xF0 ≤ UInt8.ofNat (v / 262144 % 0x08 + 0xf0) ∧
      UInt8.ofNat (v / 262144 % 0x08 + 0xf0) < 0xF5 := by
    rw [UInt8.le_iff_toNat_le, UInt8.lt_iff_toNat_lt, h]; simp; omega
  have value : (((v / 262144 % 0x08 + 0xf0 - 0xF0) * 64 + v / 4096 % 0x40) * 64 + v / 64 % 0x40) * 64 +
      v % 0x40 = v := by omega
  rw [first?, if_neg big, if_neg nottwo, if_neg notthree, if_pos four]
  simp only [isContinuation_ofNat, low_ofNat, h, value, Bool.true_and]
  rw [if_pos]
  simp only [Bool.and_eq_true, decide_eq_true_eq]
  exact ⟨by omega, hv⟩

/-- The bytes of a character are read as that character. -/
theorem first?_encodeChar (c : Char) (rest : Bytes) :
    first? (String.utf8EncodeChar c ++ rest) = some (c, rest) := by
  have hv : c.toNat < 0xD800 ∨ 0xDFFF < c.toNat ∧ c.toNat < 0x110000 := c.valid
  have back : Char.ofNat c.toNat = c := Char.ofNat_toNat c
  unfold String.utf8EncodeChar
  simp only [show c.val.toNat = c.toNat from rfl]
  generalize c.toNat = v at hv back ⊢
  subst back
  split
  · exact first?_one ‹_› rest
  split
  · exact first?_two (by omega) ‹_› rest
  split
  · exact first?_three (by omega) ‹_› (by omega) rest
  · exact first?_four (by omega) (by omega) rest

/-! ## A text -/

theorem decodeChars_encode (cs : List Char) (done : Nat) :
    decodeChars (cs.flatMap String.utf8EncodeChar) done = .ok cs := by
  induction cs generalizing done with
  | nil => rw [List.flatMap_nil, decodeChars, if_pos rfl]
  | cons c rest ih =>
    have hf := first?_encodeChar c (rest.flatMap String.utf8EncodeChar)
    have hne : String.utf8EncodeChar c ++ rest.flatMap String.utf8EncodeChar ≠ [] := by
      intro h
      rw [h] at hf
      cases hf
    rw [List.flatMap_cons, decodeChars, if_neg hne]
    split
    · rename_i h
      rw [hf] at h
      cases h
    · rename_i h
      rw [hf] at h
      cases h
      rw [ih]

/-- **Every text is read back from its bytes.** -/
theorem decode_encode (s : String) : decode (encode s) = .ok s := by
  rw [decode, encode, decodeChars_encode]
  exact congrArg Except.ok (String.ofList_toList)

/-! ## The text of bytes -/

theorem isContinuation_iff {b : UInt8} : isContinuation b = true ↔ 0x80 ≤ b.toNat ∧ b.toNat < 0xC0 := by
  simp [isContinuation, UInt8.le_iff_toNat_le, UInt8.lt_iff_toNat_lt]

theorem ofNat_eq {n : Nat} {b : UInt8} (h : n = b.toNat) : UInt8.ofNat n = b := by
  rw [h, UInt8.ofNat_toNat]

theorem encodeChar_ofNat {n : Nat} (hv : n.isValidChar) : String.utf8EncodeChar (Char.ofNat n) =
    if n ≤ 0x7f then [UInt8.ofNat n]
    else if n ≤ 0x7ff then [UInt8.ofNat (n / 64 % 0x20 + 0xc0), UInt8.ofNat (n % 0x40 + 0x80)]
    else if n ≤ 0xffff then
      [UInt8.ofNat (n / 4096 % 0x10 + 0xe0), UInt8.ofNat (n / 64 % 0x40 + 0x80), UInt8.ofNat (n % 0x40 + 0x80)]
    else
      [UInt8.ofNat (n / 262144 % 0x08 + 0xf0), UInt8.ofNat (n / 4096 % 0x40 + 0x80),
        UInt8.ofNat (n / 64 % 0x40 + 0x80), UInt8.ofNat (n % 0x40 + 0x80)] := by
  have value : (Char.ofNat n).val.toNat = n := by
    rw [Char.ofNat, dif_pos hv]
    rfl
  rw [String.utf8EncodeChar, value]

/-- The character at the front of the bytes is encoded by the bytes in front of the others. -/
theorem encodeChar_of_first? {bs rest : Bytes} {c : Char} (h : first? bs = some (c, rest)) :
    String.utf8EncodeChar c ++ rest = bs := by
  unfold first? at h
  split at h
  · cases h
  rename_i a tail
  simp only [UInt8.le_iff_toNat_le, UInt8.lt_iff_toNat_lt] at h
  split at h
  · rename_i one
    change a.toNat < 0x80 at one
    cases h
    rw [encodeChar_ofNat (.inl (by omega)), if_pos (by omega), UInt8.ofNat_toNat]
    rfl
  split at h
  · rename_i two
    change 0xC2 ≤ a.toNat ∧ a.toNat < 0xE0 at two
    split at h
    · rename_i b tail
      split at h
      · rename_i hb
        cases h
        rw [isContinuation_iff] at hb
        simp only [low]
        rw [encodeChar_ofNat (.inl (by omega)), if_neg (by omega), if_pos (by omega)]
        rw [ofNat_eq (b := a) (by omega), ofNat_eq (b := b) (by omega)]
        rfl
      · cases h
    · cases h
  split at h
  · rename_i three
    change 0xE0 ≤ a.toNat ∧ a.toNat < 0xF0 at three
    split at h
    · rename_i b d tail
      split at h
      · rename_i hb
        cases h
        simp only [Bool.and_eq_true, isContinuation_iff, decide_eq_true_eq, Bool.not_eq_true',
          decide_eq_false_iff_not] at hb
        simp only [low] at hb ⊢
        rw [encodeChar_ofNat (by rw [Nat.isValidChar]; omega), if_neg (by omega), if_neg (by omega),
          if_pos (by omega)]
        rw [ofNat_eq (b := a) (by omega), ofNat_eq (b := b) (by omega), ofNat_eq (b := d) (by omega)]
        rfl
      · cases h
    · cases h
  split at h
  · rename_i four
    change 0xF0 ≤ a.toNat ∧ a.toNat < 0xF5 at four
    split at h
    · rename_i b d e tail
      split at h
      · rename_i hb
        cases h
        simp only [Bool.and_eq_true, isContinuation_iff, decide_eq_true_eq] at hb
        simp only [low] at hb ⊢
        rw [encodeChar_ofNat (by rw [Nat.isValidChar]; omega), if_neg (by omega), if_neg (by omega),
          if_neg (by omega)]
        rw [ofNat_eq (b := a) (by omega), ofNat_eq (b := b) (by omega), ofNat_eq (b := d) (by omega),
          ofNat_eq (b := e) (by omega)]
        rfl
      · cases h
    · cases h
  · cases h

theorem flatMap_encodeChar_of_decodeChars {bs : Bytes} {done : Nat} {cs : List Char}
    (h : decodeChars bs done = .ok cs) : cs.flatMap String.utf8EncodeChar = bs := by
  induction bs, done using decodeChars.induct generalizing cs with
  | case1 =>
    rw [decodeChars, if_pos rfl] at h
    cases h
    rfl
  | case2 bs done ne none =>
    rw [decodeChars, if_neg ne] at h
    split at h
    · cases h
    · rename_i hf
      rw [none] at hf
      cases hf
  | case3 bs done ne c rest hf shorter cs' hd ih =>
    rw [decodeChars, if_neg ne] at h
    split at h
    · cases h
    · rename_i hf'
      cases hf.symm.trans hf'
      rw [hd] at h
      cases h
      rw [List.flatMap_cons, ih hd, encodeChar_of_first? hf]
  | case4 bs done ne c rest hf shorter n hd ih =>
    rw [decodeChars, if_neg ne] at h
    split at h
    · cases h
    · rename_i hf'
      cases hf.symm.trans hf'
      rw [hd] at h
      cases h

/-- **Bytes are read as a text if and only if they are its bytes.** -/
theorem decode_eq_ok_iff {bs : Bytes} {s : String} : decode bs = .ok s ↔ encode s = bs := by
  constructor
  · intro h
    rw [decode] at h
    cases hd : decodeChars bs 0 with
    | error n => rw [hd] at h; cases h
    | ok cs =>
      rw [hd] at h
      cases h
      rw [encode, String.toList_ofList, flatMap_encodeChar_of_decodeChars hd]
  · rintro rfl
    exact decode_encode s

theorem encode_injective : Function.Injective encode := fun _ t h =>
  Except.ok.inj ((decode_eq_ok_iff.2 h).symm.trans (decode_encode t))

/-! ## Bytes as characters -/

/-- The first byte of a character is below 128 if the character is, and stands for it then. -/
theorem encodeChar_cases (c : Char) : ∃ b rest, String.utf8EncodeChar c = b :: rest ∧
    (b.toNat < 128 ∨ c.toNat < 128 → rest = [] ∧ b.toNat = c.toNat) := by
  unfold String.utf8EncodeChar
  simp only [show c.val.toNat = c.toNat from rfl]
  generalize c.toNat = v
  split
  · exact ⟨_, _, rfl, fun _ => ⟨rfl, toNat_ofNat (by omega)⟩⟩
  split
  · refine ⟨_, _, rfl, fun h => ?_⟩
    rw [toNat_ofNat (by omega)] at h
    omega
  split
  · refine ⟨_, _, rfl, fun h => ?_⟩
    rw [toNat_ofNat (by omega)] at h
    omega
  · refine ⟨_, _, rfl, fun h => ?_⟩
    rw [toNat_ofNat (by omega)] at h
    omega

/-- A byte, taken for a character. -/
def asChar (b : UInt8) : Char := Char.ofNat b.toNat

theorem toNat_asChar (b : UInt8) : (asChar b).toNat = b.toNat := by
  have valid : b.toNat.isValidChar := .inl (Nat.lt_trans b.toNat_lt (by decide))
  rw [asChar, Char.ofNat, dif_pos valid]
  rfl

/-- The first bytes of a text are those of ASCII characters if and only if these are its first
characters. -/
theorem asChar_take_encode {front : List Char} (ascii : ∀ c ∈ front, c.toNat < 128) (cs : List Char) :
    ((cs.flatMap String.utf8EncodeChar).take front.length).map asChar = front ↔
      cs = front ++ cs.drop front.length := by
  induction front generalizing cs with
  | nil => simp
  | cons c front ih =>
    obtain ⟨low, others⟩ := List.forall_mem_cons.1 ascii
    cases cs with
    | nil => simp
    | cons d cs =>
      obtain ⟨b, rest, bytes, single⟩ := encodeChar_cases d
      rw [List.flatMap_cons, bytes]
      simp only [List.cons_append, List.length_cons, List.take_succ_cons, List.map_cons, List.cons.injEq,
        List.drop_succ_cons]
      constructor
      · rintro ⟨rfl, same⟩
        rw [toNat_asChar] at low
        obtain ⟨rfl, byte⟩ := single (.inl low)
        exact ⟨Char.toNat_inj.1 (by rw [toNat_asChar, byte]), (ih others cs).1 same⟩
      · rintro ⟨rfl, same⟩
        obtain ⟨rfl, byte⟩ := single (.inr low)
        exact ⟨Char.toNat_inj.1 (by rw [toNat_asChar, byte]), (ih others cs).2 same⟩

end MetaGraph.Utf8
