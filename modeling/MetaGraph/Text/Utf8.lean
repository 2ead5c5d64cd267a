/-
Texts as bytes. Every text has one encoding; reading bytes back stops at the
first place where they are not the shortest encoding of a character.
-/

namespace MetaGraph

/-- A sequence of bytes. -/
abbrev Bytes := List UInt8

namespace Utf8

/-- The bytes of a text. -/
def encode (s : String) : Bytes := s.toList.flatMap String.utf8EncodeChar

/-- Whether a byte continues a character. -/
def isContinuation (b : UInt8) : Bool := 0x80 ≤ b && b < 0xC0

/-- The low six bits of a continuation byte. -/
def low (b : UInt8) : Nat := b.toNat % 64

/-- The character at the front of the bytes, and the bytes after it. -/
def first? : Bytes → Option (Char × Bytes)
  | [] => none
  | a :: rest =>
    if a < 0x80 then some (Char.ofNat a.toNat, rest)
    else if 0xC2 ≤ a ∧ a < 0xE0 then
      match rest with
      | b :: rest =>
        if isContinuation b then some (Char.ofNat ((a.toNat - 0xC0) * 64 + low b), rest) else none
      | [] => none
    else if 0xE0 ≤ a ∧ a < 0xF0 then
      match rest with
      | b :: c :: rest =>
        let n := ((a.toNat - 0xE0) * 64 + low b) * 64 + low c
        if isContinuation b && isContinuation c && decide (0x800 ≤ n) &&
            !decide (0xD800 ≤ n ∧ n < 0xE000) then
          some (Char.ofNat n, rest)
        else none
      | _ => none
    else if 0xF0 ≤ a ∧ a < 0xF5 then
      match rest with
      | b :: c :: d :: rest =>
        let n := (((a.toNat - 0xF0) * 64 + low b) * 64 + low c) * 64 + low d
        if isContinuation b && isContinuation c && isContinuation d && decide (0x10000 ≤ n) &&
            decide (n < 0x110000) then
          some (Char.ofNat n, rest)
        else none
      | _ => none
    else none

theorem length_first? {bs rest : Bytes} {c : Char} (h : first? bs = some (c, rest)) :
    rest.length < bs.length := by
  unfold first? at h
  repeat' split at h
  all_goals simp only [reduceCtorEq, Option.ite_none_right_eq_some, Option.some.injEq,
    Prod.mk.injEq] at h
  · obtain ⟨-, rfl⟩ := h
    simp only [List.length_cons]; omega
  · obtain ⟨-, -, rfl⟩ := h
    simp only [List.length_cons]; omega
  · obtain ⟨-, -, rfl⟩ := h
    simp only [List.length_cons]; omega
  · obtain ⟨-, -, rfl⟩ := h
    simp only [List.length_cons]; omega

/-- The characters of the bytes, or how many bytes were read before a fault. -/
def decodeChars (bs : Bytes) (done : Nat) : Except Nat (List Char) :=
  if bs = [] then .ok []
  else
    match h : first? bs with
    | none => .error done
    | some (c, rest) =>
      have : rest.length < bs.length := length_first? h
      match decodeChars rest (done + (bs.length - rest.length)) with
      | .ok cs => .ok (c :: cs)
      | .error n => .error n
termination_by bs.length

/-- The text the bytes encode, or the index of the first faulty byte. -/
def decode (bs : Bytes) : Except Nat String := (decodeChars bs 0).map String.ofList

end Utf8

end MetaGraph
