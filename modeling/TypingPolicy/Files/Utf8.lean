/-!
# Text in bytes

Reading UTF-8.  Only the shortest form of a code point counts, and only code points that are characters:
no surrogates and nothing beyond the last plane.
-/

namespace TypingPolicy.Utf8

/-- The six bits that a continuation byte carries. -/
def tail? (b : UInt8) : Option Nat :=
  if 0x80 ≤ b.toNat ∧ b.toNat < 0xC0 then some (b.toNat - 0x80) else none

/-- The character with the given code, if there is one and its code is not less than `least`. -/
def char? (least code : Nat) : Option Char :=
  if least ≤ code ∧ code.isValidChar then some (Char.ofNat code) else none

/-- The characters that the bytes spell, if they all do. -/
def decode? : List UInt8 → Option (List Char)
  | [] => some []
  | b :: rest =>
    if b.toNat < 0x80 then do
      let c ← char? 0 b.toNat
      return c :: (← decode? rest)
    else match rest with
    | [] => none
    | b₁ :: rest =>
      if 0xC0 ≤ b.toNat ∧ b.toNat < 0xE0 then do
        let c ← char? 0x80 ((b.toNat - 0xC0) * 64 + (← tail? b₁))
        return c :: (← decode? rest)
      else match rest with
      | [] => none
      | b₂ :: rest =>
        if 0xE0 ≤ b.toNat ∧ b.toNat < 0xF0 then do
          let c ← char? 0x800 (((b.toNat - 0xE0) * 64 + (← tail? b₁)) * 64 + (← tail? b₂))
          return c :: (← decode? rest)
        else match rest with
        | [] => none
        | b₃ :: rest =>
          if 0xF0 ≤ b.toNat ∧ b.toNat < 0xF8 then do
            let high := ((b.toNat - 0xF0) * 64 + (← tail? b₁)) * 64 + (← tail? b₂)
            let c ← char? 0x10000 (high * 64 + (← tail? b₃))
            return c :: (← decode? rest)
          else none

end TypingPolicy.Utf8
