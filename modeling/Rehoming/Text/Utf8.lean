/-!
# UTF-8

Reading bytes as characters.  `decode` tells, for each character in turn, which one it is,
or that the bytes at this place do not begin a well-formed character; such a place covers
the longest beginning of a well-formed character found there, and at least one byte.
-/

namespace Rehoming.Text.Utf8

/-- Whether a byte can continue a character. -/
def isTail (b : UInt8) : Bool :=
  0x80 ≤ b && b ≤ 0xBF

/-- How many bytes follow a first byte, and the range of the byte right after it. -/
def plan (b : UInt8) : Option (Nat × UInt8 × UInt8) :=
  if 0xC2 ≤ b && b ≤ 0xDF then some (1, 0x80, 0xBF)
  else if b == 0xE0 then some (2, 0xA0, 0xBF)
  else if b == 0xED then some (2, 0x80, 0x9F)
  else if 0xE1 ≤ b && b ≤ 0xEF then some (2, 0x80, 0xBF)
  else if b == 0xF0 then some (3, 0x90, 0xBF)
  else if 0xF1 ≤ b && b ≤ 0xF3 then some (3, 0x80, 0xBF)
  else if b == 0xF4 then some (3, 0x80, 0x8F)
  else none

/-- The well-formed beginning of what should follow a first byte. -/
def tailOf (count : Nat) (low high : UInt8) : List UInt8 → List UInt8
  | [] => []
  | b :: r =>
    match count with
    | 0 => []
    | n + 1 => if low ≤ b && b ≤ high then b :: tailOf n 0x80 0xBF r else []

/-- The code point whose first byte carries the bits `lead` and whose other bytes are
given. -/
def assemble (lead : Nat) (tail : List UInt8) : Nat :=
  tail.foldl (fun n b => n * 64 + (b.toNat - 0x80)) lead

/-- The character at the front of some bytes, if it is well formed, and how many bytes it
takes beyond the first. -/
def next (b : UInt8) (r : List UInt8) : Option Char × Nat :=
  if b < 0x80 then (some (Char.ofNat b.toNat), 0)
  else match plan b with
    | none => (none, 0)
    | some (count, low, high) =>
      let tail := tailOf count low high r
      let lead := if count = 1 then b.toNat - 0xC0 else if count = 2 then b.toNat - 0xE0 else b.toNat - 0xF0
      (if tail.length = count then some (Char.ofNat (assemble lead tail)) else none, tail.length)

/-- The characters written by some bytes, with `none` where they are malformed. -/
def decode : List UInt8 → List (Option Char)
  | [] => []
  | b :: r =>
    let (c, taken) := next b r
    c :: decode (r.drop taken)
termination_by bs => bs.length
decreasing_by simp only [List.length_drop, List.length_cons]; omega

/-- The text written by some bytes, if all of them are well formed. -/
def text? (bs : List UInt8) : Option String :=
  ((decode bs).mapM id).map String.ofList

/-- The text written by some bytes, with the replacement character where they are
malformed. -/
def textWithReplacements (bs : List UInt8) : String :=
  String.ofList ((decode bs).map (·.getD (Char.ofNat 0xFFFD)))

/-- The bytes that write a text. -/
def bytes (s : String) : List UInt8 :=
  s.toUTF8.toList

end Rehoming.Text.Utf8
