import Rehoming.Text.CaseTable
/-!
# Lowercase

The full lowercase mapping of Unicode.  Every character is mapped on its own, but for the
capital sigma, whose lowercase form at the end of a word is the final sigma: one that
follows a cased letter and is not followed by one, case-ignorable characters in between
not counted.
-/

namespace Rehoming.Text

/-- The lowercase form of a character, apart from its neighbours. -/
def lowercaseChar (c : Char) : List Char :=
  let n := c.toNat
  if n < 0x80 then [c.toLower]
  else if n = 0x130 then ['i', Char.ofNat 0x307]
  else match lowercaseRuns.find? (·.covers n) with
    | some r => [Char.ofNat (n + r.offset).toNat]
    | none => [c]

/-- Whether the first character of a list that is not case-ignorable is cased. -/
def startsCased (cs : List Char) : Bool :=
  match cs.dropWhile fun c => inRanges ignorableRanges c.toNat with
  | [] => false
  | c :: _ => inRanges casedRanges c.toNat

/-- The capital sigma. -/
def capitalSigma : Char := Char.ofNat 0x3A3

/-- The lowercase form of the capital sigma between what stands before it, nearest first,
and what stands after it. -/
def lowercaseSigma (before after : List Char) : Char :=
  if startsCased before && !startsCased after then Char.ofNat 0x3C2 else Char.ofNat 0x3C3

/-- The lowercase form of the characters that follow `before`, which is given nearest
first. -/
def lowercaseAfter (before : List Char) : List Char → List Char
  | [] => []
  | c :: r =>
    (if c = capitalSigma then [lowercaseSigma before r] else lowercaseChar c)
      ++ lowercaseAfter (c :: before) r

/-- The lowercase form of a text. -/
def lowercase (s : String) : String :=
  String.ofList (lowercaseAfter [] s.toList)

end Rehoming.Text
