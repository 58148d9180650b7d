/-!
# Codes of texts

A text is a list of codes. Nearly all of them are characters, but a document may also hold one of
the codes from D800 to DFFF, which are no characters: two of them in a row make one. A string keeps
such a half as one character of a block in Unicode's last private plane. The characters of that
block itself are kept as two others of the block, a lead and a trail. Halves, leads and trails
stand for nothing else, so a string is searched, cut and joined like the text that it keeps.

`keep` gives the characters that keep a code, and `codes` gives the codes back.
-/

namespace Lineage.Text

/-! ### The block -/

/-- The first of the codes that are half of a character. -/
def firstHalf : Nat := 0xD800

/-- The number of codes that are half of a character. -/
def halfCount : Nat := 0x800

/-- The first character of the block, which keeps the first half. -/
def block : Nat := 0x10E000

/-- The first of the 34 leads. -/
def firstLead : Nat := 0x10E800

/-- The first of the 64 trails. -/
def firstTrail : Nat := 0x10E840

/-- The first character after the block. -/
def blockEnd : Nat := 0x10E880

/-- Whether a code is half of a character. -/
def isHalf (code : Nat) : Bool :=
  firstHalf ≤ code && code < firstHalf + halfCount

/-- Whether a code is a character of the block. -/
def isReserved (code : Nat) : Bool :=
  block ≤ code && code < blockEnd

/-- Whether a character keeps a half. -/
def keepsHalf (c : Char) : Bool :=
  block ≤ c.toNat && c.toNat < block + halfCount

/-- Whether a character is the first of two that keep a code. -/
def isLead (c : Char) : Bool :=
  firstLead ≤ c.toNat && c.toNat < firstTrail

/-- Whether a character is the second of two that keep a code. -/
def isTrail (c : Char) : Bool :=
  firstTrail ≤ c.toNat && c.toNat < blockEnd

/-! ### Codes -/

/-- The characters that keep a code. -/
def keep (code : Nat) : List Char :=
  if isHalf code then [Char.ofNat (block + (code - firstHalf))]
  else if isReserved code then
    [Char.ofNat (firstLead + (code - block) / 64), Char.ofNat (firstTrail + (code - block) % 64)]
  else [Char.ofNat code]

/-- The code of a character that keeps one by itself. -/
def codeOf (c : Char) : Nat :=
  if keepsHalf c then firstHalf + (c.toNat - block) else c.toNat

/-- The codes that some characters keep. -/
def codes : List Char → List Nat
  | [] => []
  | [c] => [codeOf c]
  | c :: d :: cs =>
    if isLead c && isTrail d then
      (block + (c.toNat - firstLead) * 64 + (d.toNat - firstTrail)) :: codes cs
    else codeOf c :: codes (d :: cs)

/-- The string that keeps the characters of another one. -/
def kept (s : String) : String :=
  String.ofList (s.toList.flatMap fun c => keep c.toNat)

/-- The characters that a string keeps. -/
def restored (s : String) : String :=
  String.ofList ((codes s.toList).map Char.ofNat)

/-! ### Measures -/

/-- The number of codes that some characters keep. -/
def size (cs : List Char) : Nat :=
  (cs.filter fun c => !isTrail c).length

/-- The number of bytes of a code. -/
def codeBytes (code : Nat) : Nat :=
  if code < 0x80 then 1 else if code < 0x800 then 2 else if code < 0x10000 then 3 else 4

/-- The number of bytes of a text. -/
def byteSize (s : String) : Nat :=
  (codes s.toList).foldl (fun size code => size + codeBytes code) 0

/-- Whether every code of a text is a character. -/
def isWhole (s : String) : Bool :=
  !s.toList.any keepsHalf

/-- Whether a list of numbers comes before another one or is the same. The first place where they
differ decides, and a list comes before those that begin with it. -/
def inOrder : List Nat → List Nat → Bool
  | [], _ => true
  | _ :: _, [] => false
  | m :: ms, n :: ns => m < n || (m = n && inOrder ms ns)

/-- Whether a text comes before another one or is the same, by the order of their codes. -/
def precedes (s t : String) : Bool :=
  inOrder (codes s.toList) (codes t.toList)

end Lineage.Text
