import Lineage.Text.Blank
import Lineage.Text.Case
import Lineage.Text.EmojiTable

/-!
# Emoji in texts

In a text that is printed, the name of an emoji between two colons stands for the emoji. The name
may be followed by `-text` or `-emoji`, which selects the look. What is no name of an emoji stays
as it is.
-/

namespace Lineage.Text

/-- The names of emoji with their codes. -/
def emojiTable : List (String × List Nat) :=
  emojiToB ++ emojiCToE ++ emojiFToJ ++ emojiKToO ++ emojiPToS ++ emojiFromT

/-- The tones of skin with their codes. A longer name comes before one that it ends with. -/
def skinTones : List (String × Nat) :=
  [("_medium-light_skin_tone", 0x1F3FC), ("_medium-dark_skin_tone", 0x1F3FE),
   ("_light_skin_tone", 0x1F3FB), ("_medium_skin_tone", 0x1F3FD), ("_dark_skin_tone", 0x1F3FF)]

/-- The codes of an emoji in a tone of skin: the tone follows the first code, in place of a
selector. -/
def withTone (tone : Nat) : List Nat → List Nat
  | [] => []
  | n :: ns => n :: tone :: ns.dropWhile (· = 0xFE0F)

/-- The beginning of a text that has a given end. -/
def before? (ending : List Char) (cs : List Char) : Option (List Char) :=
  if ending.isSuffixOf cs then some (cs.take (cs.length - ending.length)) else none

/-- The codes of an emoji whose name says the tone of skin. -/
def tonedCodes? (name : List Char) : Option (List Nat) :=
  skinTones.findSome? fun tone =>
    (before? tone.1.toList name).bind fun base =>
      let base := String.ofList base
      if tonedEmoji.contains base then (emojiTable.lookup base).map (withTone tone.2) else none

/-- The characters of the emoji of a name in small letters. -/
def emoji? (name : List Char) : Option (List Char) :=
  ((emojiTable.lookup (String.ofList name)).or (tonedCodes? name)).map (·.map Char.ofNat)

/-- The looks that may be selected, with the characters that select them. -/
def looks : List (String × Char) :=
  [("-emoji", '\uFE0F'), ("-text", '\uFE0E')]

/-- A name without the look that it ends with, and the character that selects the look. -/
def splitLook (name : List Char) : List Char × List Char :=
  (looks.findSome? fun look =>
    (before? look.1.toList name).map fun base => (base, [look.2])).getD (name, [])

/-- What a name between two colons stands for. -/
def named? (name : List Char) : Option (List Char) :=
  let (base, look) := splitLook name
  (emoji? (lower (String.ofList base)).toList).map (· ++ look)

/-- The name between the colon that a text starts with and the next one, if there are no blanks
between them. -/
def colonName? : List Char → Option (List Char)
  | ':' :: cs =>
    let name := cs.takeWhile fun c => c ≠ ':' && !isSeparating c
    if (cs.drop name.length).head? = some ':' then some name else none
  | _ => none

/-- A text after some characters that are passed over, with emoji in place of their names. -/
def emojiAfter : Nat → List Char → List Char
  | _, [] => []
  | passed + 1, _ :: cs => emojiAfter passed cs
  | 0, c :: cs =>
    match colonName? (c :: cs) with
    | none => c :: emojiAfter 0 cs
    | some name => (named? name).getD (':' :: (name ++ [':'])) ++ emojiAfter (name.length + 1) cs

/-- A text with emoji in place of their names. -/
def withEmoji (cs : List Char) : List Char :=
  if cs.contains ':' then emojiAfter 0 cs else cs

end Lineage.Text
