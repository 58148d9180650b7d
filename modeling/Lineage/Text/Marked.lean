import Lineage.Text.Code
import Lineage.Text.Emoji
import Lineage.Text.Handler
import Lineage.Text.Style

/-!
# Marked texts

A text that is printed may hold marks. A mark is a name in brackets: `[red]` begins a style,
`[/red]` ends it, and `[/]` ends the style that was begun last. A backslash before a mark makes
it plain text. `shown` is what a reader sees of a marked text: the marks are gone, the names of
emoji are replaced, and control characters that would move the cursor are dropped. A text that ends
a style which was never begun cannot be shown. What follows an equals sign in a mark belongs to its
style as well, but nothing is wrong with it before the style is put to use.
-/

namespace Lineage.Text

/-- Why a marked text cannot be shown. -/
inductive MarkFault where
  /-- A mark at a position ends a style that was not begun. -/
  | unmatched (mark : String) (position : Nat)
  /-- A mark at a position ends the last style, and there is none. -/
  | nothingBegun (position : Nat)
  /-- The handler of a mark that ends cannot be read. -/
  | handler (message : String)
  /-- A mark names a color that is none at all. -/
  | color (fault : ColorFault)
  deriving DecidableEq, Repr

/-- The report of a fault. -/
def MarkFault.message : MarkFault → String
  | unmatched mark position =>
    s!"closing tag '{mark}' at position {position} doesn't match any open tag"
  | nothingBegun position => s!"closing tag '[/]' at position {position} has nothing to close"
  | handler message => message
  | color fault => fault.message

/-! ### Pieces -/

/-- A piece of a marked text. -/
inductive Piece where
  | letter (c : Char)
  /-- The place where plain text is cut in two. -/
  | cut
  /-- A mark at a position, without its brackets. -/
  | mark (position : Nat) (inside : List Char)
  deriving DecidableEq, Repr

/-- Whether a mark may begin with a character. -/
def beginsMark (c : Char) : Bool :=
  ('a' ≤ c && c ≤ 'z') || c = '#' || c = '/' || c = '@'

/-- The inside of the mark with which a text begins. -/
def mark? : List Char → Option (List Char)
  | '[' :: c :: cs =>
    let inside := cs.takeWhile fun c => c ≠ '[' && c ≠ ']'
    if beginsMark c && (cs.drop inside.length).head? = some ']' then some (c :: inside) else none
  | _ => none

/-- The pieces of a text from a position on, after some characters that are passed over. Of the
backslashes before a mark two stand for one, and an odd one makes the mark plain text; a backslash
before any other opening bracket is not shown. -/
def pieces : Nat → Nat → List Char → List Piece
  | _, _, [] => []
  | position, passed + 1, c :: cs => pieces (position + size [c]) passed cs
  | position, 0, c :: cs =>
    let slashes := ((c :: cs).takeWhile (· = '\\')).length
    match mark? ((c :: cs).drop slashes) with
    | some inside =>
      let bracketed := '[' :: (inside ++ [']'])
      .cut :: List.replicate (slashes / 2) (.letter '\\') ++
        (if slashes % 2 = 0 then [.mark (position + slashes) inside]
          else .cut :: bracketed.map .letter) ++
        .cut :: pieces (position + size [c]) (slashes + inside.length + 1) cs
    | none =>
      if c = '\\' && cs.head? = some '[' then pieces (position + size [c]) 0 cs
      else .letter c :: pieces (position + size [c]) 0 cs

/-! ### Marks -/

/-- A stretch of a shown text that has a style. -/
structure Span where
  /-- The number of characters before it. -/
  first : Nat
  /-- The number of characters up to its end. -/
  last : Nat
  /-- What is wrong with a color of the style. -/
  fault : Option ColorFault
  deriving DecidableEq, Repr

/-- A mark that has begun and not ended: its style, what follows an equals sign, and the number of
characters that were shown before it. -/
structure Begun where
  style : String
  parameters : Option (List Char)
  first : Nat
  deriving DecidableEq, Repr

/-- The name of a mark and what follows an equals sign in it. -/
def splitMark (inside : List Char) : List Char × Option (List Char) :=
  let name := inside.takeWhile (· ≠ '=')
  (name, if name.length < inside.length then some (inside.drop (name.length + 1)) else none)

namespace Begun

/-- Whether a mark names a handler. -/
def isHandler (b : Begun) : Bool :=
  b.style.toList.head? = some '@'

/-- What is wrong with a color of the whole style of a mark. -/
def fault? (b : Begun) : Option ColorFault :=
  b.parameters.bind fun written =>
    match Style.name (b.style.toList ++ ' ' :: written) with
    | .error fault => some fault
    | .ok _ => none

/-- The stretch of a mark that ends after some characters. -/
def span (b : Begun) (last : Nat) : Span :=
  ⟨b.first, last, b.fault?⟩

/-- The stretch of a mark that is ended after some characters. If it names a handler, the handler
has to be readable. -/
def close (b : Begun) (last : Nat) : Except MarkFault Span :=
  if b.isHandler then
    match b.parameters with
    | some written =>
      if written.isEmpty then .ok ⟨b.first, last, none⟩
      else (Handler.fault? written).elim (.ok ⟨b.first, last, none⟩) fun message =>
        .error (.handler message)
    | none => .ok ⟨b.first, last, none⟩
  else .ok (b.span last)

end Begun

/-- The mark of a style that has begun last, and the others. -/
def take? (style : String) : List Begun → Option (Begun × List Begun)
  | [] => none
  | b :: bs =>
    if b.style = style then some (b, bs) else (take? style bs).map fun t => (t.1, b :: t.2)

/-- The style of a name. -/
def styleOf (name : List Char) : Except MarkFault String :=
  (Style.name name).mapError .color

/-! ### Texts -/

/-- The control characters that are not shown: the bell, the backspace, the vertical tab, the
form feed and the carriage return. -/
def isSilent (c : Char) : Bool :=
  [7, 8, 11, 12, 13].contains c.toNat

/-- What has been read of a marked text. -/
structure Draft where
  /-- What is shown of it, the last part first. -/
  parts : List (List Char) := []
  /-- The number of characters that are shown. -/
  size : Nat := 0
  /-- The marks that have begun, the last of them first. -/
  begun : List Begun := []
  /-- The stretches that have ended, the last of them first. -/
  spans : List Span := []
  deriving DecidableEq, Repr

namespace Draft

/-- A draft with some plain text after it. -/
def append (d : Draft) (chunk : List Char) : Draft :=
  let part := (withEmoji chunk).filter fun c => !isSilent c
  { d with parts := part :: d.parts, size := d.size + part.length }

/-- A draft of which a mark is ended that leaves others. -/
def close (d : Draft) (b : Begun) (others : List Begun) : Except MarkFault Draft :=
  (b.close d.size).map fun span => { d with begun := others, spans := span :: d.spans }

/-- A draft with a mark after it. -/
def mark (d : Draft) (position : Nat) (inside : List Char) : Except MarkFault Draft := do
  match splitMark inside with
  | ('/' :: name, _) =>
    let name := strip isSeparating name
    if name.isEmpty then
      match d.begun with
      | [] => throw (.nothingBegun position)
      | b :: others => d.close b others
    else
      match take? (← styleOf name) d.begun with
      | none => throw (.unmatched (String.ofList ('[' :: (inside ++ [']']))) position)
      | some (b, others) => d.close b others
  | (name, parameters) =>
    let style ← styleOf name
    return { d with begun := ⟨style, parameters, d.size⟩ :: d.begun }

/-- A draft with some pieces after it. The letters of the plain text under way are given, the last
of them first. -/
def read (d : Draft) (chunk : List Char) : List Piece → Except MarkFault Draft
  | [] => .ok (d.append chunk.reverse)
  | .letter c :: ps => d.read (c :: chunk) ps
  | .cut :: ps => (d.append chunk.reverse).read [] ps
  | .mark position inside :: ps => do
    let d ← (d.append chunk.reverse).mark position inside
    d.read [] ps

end Draft

/-- What is shown of a marked text. -/
structure Shown where
  text : String
  /-- The stretches that have a style, in the order in which they begin. -/
  spans : List Span := []
  deriving DecidableEq, Repr

namespace Shown

/-- What is shown of a draft. The marks that have begun end with it. -/
def ofDraft (d : Draft) : Shown :=
  let spans := (d.begun.map (·.span d.size)).reverse ++ d.spans
  { text := String.ofList d.parts.reverse.flatten
    spans := spans.mergeSort fun s t => s.first ≤ t.first }

/-- Whether a text is on one line as it stands. -/
def isPlain (s : Shown) : Bool :=
  s.text.toList.all fun c => c ≠ '\n' && c ≠ '\t'

/-- Whether a stretch has something to show. If the text is not on one line as it stands, the line
feeds do not count. -/
def isUsed (s : Shown) (span : Span) : Bool :=
  s.isPlain ||
    ((s.text.toList.take span.last).drop span.first).any (· ≠ '\n')

/-- What is wrong with the first color that is put to use. -/
def fault? (s : Shown) : Option MarkFault :=
  (s.spans.filter s.isUsed).findSome? fun span => span.fault.map .color

/-- The stretches that have a style in a line that starts at some place and has some characters,
counted from its start. If there are several lines, a stretch with nothing in it does not count. -/
def stretches (s : Shown) (start size : Nat) : List (Nat × Nat) :=
  let isSingle := !s.text.toList.contains '\n'
  let within := s.spans.map fun span =>
    (max span.first start - start, min span.last (start + size) - start)
  within.filter fun stretch => isSingle || stretch.1 < stretch.2

end Shown

/-- What is shown of a marked text. -/
def shown (s : String) : Except MarkFault Shown :=
  (Draft.read {} [] (pieces 0 0 s.toList)).map Shown.ofDraft

end Lineage.Text
