import Lineage.Proofs.Names

/-!
# Names with their parts in quotes

Within quotes every character but the quote itself stands for itself. So if each part of a name is
in quotes, the parts are got back from the name whatever characters are in them. That is shown in
turn for the tokens of the name, for the readers of the tokens, and for what is made of the parts.
-/

namespace Lineage.QualifiedName

/-- A part in quotes. -/
def enquote (part : String) : String :=
  "\"" ++ part ++ "\""

/-- The name with some parts, each of them in quotes. -/
def enquoted (parts : List String) : String :=
  String.intercalate "." (parts.map enquote)

/-! ### Tokens -/

/-- The characters of further parts, each with its dot and in quotes. -/
def furtherChars (parts : List (List Char)) : List Char :=
  parts.flatMap fun p => '.' :: '"' :: (p ++ ['"'])

/-- The tokens of further parts. -/
def furtherTokens (parts : List (List Char)) : List Token :=
  parts.flatMap fun p => [.dot, .quoted p]

theorem toList_enquoted (part : String) (parts : List String) :
  (enquoted (part :: parts)).toList
    = '"' :: (part.toList ++ '"' :: furtherChars (parts.map String.toList))
  := by
  induction parts generalizing part with
  | nil => simp [enquoted, enquote, furtherChars]
  | cons next parts ih =>
    have hcons : (enquoted (part :: next :: parts)).toList
        = '"' :: (part.toList ++ '"' :: '.' :: (enquoted (next :: parts)).toList) := by
      simp [enquoted, enquote]
    rw [hcons, ih]
    simp [furtherChars]

theorem closing?_cons_of_ne {quote c : Char} (h : c ≠ quote) (cs : List Char) :
  closing? quote (c :: cs) = (closing? quote cs).map fun t => (c :: t.1, t.2 + 1)
  := by
  cases cs with
  | nil => simp [closing?, h]
  | cons d cs => rw [closing?, if_neg h]

/-- A text in quotes ends with the first quote, if no other one follows that. -/
theorem closing?_append {quote : Char} {text rest : List Char} (htext : quote ∉ text)
    (hrest : rest.head? ≠ some quote) :
  closing? quote (text ++ quote :: rest) = some (text, text.length + 1)
  := by
  induction text with
  | nil =>
    cases rest with
    | nil => simp [closing?]
    | cons d rest =>
      have hd : d ≠ quote := by simpa using hrest
      simp [closing?, hd]
  | cons c text ih =>
    rw [List.mem_cons, not_or] at htext
    rw [List.cons_append, closing?_cons_of_ne (Ne.symm htext.1), ih htext.2]
    simp

theorem scan_eq_drop (context : Context) (passed : Nat) (cs : List Char) :
  scan context passed cs = scan context 0 (cs.drop passed)
  := by
  induction passed generalizing cs with
  | zero => rfl
  | succ passed ih =>
    cases cs with
    | nil => rfl
    | cons c cs => rw [scan, ih, List.drop_succ_cons]

/-- What is read first of a name comes before the tokens of the rest, whatever the context is. -/
theorem scan_of_lexeme? {context : Context} {c : Char} {cs : List Char} {t : Token} {size : Nat}
    {ts : List Token} (hlexeme : lexeme? context c cs = some { tokens := [t], rest := size })
    (hrest : ∀ context, scan context 0 (cs.drop size) = some ts) :
  scan context 0 (c :: cs) = some (t :: ts)
  := by
  rw [scan, hlexeme]
  simp [scan_eq_drop _ size, hrest, remark]

/-- A text in quotes is a token. -/
theorem scan_quoted {text rest : List Char} {ts : List Token} (htext : '"' ∉ text)
    (hrest : rest.head? ≠ some '"') (hts : ∀ context, scan context 0 rest = some ts)
    (context : Context) :
  scan context 0 ('"' :: (text ++ '"' :: rest)) = some (.quoted text :: ts)
  := by
  have hlexeme : lexeme? context '"' (text ++ '"' :: rest)
      = some { tokens := [.quoted text], rest := text.length + 1 } := by
    rw [lexeme?, closing?_append htext hrest]
    rfl
  apply scan_of_lexeme? hlexeme
  simpa using hts

theorem phrase?_dot (cs : List Char) : phrase? ('.' :: cs) = none := by
  have hfirst : ∀ phrase ∈ plainPhrases ++ reservedPhrases,
      ∃ c ∈ phrase.toList.head?, c ≠ ' ' ∧ c ≠ '.' := by
    simp [plainPhrases, typePhrases, reservedPhrases]
  rw [phrase?, List.findSome?_eq_none_iff]
  intro phrase hphrase
  obtain ⟨c, hc, hblank, hdot⟩ := hfirst phrase hphrase
  obtain ⟨more, hmore⟩ := List.head?_eq_some_iff.mp hc
  have hupper : '.'.toUpper ≠ c := Ne.symm hdot
  have hsize : phraseSize? phrase.toList ('.' :: cs) = none := by
    rw [hmore, phraseSize?, if_neg hblank, if_neg hupper]
  simp [hsize]

theorem operator?_dot (cs : List Char) : operator? ('.' :: cs) = none := by
  have hfirst : ∀ operator ∈ operators, ∃ c ∈ operator.toList.head?, c ≠ '.' := by
    simp [operators]
  rw [operator?, List.find?_eq_none]
  intro operator hoperator hprefix
  obtain ⟨text, htext, rfl⟩ := List.mem_map.mp hoperator
  obtain ⟨c, hc, hdot⟩ := hfirst text htext
  obtain ⟨more, hmore⟩ := List.head?_eq_some_iff.mp hc
  rw [hmore] at hprefix
  simp [hdot] at hprefix

/-- No phrase and no operator begins with a dot, so a dot is a token by itself. -/
theorem lexemeOf_dot (context : Context) (cs : List Char) :
  lexemeOf context '.' cs = { tokens := [.dot] }
  := by
  have hmark : marks.contains '.' = true := rfl
  rw [lexemeOf, phrase?_dot, operator?_dot]
  simp only [hmark, if_true]

theorem scan_dot {cs : List Char} {ts : List Token}
    (hts : ∀ context, scan context 0 cs = some ts) (context : Context) :
  scan context 0 ('.' :: cs) = some (.dot :: ts)
  := by
  have hlexeme : lexeme? context '.' cs = some { tokens := [.dot] } := by
    have hseparating : Text.isSeparating '.' = false := rfl
    have hdigit : '.'.isDigit = false := rfl
    simp [lexeme?, hseparating, hdigit, lexemeOf_dot]
  apply scan_of_lexeme? hlexeme
  simpa using hts

theorem head?_furtherChars (parts : List (List Char)) :
  (furtherChars parts).head? ≠ some '"'
  := by
  cases parts <;> simp [furtherChars]

theorem scan_furtherChars {parts : List (List Char)} (h : ∀ p ∈ parts, '"' ∉ p)
    (context : Context) :
  scan context 0 (furtherChars parts) = some (furtherTokens parts)
  := by
  induction parts generalizing context with
  | nil => rfl
  | cons p parts ih =>
    obtain ⟨hp, hparts⟩ := List.forall_mem_cons.mp h
    have hquoted := scan_quoted hp (head?_furtherChars parts) (ih hparts)
    simpa [furtherChars, furtherTokens] using scan_dot hquoted context

/-- The tokens of a name with its parts in quotes. -/
theorem tokens?_enquoted {part : String} {parts : List String}
    (h : ∀ p ∈ part :: parts, '"' ∉ p.toList) :
  tokens? (enquoted (part :: parts)).toList
    = some (.quoted part.toList :: furtherTokens (parts.map String.toList))
  := by
  obtain ⟨hpart, hparts⟩ := List.forall_mem_cons.mp h
  rw [toList_enquoted]
  apply scan_quoted hpart (head?_furtherChars _)
  apply scan_furtherChars
  simpa using hparts

/-! ### Readers -/

theorem get_bind {β : Type} (k : List Token → Reader β) (ts : List Token) :
  (get >>= k) ts = k ts ts
  := rfl

/-- Without a parenthesis there is no call. -/
theorem call_eq_none (g : Grammar) (t : Token) {ts : List Token}
    (hts : ts.head? ≠ some (.mark ['('])) :
  call g { bare := false } (t :: ts) = .ok (none, t :: ts)
  := by
  rw [call, get_bind]
  simp only [Bool.false_and, Bool.false_eq_true, if_false]
  split
  · simp at hts
  · rfl

/-- A text in quotes is a part, unless it is the name of a function that is called. -/
theorem tablePart_quoted (g : Grammar) (text : List Char) {ts : List Token}
    (hts : ts.head? ≠ some (.mark ['('])) :
  tablePart g (.quoted text :: ts) = .ok (some (.identifier text), ts)
  := by
  have hcall : function g { bare := false } (.quoted text :: ts)
      = .ok (none, .quoted text :: ts) :=
    call_eq_none g (.quoted text) hts
  rw [tablePart, orElse, bind_of_eq_ok hcall]
  rfl

theorem head?_furtherTokens (parts : List (List Char)) :
  (furtherTokens parts).head? ≠ some (.mark ['('])
  := by
  cases parts <;> simp [furtherTokens]

/-- Steps that take a part each take all further parts, if there are enough of them. -/
theorem onwardFor_furtherTokens
    {step : List (Option Value) → Reader (Option (List (Option Value)))}
    (hstop : ∀ found, step found [] = .ok (none, []))
    (hstep : ∀ found p parts, step found (furtherTokens (p :: parts))
      = .ok (some (some (.identifier p) :: found), furtherTokens parts))
    {parts : List (List Char)} {fuel : List Token} (hfuel : parts.length ≤ fuel.length)
    (found : List (Option Value)) :
  onwardFor step fuel found (furtherTokens parts)
    = .ok (((parts.map Value.identifier).map some).reverse ++ found, [])
  := by
  induction parts generalizing fuel found with
  | nil =>
    cases fuel with
    | nil => rfl
    | cons t fuel =>
      rw [onwardFor, furtherTokens, List.flatMap_nil, bind_of_eq_ok (hstop found)]
      rfl
  | cons p parts ih =>
    cases fuel with
    | nil => simp at hfuel
    | cons t fuel =>
      rw [onwardFor, bind_of_eq_ok (hstep found p parts)]
      dsimp only
      rw [ih (Nat.le_of_succ_le_succ hfuel)]
      simp

theorem partsBackward_quoted (g : Grammar) (part : List Char) (parts : List (List Char)) :
  partsBackward g (.quoted part :: furtherTokens parts)
    = .ok ((((part :: parts).map Value.identifier).map some).reverse, [])
  := by
  have hfirst := tablePart_quoted g part (head?_furtherTokens parts)
  -- there are two tokens for each of the parts, so the steps do not run out
  have hfuel : parts.length ≤ (furtherTokens parts).length := by
    have hlength : (furtherTokens parts).length = parts.length * 2 := by
      simp [furtherTokens]
    omega
  rw [partsBackward, bind_of_eq_ok hfirst, onward, get_bind,
    onwardFor_furtherTokens ?_ ?_ hfuel]
  · simp
  · intro found
    rfl
  · intro found p parts
    have haccept : accept "." (furtherTokens (p :: parts))
        = .ok (true, .quoted p :: furtherTokens parts) := rfl
    rw [bind_of_eq_ok haccept, if_pos rfl,
      bind_of_eq_ok (tablePart_quoted g p (head?_furtherTokens parts))]
    rfl

theorem gapsFit_map_some {α : Type} {a : List α} (h : a ≠ []) : gapsFit (a.map some) = true := by
  have hsome : (a.map some).dropWhile Option.isNone = a.map some := by
    cases a <;> simp
  have hlast : (a.map some).getLast? = some (some (a.getLast h)) := by
    rw [List.getLast?_map, List.getLast?_eq_some_getLast h, Option.map_some]
  rw [gapsFit, hsome, hlast]
  simp [← List.map_drop]

/-- The parts in quotes are a path. -/
theorem path_quoted (part : List Char) (parts : List (List Char)) :
  path (.quoted part :: furtherTokens parts) = .ok (part :: parts)
  := by
  let g : Grammar := .ofDepth (Token.quoted part :: furtherTokens parts).length
  have hrest : tableRest g [] = .ok ((), []) := rfl
  have hfit := gapsFit_map_some (a := (part :: parts).map Value.identifier) (by simp)
  have hparts : tableParts g (.quoted part :: furtherTokens parts)
      = .ok (((part :: parts).map Value.identifier).map some, []) := by
    rw [tableParts, bind_of_eq_ok (partsBackward_quoted g part parts), List.reverse_reverse,
      if_pos hfit, bind_of_eq_ok hrest]
    rfl
  rw [path, hparts]
  dsimp only
  rw [List.filterMap_map, List.filterMap_map]
  apply congrArg Except.ok List.filterMap_some

theorem paths_quoted (part : List Char) (parts : List (List Char)) :
  paths (.quoted part :: furtherTokens parts) = .ok [part :: parts]
  := by
  have hsemicolon : Token.semicolon ∉ .quoted part :: furtherTokens parts := by
    simp [furtherTokens]
  rw [paths, chunks_eq_singleton hsemicolon, pathsFrom, path_quoted]
  rfl

/-! ### Parts -/

/-- Whether a text is not empty and has no quote, backtick or bracket in it. -/
def IsBare (part : String) : Prop :=
  part ≠ "" ∧ ∀ c ∈ part.toList, isWrapping c = false

theorem IsBare.unwrap_eq {part : String} (h : IsBare part) : unwrap part.toList = part := by
  have hend : ∀ cs ⊆ part.toList, cs.dropWhile isWrapping = cs := by
    intro cs hcs
    cases cs with
    | nil => rfl
    | cons c cs =>
      have hc : isWrapping c = false := h.2 c (hcs List.mem_cons_self)
      simp [hc]
  rw [unwrap, Text.strip, hend _ (List.Subset.refl _),
    hend _ (List.reverse_subset.mpr (List.Subset.refl _)), List.reverse_reverse,
    String.ofList_toList]

theorem getElem?_bind_unwrap? {parts : List String} (h : ∀ p ∈ parts, IsBare p) (n : Nat) :
  (parts.map String.toList)[n]?.bind unwrap? = parts[n]?
  := by
  rw [List.getElem?_map]
  cases hpart : parts[n]? with
  | none => rfl
  | some part =>
    have hbare := h part (List.mem_of_getElem? hpart)
    simp [unwrap?, hbare.unwrap_eq, hbare.1]

/-- The last one of some parts is the name, and the two before it are the schema and the
database. -/
theorem ofParts_concat (whole : String) {others : List String} {last : String}
    (h : ∀ p ∈ others ++ [last], IsBare p) :
  ofParts whole ((others ++ [last]).map String.toList)
    = { database := others.reverse[1]?, schema := others.reverse[0]?, name := last }
  := by
  have hlast : IsBare last := h last (by simp)
  have hothers : ∀ p ∈ others.reverse, IsBare p := by
    intro p hp
    apply h p (List.mem_append_left _ (List.mem_reverse.mp hp))
  have hback : ((others ++ [last]).map String.toList).reverse
      = last.toList :: others.reverse.map String.toList := by
    simp
  rw [ofParts, hback]
  simp only [hlast.unwrap_eq, hlast.1, if_false, getElem?_bind_unwrap? hothers]

/-- The last three parts, each in its place, with nothing in a place that is left over before
them. -/
def lastThree (parts : List String) : List (Option String) :=
  ((parts.drop (parts.length - 3)).map some).leftpad 3 none

theorem lastThree_concat (others : List String) (last : String) :
  lastThree (others ++ [last]) = [others.reverse[1]?, others.reverse[0]?, some last]
  := by
  obtain ⟨backward, rfl⟩ : ∃ backward, others = backward.reverse := ⟨others.reverse, by simp⟩
  match backward with
  | [] | [b] | b :: a :: more => simp [lastThree, List.leftpad]

/-- If each part of a name is in quotes, the last three parts are got back as they were. -/
theorem split_enquoted (parts : List String) (hne : parts ≠ []) (hparts : ∀ p ∈ parts, IsBare p) :
  ∃ q, split (enquoted parts) = .ok q
    ∧ [q.database, q.schema, some q.name] = lastThree parts
  := by
  obtain ⟨first, more, rfl⟩ := List.exists_cons_of_ne_nil hne
  have hquotes : ∀ p ∈ first :: more, '"' ∉ p.toList := by
    intro p hp hquote
    have hbare := (hparts p hp).2 '"' hquote
    cases hbare
  have hsplit : split (enquoted (first :: more))
      = .ok (ofParts (enquoted (first :: more)) ((first :: more).map String.toList)) := by
    rw [split, tokens?_enquoted hquotes]
    dsimp only
    rw [paths_quoted]
    rfl
  refine ⟨_, hsplit, ?_⟩
  obtain ⟨others, last, hconcat⟩ := List.eq_nil_or_concat (first :: more) |>.resolve_left hne
  rw [List.concat_eq_append] at hconcat
  rw [hconcat] at hparts ⊢
  rw [ofParts_concat _ hparts, lastThree_concat]

/-- Dots, blanks, semicolons, parentheses and what would begin a comment are part of a part. -/
theorem split_enquoted_of_marks :
  (∀ p ∈ ["x", "my.db", " a b", "it's; f(-- /*"], IsBare p)
    ∧ ∃ q, split (enquoted ["x", "my.db", " a b", "it's; f(-- /*"]) = .ok q
      ∧ [q.database, q.schema, some q.name] = [some "my.db", some " a b", some "it's; f(-- /*"]
  := by
  have hbare : ∀ p ∈ ["x", "my.db", " a b", "it's; f(-- /*"], IsBare p := by
    simp [IsBare, isWrapping]
  exact ⟨hbare, split_enquoted _ (by simp) hbare⟩

end Lineage.QualifiedName
