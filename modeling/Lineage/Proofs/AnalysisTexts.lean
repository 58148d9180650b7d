import Lineage.Analysis
import Lineage.Proofs.JsonGrammar

/-!
# Texts of analyses

Which analysis a text holds depends neither on how its lines end nor on whether its list of
statements stands alone.

A line can only end between the tokens of JSON. So texts that differ in their line ends alone hold
the same phrases (`Json.SameLines.phrase`), and a file holds the analysis that its content holds. A
list of statements is read as the record that has it as its only member.
-/

namespace Lineage

namespace Analysis

/-! ### Line ends -/

theorem unifyLineEnds_cons {c : Char} (hc : c ≠ '\r') (cs : List Char) :
  unifyLineEnds (c :: cs) = c :: unifyLineEnds cs
  := by
  rw [unifyLineEnds, if_neg hc]
  rintro rest rfl -
  apply hc rfl

theorem exists_unifyLineEnds_return (cs : List Char) :
  ∃ rest, unifyLineEnds ('\r' :: cs) = '\n' :: rest
  := by
  unfold unifyLineEnds
  split
  · next heq => cases heq
  · exact ⟨_, rfl⟩
  · next heq =>
    obtain ⟨rfl, -⟩ := List.cons.inj heq
    exact ⟨_, rfl⟩

theorem unifyLineEnds_eq_nil_iff {cs : List Char} : unifyLineEnds cs = [] ↔ cs = [] := by
  fun_cases unifyLineEnds cs <;> simp

theorem unifyLineEnds_idem (cs : List Char) :
  unifyLineEnds (unifyLineEnds cs) = unifyLineEnds cs
  := by
  fun_induction unifyLineEnds cs with
  | case1 => rfl
  | case2 cs ih => rw [unifyLineEnds_cons (by decide), ih]
  | case3 c cs hne ih =>
    have hc : (if c = '\r' then '\n' else c) ≠ '\r' := by
      split <;> simp_all
    rw [unifyLineEnds_cons hc, ih]

end Analysis

namespace Json

open Analysis

/-- Every line end is blank, also after it is unified. -/
theorem skip_unifyLineEnds (cs : List Char) :
  skip (unifyLineEnds cs) = unifyLineEnds (skip cs)
  := by
  fun_induction unifyLineEnds cs with
  | case1 => rfl
  | case2 cs ih => exact ih
  | case3 c cs hne ih =>
    cases hc : isBlank c with
    | true =>
      have hblank : isBlank (if c = '\r' then '\n' else c) = true := by
        split
        · rfl
        · exact hc
      rw [skip, skip, List.dropWhile_cons_of_pos hblank, List.dropWhile_cons_of_pos hc]
      exact ih
    | false =>
      have hne : c ≠ '\r' := by
        rintro rfl
        cases hc
      rw [if_neg hne, skip_cons hc, skip_cons hc, unifyLineEnds_cons hne]

/-- Texts that differ at most in how their lines end. -/
def SameLines (cs cs' : List Char) : Prop :=
  unifyLineEnds cs = unifyLineEnds cs'

namespace SameLines

variable {c : Char} {cs cs' rest w : List Char}

theorem symm (h : SameLines cs cs') : SameLines cs' cs :=
  Eq.symm h

theorem skip (h : SameLines cs cs') : SameLines (skip cs) (skip cs') := by
  rw [SameLines, ← skip_unifyLineEnds, ← skip_unifyLineEnds, h]

theorem exists_cons (h : SameLines (c :: cs) cs') (hc : c ≠ '\r' ∧ c ≠ '\n') :
  ∃ rest, cs' = c :: rest ∧ SameLines cs rest
  := by
  rw [SameLines, unifyLineEnds_cons hc.1] at h
  cases cs' with
  | nil => cases h
  | cons c' rest =>
    by_cases hc' : c' = '\r'
    · obtain ⟨more, hmore⟩ := exists_unifyLineEnds_return rest
      rw [hc', hmore] at h
      exact absurd (List.cons.inj h).1 hc.2
    · rw [unifyLineEnds_cons hc'] at h
      obtain ⟨rfl, hrest⟩ := List.cons.inj h
      exact ⟨rest, rfl, hrest⟩

theorem exists_append (h : SameLines (w ++ rest) cs') (hw : IsLine w) :
  ∃ rest', cs' = w ++ rest' ∧ SameLines rest rest'
  := by
  induction w generalizing cs' with
  | nil => exact ⟨cs', rfl, h⟩
  | cons c w ih =>
    obtain ⟨hc, hw⟩ := List.forall_mem_cons.mp hw
    obtain ⟨more, rfl, hmore⟩ := exists_cons h hc
    obtain ⟨rest', rfl, hrest⟩ := ih hmore hw
    exact ⟨rest', rfl, hrest⟩

theorem exists_skip (h : SameLines cs cs') (hskip : Json.skip cs = c :: rest)
    (hc : c ≠ '\r' ∧ c ≠ '\n') :
  ∃ rest', Json.skip cs' = c :: rest' ∧ SameLines rest rest'
  := by
  apply exists_cons _ hc
  rw [← hskip]
  exact h.skip

theorem skip_eq_nil (h : SameLines cs cs') (hskip : Json.skip cs = []) : Json.skip cs' = [] := by
  have hnil := h.skip
  rw [hskip] at hnil
  apply unifyLineEnds_eq_nil_iff.mp hnil.symm

theorem ends (h : SameLines cs cs') (hcs : Ends cs) : Ends cs' := by
  intro c hc
  obtain ⟨rest, rfl⟩ := List.head?_eq_some_iff.mp hc
  by_cases hline : c ≠ '\r' ∧ c ≠ '\n'
  · obtain ⟨rest', rfl, -⟩ := exists_cons h.symm hline
    apply hcs c rfl
  · rcases not_and_or.mp hline with hc | hc
    · rw [not_not.mp hc]
      decide
    · rw [not_not.mp hc]
      decide

/-- Texts with the same lines hold the same phrases. -/
theorem phrase {kind : PhraseKind} {a : kind.Meaning} (hphrase : Phrase kind cs a rest)
    (h : SameLines cs cs') :
  ∃ rest', Phrase kind cs' a rest' ∧ SameLines rest rest'
  := by
  -- a token is on one line, and what stands between tokens is no line end once blanks are skipped
  induction hphrase generalizing cs' with
  | token hw hrest =>
    obtain ⟨rest', rfl, hsame⟩ := exists_append h hw.isLine
    exact ⟨rest', .token hw (hsame.ends hrest), hsame⟩
  | emptyList hend =>
    obtain ⟨cs', rfl, hsame⟩ := exists_cons h (by decide)
    obtain ⟨rest', hend', hrest⟩ := hsame.exists_skip hend (by decide)
    exact ⟨rest', .emptyList hend', hrest⟩
  | list hitems ih =>
    obtain ⟨cs', rfl, hsame⟩ := exists_cons h (by decide)
    obtain ⟨rest', hitems', hrest⟩ := ih hsame.skip
    exact ⟨rest', .list hitems', hrest⟩
  | emptyRecord hend =>
    obtain ⟨cs', rfl, hsame⟩ := exists_cons h (by decide)
    obtain ⟨rest', hend', hrest⟩ := hsame.exists_skip hend (by decide)
    exact ⟨rest', .emptyRecord hend', hrest⟩
  | record hmembers ih =>
    obtain ⟨cs', rfl, hsame⟩ := exists_cons h (by decide)
    obtain ⟨rest', hmembers', hrest⟩ := ih hsame.skip
    exact ⟨rest', .record hmembers', hrest⟩
  | lastItem hvalue hend ih =>
    obtain ⟨more', hvalue', hmore⟩ := ih h
    obtain ⟨rest', hend', hrest⟩ := hmore.exists_skip hend (by decide)
    exact ⟨rest', .lastItem hvalue' hend', hrest⟩
  | nextItem hvalue hcomma hnext ihvalue ihnext =>
    obtain ⟨more', hvalue', hmore⟩ := ihvalue h
    obtain ⟨after', hcomma', hafter⟩ := hmore.exists_skip hcomma (by decide)
    obtain ⟨rest', hnext', hrest⟩ := ihnext hafter.skip
    exact ⟨rest', .nextItem hvalue' hcomma' hnext', hrest⟩
  | lastMember hname hcolon hvalue hend ih =>
    obtain ⟨cs', rfl, hsame⟩ := exists_cons h (by decide)
    obtain ⟨colon', rfl, hcolons⟩ := exists_append hsame hname.isLine
    obtain ⟨after', hcolon', hafter⟩ := hcolons.exists_skip hcolon (by decide)
    obtain ⟨more', hvalue', hmore⟩ := ih hafter.skip
    obtain ⟨rest', hend', hrest⟩ := hmore.exists_skip hend (by decide)
    exact ⟨rest', .lastMember hname hcolon' hvalue' hend', hrest⟩
  | nextMember hname hcolon hvalue hcomma hnext ihvalue ihnext =>
    obtain ⟨cs', rfl, hsame⟩ := exists_cons h (by decide)
    obtain ⟨colon', rfl, hcolons⟩ := exists_append hsame hname.isLine
    obtain ⟨after', hcolon', hafter⟩ := hcolons.exists_skip hcolon (by decide)
    obtain ⟨more', hvalue', hmore⟩ := ihvalue hafter.skip
    obtain ⟨next', hcomma', hsamenext⟩ := hmore.exists_skip hcomma (by decide)
    obtain ⟨rest', hnext', hrest⟩ := ihnext hsamenext.skip
    exact ⟨rest', .nextMember hname hcolon' hvalue' hcomma' hnext', hrest⟩

theorem readChars_eq_ok (h : SameLines cs cs') {d : Data} (hread : readChars cs = .ok d) :
  readChars cs' = .ok d
  := by
  obtain ⟨hmark, rest, hphrase, hrest⟩ := readChars_eq_ok_iff.mp hread
  have hmark' : cs'.head? ≠ some '\uFEFF' := by
    intro hhead
    obtain ⟨more, rfl⟩ := List.head?_eq_some_iff.mp hhead
    obtain ⟨more', rfl, -⟩ := exists_cons h.symm (by decide)
    apply hmark rfl
  obtain ⟨rest', hphrase', hsame⟩ := h.skip.phrase hphrase
  apply readChars_eq_ok_iff.mpr ⟨hmark', rest', hphrase', hsame.skip_eq_nil hrest⟩

end SameLines

end Json

namespace Analysis

/-- Unifying the line ends of a text neither changes the value it holds nor makes it hold one. -/
theorem read_unifyLineEnds_iff {s : String} {d : Data} :
  Json.read (String.ofList (unifyLineEnds s.toList)) = .ok d ↔ Json.read s = .ok d
  := by
  have hsame : Json.SameLines (unifyLineEnds s.toList) s.toList := unifyLineEnds_idem s.toList
  rw [Json.read, Json.read, String.toList_ofList]
  exact ⟨hsame.readChars_eq_ok, hsame.symm.readChars_eq_ok⟩

/-! ### Outcomes -/

theorem parse_eq_ok_iff {s : String} {a : Analysis} :
  parse s = .ok a ↔ ∃ d, Json.read s = .ok d ∧ read (wrap d) = .valid a
  := by
  unfold parse
  cases Json.read s with
  | error fault => simp
  | ok d => cases hd : read (wrap d) <;> simp [hd]

theorem parse_eq_invalid_iff {s : String} {problems : List Problem} :
  parse s = .error (.invalid problems)
    ↔ ∃ d, Json.read s = .ok d ∧ read (wrap d) = .invalid problems
  := by
  unfold parse
  cases Json.read s with
  | error fault => simp
  | ok d => cases hd : read (wrap d) <;> simp [hd]

/-- A file holds an analysis exactly if its content is the text of that analysis, and it has the
problems of the document that is its content. -/
theorem load_iff_parse (path content : String) :
  (∀ a, load path (some content) = .ok a ↔ parse content = .ok a)
    ∧ ∀ problems, load path (some content) = .error (.invalid problems)
      ↔ parse content = .error (.invalid problems)
  := by
  constructor
  · intro a
    simp only [load, parseFile, parse_eq_ok_iff, read_unifyLineEnds_iff]
  · intro problems
    simp only [load, parseFile, parse_eq_invalid_iff, read_unifyLineEnds_iff]

/-! ### Lists that stand alone -/

/-- A text with a list holds the analysis of the record that has the list as its statements. -/
theorem parse_record_of_list {s : String} {ds : List Data} (h : Json.read s = .ok (.list ds)) :
  parse ("\x7b\"statements\":" ++ s ++ "\x7d") = parse s
  := by
  have hname : ∀ c ∈ "statements".toList, Json.IsPlain c := by
    simp [Json.IsPlain]
  have hrecord : Json.read ("\x7b\"statements\":" ++ s ++ "\x7d")
      = .ok (.record [("statements", .list ds)]) := by
    have hmember := Json.readChars_member hname h
    simpa [Json.read] using hmember
  rw [parse, parse, hrecord, h]
  rfl

/-- A list of statements, on two lines and with blanks around it. -/
def twoStatements : String :=
  " [\x7b\x7d,\r\n\x7b\"a\":\"]\"\x7d]\t"

theorem parse_record_of_twoStatements :
  Json.read twoStatements = .ok (.list [.record [], .record [("a", .text "]")]])
    ∧ parse ("\x7b\"statements\":" ++ twoStatements ++ "\x7d") = parse twoStatements
  := by
  have htext : twoStatements.toList
      = [' ', '[', '\x7b', '\x7d', ',', '\r', '\n', '\x7b', '"', 'a', '"', ':', '"', ']', '"',
        '\x7d', ']', '\t'] := by
    simp [twoStatements]
  have hread : Json.read twoStatements = .ok (.list [.record [], .record [("a", .text "]")]]) := by
    rw [Json.read, htext]
    rfl
  exact ⟨hread, parse_record_of_list hread⟩

end Analysis

end Lineage
