import LuaFold.Proofs.LineNumbers
import LuaFold.Proofs.Relexing
import LuaFold.Report.Basic

/-! The lines that a report names. The report counts line feeds. So it misses the line breaks that
are a carriage return alone, and takes a line feed for a whole line break where its carriage return
is the last byte of a body. Apart from these its lines are those of the lexer. -/

namespace LuaFold

/-- The offset of the last byte of the span, or where the span is when it is empty. -/
def Span.lastOffset (s : Span) : Nat :=
  max (s.stop - 1) s.start

namespace Text

/-- The number of carriage returns before the offset that are a line break each on its own. -/
def returnsBefore (text : String) (offset : Nat) : Nat :=
  (lineBreaksOf text).countP fun b => b.chars = ['\r'] && b.stop ≤ offset

/-- The number of line breaks of a line feed and a carriage return that have the offset between
them: one or none. -/
def feedReturnsAt (text : String) (offset : Nat) : Nat :=
  (lineBreaksOf text).count ⟨['\n', '\r'], offset + 1⟩

/-- No line break goes across a cut that is not inside one. -/
theorem feedReturnsAt_of_divides {text : String} {before after : List Char}
    (htext : text.toList = before ++ after) (h : Divides before after) :
    feedReturnsAt text (String.utf8Len before) = 0 := by
  rw [feedReturnsAt, List.count_eq_zero, lineBreaksOf, htext, lineBreaksFrom_append h,
    List.mem_append, not_or]
  constructor <;> intro hmem <;> have := bounds_of_mem_lineBreaksFrom hmem
  · simp only at this
    omega
  · simp only [List.length_cons, List.length_nil] at this
    omega

end Text

namespace Report

/-! ### Line feeds -/

theorem lineFeeds_add (found bytes : Nat) (cs : List Char) :
    lineFeeds found bytes cs = found + lineFeeds 0 bytes cs := by
  induction cs generalizing found bytes with
  | nil => rfl
  | cons c cs ih =>
    rw [lineFeeds, lineFeeds]
    split
    · rfl
    · rw [ih, ih (if c == '\n' then 0 + 1 else 0)]
      split <;> omega

theorem lineFeeds_zero (cs : List Char) : lineFeeds 0 0 cs = 0 := by
  cases cs <;> rfl

/-- Up to `stop`, from the offset of the character `c` on. -/
theorem lineFeeds_cons (stop offset : Nat) (c : Char) (cs : List Char) :
    lineFeeds 0 (stop - offset) (c :: cs) =
      (if c = '\n' ∧ offset < stop then 1 else 0) +
        lineFeeds 0 (stop - (offset + c.utf8Size)) cs := by
  rw [lineFeeds, Nat.sub_sub]
  by_cases hstop : stop - offset = 0
  · have hzero : stop - (offset + c.utf8Size) = 0 := by omega
    have hlt : ¬ offset < stop := by omega
    rw [if_pos hstop, hzero, lineFeeds_zero, if_neg fun h => hlt h.2]
  · have hlt : offset < stop := by omega
    rw [if_neg hstop, lineFeeds_add]
    simp [hlt]

/-- Of a line break, the report counts the line feed. -/
theorem lineFeeds_add_returns (stop offset : Nat) (cs : List Char) :
    lineFeeds 0 (stop - offset) cs +
        (Text.lineBreaksFrom offset cs).countP (fun b => b.chars = ['\r'] && b.stop ≤ stop) =
      (Text.lineBreaksFrom offset cs).countP (·.stop ≤ stop) +
        (Text.lineBreaksFrom offset cs).count ⟨['\n', '\r'], stop + 1⟩ := by
  have hfeed : '\n'.utf8Size = 1 := rfl
  have hreturn : '\r'.utf8Size = 1 := rfl
  induction cs using Text.lineBreaks_induction generalizing offset with
  | nil => rfl
  | pair c cs hc ih =>
    have ih := ih (offset + 2)
    rw [Text.lineBreaksFrom_pair hc]
    rcases Text.isLineBreak_iff.mp hc with rfl | rfl
    · have hpartner : Text.lineBreakPartner '\n' = '\r' := rfl
      rw [hpartner, lineFeeds_cons, lineFeeds_cons, List.countP_cons_of_neg (by simp),
        List.countP_cons, List.count_cons, hfeed, hreturn]
      simp only [beq_iff_eq, Text.LineBreak.mk.injEq]
      grind
    · have hpartner : Text.lineBreakPartner '\r' = '\n' := rfl
      rw [hpartner, lineFeeds_cons, lineFeeds_cons, List.countP_cons_of_neg (by simp),
        List.countP_cons, List.count_cons_of_ne (by simp), hfeed, hreturn]
      grind
  | single c cs hc hcs ih =>
    have ih := ih (offset + 1)
    rw [Text.lineBreaksFrom_single hc hcs]
    rcases Text.isLineBreak_iff.mp hc with rfl | rfl
    · rw [lineFeeds_cons, List.countP_cons_of_neg (by simp), List.countP_cons,
        List.count_cons_of_ne (by simp), hfeed]
      grind
    · rw [lineFeeds_cons, List.countP_cons, List.countP_cons, List.count_cons_of_ne (by simp),
        hreturn]
      grind
  | other c cs hc ih =>
    have hne : c ≠ '\n' := by
      rintro rfl
      cases hc
    rw [Text.lineBreaksFrom_other hc, lineFeeds_cons, if_neg fun h => hne h.1, Nat.zero_add]
    exact ih (offset + c.utf8Size)

/-- The line that the report counts, against the line that the offset is in. -/
theorem lineOf_add_returnsBefore (text : String) (offset : Nat) :
    lineOf text offset + Text.returnsBefore text offset =
      Text.lineAt text offset + Text.feedReturnsAt text offset := by
  have hfeeds := lineFeeds_add_returns offset 0 text.toList
  rw [Nat.sub_zero] at hfeeds
  rw [lineOf, Text.lineAt, Text.returnsBefore, Text.feedReturnsAt, Text.lineBreaksOf]
  omega

/-! ### The lines of a body -/

theorem getElem?_lines {text : String} {i : Nat} {n : Node}
    (hn : (outermostBodies default text)[i]? = some n) :
    (lines text)[i + 1]? = some (blockLine text i n) := by
  rw [lines, List.getElem?_cons_succ, List.getElem?_map, List.getElem?_zipIdx,
    Array.getElem?_toList, hn, Nat.zero_add]
  rfl

/-- A body does not start inside a line break. -/
theorem feedReturnsAt_start {d : Dialect} {text : String} {n : Node}
    (hn : n ∈ outermostBodies d text) : Text.feedReturnsAt text n.span.start = 0 := by
  obtain ⟨ls, ms, ls', hall, -, -, -, hspan⟩ := exists_lexemes_of_mem_outermostBodies hn
  have htext : text.toList = ls.flatMap Lexeme.chars ++ (ms ++ ls').flatMap Lexeme.chars := by
    rw [← hall.flatMap_chars, List.flatMap_append]
  rw [hspan]
  exact Text.feedReturnsAt_of_divides htext hall.divides

/-- The lexer is in the line of its offset wherever it comes to. The line that the report names for
the start of a body is less than that line by the number of carriage returns before the body that
are line breaks on their own. For the end of the body it is less by those before its last byte, but
one more when that byte is the carriage return of a line break that starts with a line feed. -/
theorem lines_outermostBodies (text : String) :
    (∀ done lx, Lexer.Reaches default text done lx →
      lx.line = Text.lineAt text lx.scanner.offset) ∧
    ∀ i n, (outermostBodies default text)[i]? = some n →
      ∃ first last,
        (lines text)[i + 1]? = some ("[" ++ padIndex i ++ "] lines " ++ toString first ++ "-"
          ++ toString last ++ " bytes " ++ toString n.span.start ++ ".." ++ toString n.span.stop
          ++ " " ++ preview ((Text.slice? text n.span).getD "")) ∧
        first + Text.returnsBefore text n.span.start = Text.lineAt text n.span.start ∧
        last + Text.returnsBefore text n.span.lastOffset =
          Text.lineAt text n.span.lastOffset + Text.feedReturnsAt text n.span.lastOffset := by
  refine ⟨fun _ _ h => h.line_eq_lineAt, fun i n hn => ?_⟩
  refine ⟨lineOf text n.span.start, lineOf text n.span.lastOffset, getElem?_lines hn, ?_,
    lineOf_add_returnsBefore text n.span.lastOffset⟩
  rw [lineOf_add_returnsBefore, feedReturnsAt_start (Array.mem_of_getElem? hn), Nat.add_zero]

/-- The line break before the loop is a carriage return. The body is in the second line, and the
report says that it is in the first. -/
theorem lines_of_carriage_returns :
    let text := "a=1\rdo b()\rend"
    let n : Node := ⟨.block, true, 5, 10, 6, 5⟩
    (outermostBodies default text)[0]? = some n ∧
      Text.lineAt text n.span.start = 2 ∧ Text.lineAt text n.span.lastOffset = 2 ∧
      lines text = ["1 top-level blocks", "[  0] lines 1-1 bytes 6..11 \"b()\""] := by
  decide +kernel

end Report

end LuaFold
