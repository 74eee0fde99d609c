import LuaFold.Proofs.ScannerPosition
import LuaFold.Text.Reader

/-! The reader of bytes in step with the scanner of characters. Whatever a client calls, the reader
cuts no character and leaves no text, and what it shows is what the scanner shows. -/

namespace LuaFold

namespace Scanner

/-- The scanner is at some place in the text. -/
def Placed (text : String) (sc : Scanner) : Prop :=
  ∃ j i, j ≤ i ∧ i ≤ text.toList.length ∧ sc = between text.toList j i

namespace Placed

variable {text : String} {sc : Scanner}

theorem shows (h : Placed text sc) : ∃ j i, Shows text j i sc := by
  obtain ⟨j, i, hj, hi, rfl⟩ := h
  exact ⟨j, i, shows_between hj hi⟩

theorem call (h : Placed text sc) (next : Call) : Placed text (sc.call next) := by
  obtain ⟨j, i, hj, hi, rfl⟩ := h
  exact exists_call_between hj hi next

theorem advance (h : Placed text sc) : Placed text sc.advance :=
  h.call .advance

end Placed

theorem placed_after (text : String) (calls : List Call) : Placed text (after text calls) :=
  exists_after_eq_between text calls

variable {text : String} {sc : Scanner}

theorem offset_advance (h : sc.atEnd = false) :
    sc.advance.offset = sc.offset + sc.current.utf8Size := by
  obtain ⟨c, rest, hrest⟩ := List.exists_cons_of_ne_nil (by simpa [atEnd] using h)
  simp [advance, current, hrest]

theorem start_advance (sc : Scanner) : sc.advance.start = sc.start := by
  unfold advance
  split <;> rfl

theorem rest_of_atEnd (h : sc.atEnd = true) : sc.rest = [] := by
  simpa [atEnd] using h

theorem advance_of_atEnd (h : sc.atEnd = true) : sc.advance = sc := by
  simp [advance, rest_of_atEnd h]

theorem current_of_atEnd (h : sc.atEnd = true) : sc.current = '\x00' := by
  simp [current, rest_of_atEnd h]

theorem next_of_atEnd (h : sc.atEnd = true) : sc.next = '\x00' := by
  simp [next, rest_of_atEnd h]

theorem current_advance (sc : Scanner) : sc.advance.current = sc.next := by
  simp [current, next]

end Scanner

namespace Reader

open Scanner

/-- The reader at the place of a scanner. -/
def ofScanner (text : String) (sc : Scanner) : Reader :=
  ⟨text, sc.start, sc.offset, sc.current⟩

variable {text : String} {sc : Scanner}

theorem charAt?_offset (h : Placed text sc) : Text.charAt? text sc.offset = some sc.current := by
  obtain ⟨j, i, hshows⟩ := h.shows
  have hvalid : String.Pos.Raw.isValid text ⟨sc.offset⟩ = true := by
    rw [String.Pos.Raw.isValid_eq_true_iff, hshows.offset]
    exact Text.isValid_of_toList_eq (List.take_append_drop i text.toList).symm
  rw [Text.charAt?, if_pos hvalid, hshows.decoded]

theorem offset_le (h : Placed text sc) : sc.offset ≤ text.utf8ByteSize := by
  obtain ⟨j, i, hshows⟩ := h.shows
  rw [hshows.offset, ← String.utf8Len_toList]
  exact String.utf8Len_le_of_sublist (List.take_sublist i _)

theorem atEnd_ofScanner (h : Placed text sc) : (ofScanner text sc).atEnd = sc.atEnd := by
  obtain ⟨j, i, hshows⟩ := h.shows
  rw [Bool.eq_iff_iff, hshows.endByte, atEnd, ofScanner, decide_eq_true_eq]
  exact ⟨Nat.le_antisymm (offset_le h), Nat.le_of_eq ∘ Eq.symm⟩

theorem current_ofScanner (h : Placed text sc) : (ofScanner text sc).current = sc.current := by
  rw [current, atEnd_ofScanner h]
  split
  · rename_i hend
    rw [current_of_atEnd hend]
  · rfl

theorem charAt?_next (h : Placed text sc) (hend : sc.atEnd = false) :
    Text.charAt? text (sc.offset + sc.current.utf8Size) = some sc.advance.current := by
  rw [← offset_advance hend]
  exact charAt?_offset h.advance

theorem next?_ofScanner (h : Placed text sc) : (ofScanner text sc).next? = some sc.next := by
  rw [next?, atEnd_ofScanner h]
  split
  · rename_i hend
    rw [next_of_atEnd hend]
  · rename_i hend
    rw [← current_advance]
    exact charAt?_next h (by simpa using hend)

theorem lexeme?_ofScanner (h : Placed text sc) : (ofScanner text sc).lexeme? = some sc.text := by
  obtain ⟨j, i, hshows⟩ := h.shows
  exact hshows.slice

theorem atLineStart?_ofScanner (h : Placed text sc) :
    (ofScanner text sc).atLineStart? = some sc.atLineStart := by
  obtain ⟨j, i, hshows⟩ := h.shows
  have hline := hshows.lineByte
  unfold atLineStart? ofScanner
  by_cases hzero : sc.offset = 0
  · simp [hzero, hline.mpr (.inl hzero)]
  · have hlt : sc.offset - 1 < text.toByteArray.size := by
      have hle : sc.offset ≤ text.toByteArray.size := offset_le h
      omega
    have hbyte := getElem?_pos text.toByteArray (sc.offset - 1) hlt
    rw [if_neg hzero, hbyte, Option.map_some, Option.some_inj, Bool.eq_iff_iff, hline, hbyte]
    simp [hzero, Text.isLineByte]

theorem advance?_ofScanner (h : Placed text sc) :
    (ofScanner text sc).advance? = some (ofScanner text sc.advance) := by
  rw [advance?, atEnd_ofScanner h]
  split
  · rename_i hend
    rw [advance_of_atEnd hend]
  · rename_i hend
    have hend : sc.atEnd = false := by simpa using hend
    have hnext := charAt?_next h hend
    simp [ofScanner, hnext, offset_advance hend, start_advance]

theorem takeWhileFrom?_ofScanner (p : Char → Bool) (count : Nat) (h : Placed text sc) :
    (ofScanner text sc).takeWhileFrom? p count =
      let r := sc.munch (fun n c => if p c then some (n + 1) else none) count
      some (r.1, ofScanner text r.2) := by
  generalize hcs : sc.rest = cs
  induction cs generalizing sc count with
  | nil =>
    have hend : sc.atEnd = true := by simp [Scanner.atEnd, hcs]
    rw [munch_of_rest_nil _ _ hcs, takeWhileFrom?_eq, if_neg (by simp [atEnd_ofScanner h, hend])]
  | cons c cs ih =>
    have hend : sc.atEnd = false := by simp [Scanner.atEnd, hcs]
    have hcurrent : sc.current = c := by simp [Scanner.current, hcs]
    rw [munch_of_rest_cons _ _ hcs, takeWhileFrom?_eq, atEnd_ofScanner h, current_ofScanner h, hend,
      hcurrent, advance?_ofScanner h, Option.bind_some, ih (count + 1) h.advance (by simp [hcs])]
    cases hp : p c with
    | false => simp
    | true => simp

theorem takeWhile?_ofScanner (p : Char → Bool) (h : Placed text sc) :
    (ofScanner text sc).takeWhile? p =
      some ((sc.takeWhile p).1, ofScanner text (sc.takeWhile p).2) :=
  takeWhileFrom?_ofScanner p 0 h

/-! ### Runs -/

def call? (r : Reader) : Call → Option Reader
  | .advance => r.advance?
  | .mark => some r.mark
  | .takeWhile p => (r.takeWhile? p).map (·.2)
  | .takeRun c => (r.takeRun? c).map (·.2)

/-- The reader over the text after a run of calls. -/
def after? (text : String) (calls : List Call) : Option Reader :=
  calls.foldlM call? (ofText text)

theorem call?_ofScanner (h : Placed text sc) (next : Call) :
    (ofScanner text sc).call? next = some (ofScanner text (sc.call next)) := by
  cases next with
  | advance => exact advance?_ofScanner h
  | mark => rfl
  | takeWhile p => rw [call?, takeWhile?_ofScanner p h]; rfl
  | takeRun c => rw [call?, takeRun?, takeWhile?_ofScanner _ h]; rfl

/-- What the reader shows is what the scanner shows, and so are the answers to its calls. -/
structure Mirrors (text : String) (r : Reader) (sc : Scanner) : Prop where
  start : r.start = sc.start
  offset : r.offset = sc.offset
  atEnd : r.atEnd = sc.atEnd
  current : r.current = sc.current
  next : r.next? = some sc.next
  span : r.span = sc.span
  lexeme : r.lexeme? = some sc.text
  atLineStart : r.atLineStart? = some sc.atLineStart
  takeWhile : ∀ p, (r.takeWhile? p).map (·.1) = some (sc.takeWhile p).1

theorem mirrors_ofScanner (h : Placed text sc) : Mirrors text (ofScanner text sc) sc where
  start := rfl
  offset := rfl
  atEnd := atEnd_ofScanner h
  current := current_ofScanner h
  next := next?_ofScanner h
  span := rfl
  lexeme := lexeme?_ofScanner h
  atLineStart := atLineStart?_ofScanner h
  takeWhile p := by rw [takeWhile?_ofScanner p h]; rfl

/-- On every run of calls the reader goes in step with the scanner. -/
theorem after?_eq_ofScanner (text : String) (calls : List Call) :
    after? text calls = some (ofScanner text (after text calls)) := by
  induction calls using List.reverseRecOn with
  | nil => rfl
  | append_singleton calls next ih =>
    have hafter : after text (calls ++ [next]) = (after text calls).call next :=
      List.foldl_concat ..
    rw [after?, List.foldlM_append, ← after?, ih, hafter]
    simp [call?_ofScanner (placed_after text calls)]

/-- After any run of calls the reader of bytes shows what the scanner of characters shows. -/
theorem exists_mirrors (text : String) (calls : List Call) :
    ∃ r, after? text calls = some r ∧ Mirrors text r (after text calls) :=
  ⟨_, after?_eq_ofScanner text calls, mirrors_ofScanner (placed_after text calls)⟩

end Reader

end LuaFold
