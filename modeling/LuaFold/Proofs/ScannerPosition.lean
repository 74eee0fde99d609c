import LuaFold.Proofs.Munch
import LuaFold.Proofs.Slices

/-! The scanner as a position in the text. Whatever its client calls, the scanner is given by two
numbers: how many characters are read, and how many of them stand before its mark. What it shows,
its offsets, its lexeme, the next characters and the start of a line, is what the text has there,
whether that is taken by characters or by bytes. -/

namespace LuaFold

namespace Text

variable {text : String} {before after : List Char} {c : Char}

theorem ofNat_eq_lineByte_iff {n : Nat} (hn : n < 256) :
    UInt8.ofNat n = 10 ∨ UInt8.ofNat n = 13 ↔ n = 10 ∨ n = 13 := by
  rw [← UInt8.toNat_inj, ← UInt8.toNat_inj, UInt8.toNat_ofNat_of_lt' hn]
  rfl

/-- The last byte of a character tells whether it is a line break. -/
theorem exists_getLast?_utf8EncodeChar (c : Char) :
    ∃ b, (String.utf8EncodeChar c).getLast? = some b ∧
      (b = 10 ∨ b = 13 ↔ isLineBreak c = true) := by
  have hcode : isLineBreak c = true ↔ c.val.toNat = 10 ∨ c.val.toNat = 13 := by
    rw [isLineBreak_iff, ← Char.toNat_inj, ← Char.toNat_inj]
    rfl
  rw [String.utf8EncodeChar, hcode]
  split_ifs with hone
  · exact ⟨_, rfl, ofNat_eq_lineByte_iff (by omega)⟩
  -- the other forms end in a byte that goes on with the character
  all_goals exact ⟨_, rfl, (ofNat_eq_lineByte_iff (by omega)).trans (by omega)⟩

theorem length_flatMap_utf8EncodeChar (cs : List Char) :
    (cs.flatMap String.utf8EncodeChar).length = String.utf8Len cs := by
  induction cs with
  | nil => rfl
  | cons c cs ih =>
    rw [List.flatMap_cons, List.length_append, ih, String.length_utf8EncodeChar,
      String.utf8Len_cons, Nat.add_comm]

/-- The byte before a cut is the last one of the character before it. -/
theorem getElem?_toByteArray_of_toList_eq (h : text.toList = before ++ c :: after) :
    text.toByteArray[String.utf8Len (before ++ [c]) - 1]? = (String.utf8EncodeChar c).getLast? := by
  have hbytes : text.toByteArray.data.toList =
      before.flatMap String.utf8EncodeChar ++
        (String.utf8EncodeChar c ++ after.flatMap String.utf8EncodeChar) := by
    rw [← String.ofList_toList (s := text), String.toByteArray_ofList, List.utf8Encode,
      List.data_toByteArray, h, List.flatMap_append, List.flatMap_cons]
  have hpos := c.utf8Size_pos
  have hindex : String.utf8Len (before ++ [c]) - 1 =
      (before.flatMap String.utf8EncodeChar).length + (c.utf8Size - 1) := by
    rw [length_flatMap_utf8EncodeChar, String.utf8Len_append, String.utf8Len_cons,
      String.utf8Len_nil]
    omega
  have hdata : text.toByteArray[String.utf8Len (before ++ [c]) - 1]? =
      text.toByteArray.data.toList[String.utf8Len (before ++ [c]) - 1]? := by
    rw [Array.getElem?_toList]
    rfl
  rw [hdata, hbytes, hindex, List.getElem?_append_right (Nat.le_add_right _ _),
    Nat.add_sub_cancel_left,
    List.getElem?_append_left (by rw [String.length_utf8EncodeChar]; omega),
    List.getLast?_eq_getElem?, String.length_utf8EncodeChar]

/-- The byte before a cut tells whether the character before it is a line break. -/
theorem exists_byte_before {i : Nat} (hi : i < text.toList.length) :
    ∃ b, text.toByteArray[String.utf8Len (text.toList.take (i + 1)) - 1]? = some b ∧
      (b = 10 ∨ b = 13 ↔ isLineBreak text.toList[i] = true) := by
  have hsplit : text.toList =
      text.toList.take i ++ text.toList[i] :: text.toList.drop (i + 1) := by
    rw [← List.drop_eq_getElem_cons hi, List.take_append_drop]
  obtain ⟨b, hb, hbreak⟩ := exists_getLast?_utf8EncodeChar text.toList[i]
  refine ⟨b, ?_, hbreak⟩
  rw [List.take_succ_eq_append_getElem hi, getElem?_toByteArray_of_toList_eq hsplit, hb]

end Text

namespace Scanner

/-- What a client of the scanner may call. -/
inductive Call
  | advance
  | mark
  | takeWhile (p : Char → Bool)
  | takeRun (c : Char)

/-- The scanner after a call. -/
def call (sc : Scanner) : Call → Scanner
  | .advance => sc.advance
  | .mark => sc.mark
  | .takeWhile p => (sc.takeWhile p).2
  | .takeRun c => (sc.takeRun c).2

/-- The scanner over the text after a run of calls. -/
def after (text : String) (calls : List Call) : Scanner :=
  calls.foldl call (ofString text)

/-- The scanner shows the place in the text after the first `i` characters, with the mark after the
first `j`. -/
structure Shows (text : String) (j i : Nat) (sc : Scanner) : Prop where
  mark_le : j ≤ i
  le_length : i ≤ text.toList.length
  start : sc.start = String.utf8Len (text.toList.take j)
  offset : sc.offset = String.utf8Len (text.toList.take i)
  current : sc.current = text.toList[i]?.getD '\x00'
  next : sc.next = text.toList[i + 1]?.getD '\x00'
  atEnd : sc.atEnd = true ↔ i = text.toList.length
  /-- The offset is the length of the text in bytes at the end, and only there. -/
  endByte : sc.atEnd = true ↔ sc.offset = text.utf8ByteSize
  lexeme : sc.text = String.ofList ((text.toList.take i).drop j)
  span : sc.span = ⟨sc.start, String.utf8Len ((text.toList.take i).drop j)⟩
  slice : Text.slice? text sc.span = some sc.text
  lineStart : sc.atLineStart = true ↔
    i = 0 ∨ ∃ c ∈ text.toList[i - 1]?, Text.isLineBreak c = true
  /-- The character that comes next is the one at the byte offset. -/
  decoded : (String.Pos.Raw.get? text ⟨sc.offset⟩).getD '\x00' = sc.current
  /-- The byte before the offset tells whether a line starts there. -/
  lineByte : sc.atLineStart = true ↔
    sc.offset = 0 ∨ ∃ b ∈ text.toByteArray[sc.offset - 1]?, b = 10 ∨ b = 13

/-- From the place `i` on, `k` is the first one where no character that `p` accepts comes next. -/
structure StopsAt (cs : List Char) (p : Char → Bool) (i k : Nat) : Prop where
  le : i ≤ k
  accepts : ∀ m, i ≤ m → m < k → ∃ c ∈ cs[m]?, p c = true
  stops : k = cs.length ∨ ∃ c ∈ cs[k]?, p c = false

/-- The scanner over `cs` that has read `i` characters, `j` of them before its mark. -/
def between (cs : List Char) (j i : Nat) : Scanner :=
  { start := String.utf8Len (cs.take j)
    offset := String.utf8Len (cs.take i)
    previous := (cs.take i).getLast?
    lexeme := ((cs.take i).drop j).reverse
    rest := cs.drop i }

variable {cs taken rest : List Char} {j i : Nat}

/-! ### Calls -/

theorem ofChars_eq_between (cs : List Char) : ofChars cs = between cs 0 0 := rfl

theorem mark_between (cs : List Char) (j i : Nat) : (between cs j i).mark = between cs i i := by
  simp [between, mark]

theorem past_between (hj : j ≤ i) (hi : i ≤ cs.length) (hrest : cs.drop i = taken ++ rest) :
    (between cs j i).past taken rest = between cs j (i + taken.length) := by
  have htake : cs.take (i + taken.length) = cs.take i ++ taken := by
    rw [List.take_add, hrest, List.take_left]
  have hdrop : cs.drop (i + taken.length) = rest := by
    rw [← List.drop_drop, hrest, List.drop_left]
  have hlexeme : (cs.take i ++ taken).drop j = (cs.take i).drop j ++ taken := by
    refine List.drop_append_of_le_length ?_
    rw [List.length_take]
    omega
  simp only [between, past, htake, hdrop, hlexeme, String.utf8Len_append, List.getLast?_append,
    List.reverse_append]

theorem advance_between (hj : j ≤ i) (hi : i ≤ cs.length) :
    (between cs j i).advance = between cs j (min (i + 1) cs.length) := by
  by_cases hend : i = cs.length
  · subst hend
    rw [Nat.min_eq_right (Nat.le_succ _)]
    simp [between, advance]
  · have hlt : i < cs.length := by omega
    have hrest : cs.drop i = [cs[i]] ++ cs.drop (i + 1) := List.drop_eq_getElem_cons hlt
    rw [Nat.min_eq_left hlt]
    calc
      (between cs j i).advance = (between cs j i).advance.past [] (cs.drop (i + 1)) := by
        have hadvance : (between cs j i).advance.rest = cs.drop (i + 1) := by
          simp [between, List.tail_drop]
        rw [← hadvance, past_nil]
      _ = (between cs j i).past [cs[i]] (cs.drop (i + 1)) := advance_past hrest
      _ = between cs j (i + 1) := past_between hj hi hrest

theorem foldlM_count {p : Char → Bool} (n : Nat) (h : ∀ c ∈ taken, p c = true) :
    taken.foldlM (fun n c => if p c then some (n + 1) else none) n = some (n + taken.length) := by
  induction taken generalizing n with
  | nil => rfl
  | cons c taken ih =>
    rw [List.forall_mem_cons] at h
    rw [List.foldlM_cons, if_pos h.1, Option.bind_eq_bind, Option.bind_some, ih (n + 1) h.2,
      List.length_cons, Nat.add_right_comm, Nat.add_assoc]

theorem mem_takeWhile {p : Char → Bool} {c : Char} (hc : c ∈ cs.takeWhile p) : p c = true :=
  List.all_eq_true.mp List.all_takeWhile c hc

theorem mem_head?_dropWhile {p : Char → Bool} {c : Char} (hc : c ∈ (cs.dropWhile p).head?) :
    p c = false := by
  have hstop := List.head?_dropWhile_not p cs
  rw [Option.mem_def.mp hc] at hstop
  simpa using hstop

theorem takeWhile_eq_past (p : Char → Bool) (sc : Scanner) :
    sc.takeWhile p =
      ((sc.rest.takeWhile p).length, sc.past (sc.rest.takeWhile p) (sc.rest.dropWhile p)) := by
  have htaken : ∀ c ∈ sc.rest.takeWhile p, p c = true := fun _ => mem_takeWhile
  refine munch_eq_past List.takeWhile_append_dropWhile.symm ⟨?_, fun c hc => ?_⟩
  · have haccepts := foldlM_count 0 htaken
    rwa [Nat.zero_add] at haccepts
  · simp [mem_head?_dropWhile hc]

/-- After a split of what comes next, the first place where it stops is between the two parts. -/
theorem stopsAt_of_split {p : Char → Bool} (hi : i ≤ cs.length) (hrest : cs.drop i = taken ++ rest)
    (htaken : ∀ c ∈ taken, p c = true) (hstop : ∀ c ∈ rest.head?, p c = false) :
    StopsAt cs p i (i + taken.length) := by
  refine ⟨Nat.le_add_right _ _, fun m hm hlt => ?_, ?_⟩
  · have hlt' : m - i < taken.length := by omega
    refine ⟨taken[m - i], ?_, htaken _ (List.getElem_mem hlt')⟩
    have hget : (cs.drop i)[m - i]? = cs[i + (m - i)]? := List.getElem?_drop
    rw [Nat.add_sub_cancel' hm, hrest, List.getElem?_append_left hlt',
      List.getElem?_eq_getElem hlt'] at hget
    exact hget.symm
  · have hget : (cs.drop i)[taken.length]? = cs[i + taken.length]? := List.getElem?_drop
    rw [hrest, List.getElem?_append_right (Nat.le_refl _), Nat.sub_self, ← List.head?_eq_getElem?]
      at hget
    cases rest with
    | nil =>
      have hlength := congrArg List.length hrest
      rw [List.length_drop, List.append_nil] at hlength
      exact .inl (by omega)
    | cons c rest => exact .inr ⟨c, hget.symm, hstop c rfl⟩

theorem exists_takeWhile_between (p : Char → Bool) (hj : j ≤ i) (hi : i ≤ cs.length) :
    ∃ k, StopsAt cs p i k ∧ (between cs j i).takeWhile p = (k - i, between cs j k) := by
  have hrest : cs.drop i = (cs.drop i).takeWhile p ++ (cs.drop i).dropWhile p :=
    List.takeWhile_append_dropWhile.symm
  refine ⟨_, stopsAt_of_split hi hrest (fun _ => mem_takeWhile) (fun _ => mem_head?_dropWhile), ?_⟩
  rw [takeWhile_eq_past, Nat.add_sub_cancel_left, ← past_between hj hi hrest]
  rfl

theorem StopsAt.le_length {p : Char → Bool} {k : Nat} (h : StopsAt cs p i k) : k ≤ cs.length := by
  rcases h.stops with rfl | ⟨c, hc, -⟩
  · exact Nat.le_refl _
  · exact Nat.le_of_lt (List.getElem?_eq_some_iff.mp hc).1

/-- One call keeps the scanner at a place in the text. -/
theorem exists_call_between (hj : j ≤ i) (hi : i ≤ cs.length) (next : Call) :
    ∃ j' i', j' ≤ i' ∧ i' ≤ cs.length ∧ (between cs j i).call next = between cs j' i' := by
  have htake : ∀ p, ∃ k, j ≤ k ∧ k ≤ cs.length ∧
      ((between cs j i).takeWhile p).2 = between cs j k := by
    intro p
    obtain ⟨k, hk, htake⟩ := exists_takeWhile_between p hj hi
    exact ⟨k, Nat.le_trans hj hk.le, hk.le_length, by rw [htake]⟩
  cases next with
  | advance => exact ⟨j, _, by omega, Nat.min_le_right _ _, advance_between hj hi⟩
  | mark => exact ⟨i, i, Nat.le_refl i, hi, mark_between cs j i⟩
  | takeWhile p => exact ⟨j, htake p⟩
  | takeRun c => exact ⟨j, htake (· == c)⟩

/-- A run of calls keeps the scanner at a place in the text. -/
theorem exists_after_eq_between (text : String) (calls : List Call) :
    ∃ j i, j ≤ i ∧ i ≤ text.toList.length ∧ after text calls = between text.toList j i := by
  induction calls using List.reverseRecOn with
  | nil => exact ⟨0, 0, Nat.le_refl 0, Nat.zero_le _, ofChars_eq_between text.toList⟩
  | append_singleton calls next ih =>
    obtain ⟨j, i, hj, hi, hafter⟩ := ih
    obtain ⟨j', i', hj', hi', hcall⟩ := exists_call_between hj hi next
    refine ⟨j', i', hj', hi', ?_⟩
    rw [after, List.foldl_concat, ← after, hafter, hcall]

/-! ### What the scanner shows -/

theorem lexeme_between (cs : List Char) (j i : Nat) :
    (between cs j i).text = String.ofList ((cs.take i).drop j) := by
  rw [text, between, List.reverse_reverse]

/-- The text up to the place is what stands before the mark and the lexeme after it. -/
theorem take_append_lexeme (cs : List Char) (hj : j ≤ i) :
    cs.take i = cs.take j ++ (cs.take i).drop j := by
  have hsplit := List.take_append_drop j (cs.take i)
  rw [List.take_take, Nat.min_eq_left hj] at hsplit
  exact hsplit.symm

theorem span_between (cs : List Char) (hj : j ≤ i) :
    (between cs j i).span = ⟨String.utf8Len (cs.take j), String.utf8Len ((cs.take i).drop j)⟩ := by
  have hoffset := congrArg String.utf8Len (take_append_lexeme cs hj)
  rw [String.utf8Len_append] at hoffset
  rw [span, Span.ofOffsets, between, hoffset, Nat.add_sub_cancel_left]

theorem atLineStart_between_succ {c : Char} (hc : cs[i]? = some c) :
    (between cs j (i + 1)).atLineStart = Text.isLineBreak c := by
  obtain ⟨hi, rfl⟩ := List.getElem?_eq_some_iff.mp hc
  have hprevious : (between cs j (i + 1)).previous = some cs[i] := by
    rw [between, List.take_add_one, List.getElem?_eq_getElem hi, Option.toList_some,
      List.getLast?_concat]
  rw [atLineStart, hprevious, Option.all_some]

theorem shows_between {text : String} (hj : j ≤ i) (hi : i ≤ text.toList.length) :
    Shows text j i (between text.toList j i) where
  mark_le := hj
  le_length := hi
  start := rfl
  offset := rfl
  current := by rw [current, between, List.headD_eq_head?_getD, List.head?_drop]
  next := by rw [next, between, List.tail_drop, List.headD_eq_head?_getD, List.head?_drop]
  atEnd := by
    rw [atEnd, between, List.isEmpty_iff, List.drop_eq_nil_iff]
    exact ⟨fun h => Nat.le_antisymm hi h, fun h => Nat.le_of_eq h.symm⟩
  endByte := by
    have hsize := congrArg String.utf8Len (List.take_append_drop i text.toList)
    rw [String.utf8Len_append, String.utf8Len_toList] at hsize
    rw [atEnd, between, List.isEmpty_iff, ← String.utf8Len_eq_zero]
    simp only
    omega
  lexeme := lexeme_between text.toList j i
  span := span_between text.toList hj
  slice := by
    have hsplit : text.toList = text.toList.take j ++
        ((text.toList.take i).drop j ++ text.toList.drop i) := by
      rw [← List.append_assoc, ← take_append_lexeme text.toList hj, List.take_append_drop]
    rw [span_between _ hj, lexeme_between]
    exact Text.slice?_of_toList_eq hsplit
  lineStart := by
    cases i with
    | zero => simp [between, atLineStart]
    | succ i =>
      have hc := List.getElem?_eq_getElem (show i < text.toList.length from hi)
      rw [atLineStart_between_succ hc, Nat.add_sub_cancel, hc]
      simp
  decoded := by
    have hget := String.get?_of_valid (text.toList.take i) (text.toList.drop i)
    rw [List.take_append_drop, String.ofList_toList] at hget
    rw [between, current, hget, List.headD_eq_head?_getD]
  lineByte := by
    cases i with
    | zero => simp [between, atLineStart]
    | succ i =>
      obtain ⟨b, hb, hbreak⟩ := Text.exists_byte_before hi
      have hoffset : String.utf8Len (text.toList.take (i + 1)) ≠ 0 := by
        rw [Ne, String.utf8Len_eq_zero, List.take_succ_eq_append_getElem hi]
        exact List.concat_ne_nil _ _
      rw [atLineStart_between_succ (List.getElem?_eq_getElem hi)]
      simp [between, hoffset, hb, hbreak]

/-- After any run of calls the scanner is at a place in the text, and shows what the text has there.
The next call leads on from that place: over one character, if one is left; to the same place, with
the mark there; or to the first place where no character comes next that is accepted, with the
number of those read. -/
theorem exists_shows (text : String) (calls : List Call) :
    ∃ j i, Shows text j i (after text calls) ∧
      Shows text j (min (i + 1) text.toList.length) (after text calls).advance ∧
      Shows text i i (after text calls).mark ∧
      (∀ p, ∃ k, StopsAt text.toList p i k ∧ ((after text calls).takeWhile p).1 = k - i ∧
        Shows text j k ((after text calls).takeWhile p).2) ∧
      ∀ c, ∃ k, StopsAt text.toList (· == c) i k ∧ ((after text calls).takeRun c).1 = k - i ∧
        Shows text j k ((after text calls).takeRun c).2 := by
  obtain ⟨j, i, hj, hi, hafter⟩ := exists_after_eq_between text calls
  rw [hafter]
  have htake : ∀ p, ∃ k, StopsAt text.toList p i k ∧
      ((between text.toList j i).takeWhile p).1 = k - i ∧
      Shows text j k ((between text.toList j i).takeWhile p).2 := by
    intro p
    obtain ⟨k, hk, htake⟩ := exists_takeWhile_between p hj hi
    rw [htake]
    exact ⟨k, hk, rfl, shows_between (Nat.le_trans hj hk.le) hk.le_length⟩
  refine ⟨j, i, shows_between hj hi, ?_, ?_, htake, fun c => htake (· == c)⟩
  · rw [advance_between hj hi]
    exact shows_between (by omega) (Nat.min_le_right _ _)
  · rw [mark_between]
    exact shows_between (Nat.le_refl i) hi

end Scanner

end LuaFold
