import LuaFold.Proofs.FoldOutcome
import LuaFold.Proofs.Lexemes
import LuaFold.Proofs.OutlineRun

/-! The shape of the outline of any text, well-formed or not: its blocks are bodies that stand one
after another, and only the last one can lack its end, which the log then reports. -/

namespace LuaFold

/-- The kinds of the tokens that a body starts after. -/
def bodyOpeners : List TokenKind :=
  [.kwDo, .kwThen, .kwElse, .kwRepeat, .rightParen]

theorem Header.mem_bodyOpeners_of_step {header : Header} {kind : TokenKind}
    (h : (header.step kind).2 = true) : kind ∈ bodyOpeners := by
  have hword (hkind : isBodyWord kind = true) : kind ∈ bodyOpeners := by
    simp only [isBodyWord, Bool.or_eq_true, beq_iff_eq] at hkind
    rcases hkind with ((rfl | rfl) | rfl) | rfl <;> decide
  unfold step at h
  split at h
  · cases h
  cases header with
  | outside => exact hword h
  | named =>
    simp only at h
    split at h
    · cases h
    split at h
    · rename_i hkind
      exact hword hkind
    · split at h <;> cases h
  | params =>
    simp only at h
    split at h
    · rename_i hkind
      rw [hkind]
      decide
    · cases h

theorem exists_ofOpener?_of_mem_bodyOpeners {kind : TokenKind} (h : kind ∈ bodyOpeners) :
    ∃ construct, Construct.ofOpener? (bodyOpener kind) 0 = some construct := by
  simp only [bodyOpeners, List.mem_cons, List.not_mem_nil, or_false] at h
  rcases h with rfl | rfl | rfl | rfl | rfl <;> exact ⟨_, rfl⟩

/-! ### Bodies -/

namespace TokenStream

/-- The node is the block of a body: it starts after the token `opener`, and it ends before a token
that ends the construct of the opener, or at the end of the tokens. -/
structure IsBodyAfter (s : TokenStream) (opener : Token) (n : Node) : Prop where
  kind : n.kind = .block
  collapsed : n.collapsed = true
  start_pos : 0 < n.tokenStart
  before : s.tokens[n.tokenStart - 1]? = some opener
  opens : opener.kind ∈ bodyOpeners
  start_le_end : n.tokenStart ≤ n.tokenEnd
  terminator : n.tokenEnd = s.tokens.size ∨ ∃ construct t,
    Construct.ofOpener? (bodyOpener opener.kind) 0 = some construct ∧
      s.tokens[n.tokenEnd]? = some t ∧ t.kind ∈ construct.closers
  span_start : n.span.start = opener.span.stop
  span_stop : n.span.stop = s.offsetAt n.tokenEnd

/-- The token before a body opens a construct, so the fold of a body is never refused. -/
theorem FoldOutcome.matched_or_unterminated {s : TokenStream} {kind : TokenKind} {p q : Place}
    {result : SearchResult} (hopens : kind ∈ bodyOpeners)
    (h : s.FoldOutcome (bodyOpener kind) p q result) :
    (result = .ok () ∧ ∃ construct t, Construct.ofOpener? (bodyOpener kind) 0 = some construct ∧
        s.tokens[q.index]? = some t ∧ t.kind ∈ construct.closers) ∨
      result = .error (.unterminated (bodyOpener kind)) ∧ q.index = s.tokens.size := by
  cases h with
  | matched hconstruct hcurrent hcloses => exact .inl ⟨rfl, _, _, hconstruct, hcurrent, hcloses⟩
  | unterminated _ hindex _ => exact .inr ⟨rfl, hindex⟩
  | refused hrefused _ =>
    obtain ⟨construct, hconstruct⟩ := exists_ofOpener?_of_mem_bodyOpeners hopens
    rw [hconstruct] at hrefused
    cases hrefused

theorem isBodyAfter_foldedBlock {s : TokenStream} (htiled : s.Tiled) {i : Nat} {opener : Token}
    {p q : Place} {result : SearchResult} (hopener : s.tokens[i]? = some opener)
    (hopens : opener.kind ∈ bodyOpeners) (hle : i + 1 ≤ q.index)
    (hout : s.FoldOutcome (bodyOpener opener.kind) p q result) :
    s.IsBodyAfter opener (s.foldedBlock (i + 1) q.index) := by
  obtain ⟨hstart, hstop⟩ := htiled.span_foldedBlock hopener hle
  refine ⟨rfl, rfl, Nat.succ_pos i, hopener, hopens, hle, ?_, hstart, hstop⟩
  rcases hout.matched_or_unterminated hopens with ⟨-, hmatched⟩ | ⟨-, hindex⟩
  · exact .inr hmatched
  · exact .inl hindex

end TokenStream

/-! ### Reports -/

/-- The failure that an event reports, if it does. -/
def LogEvent.failure? : LogEvent → Option SearchError
  | finished _ => none
  | partialBody e => some e

/-- The failure of a search, if it failed. -/
def SearchResult.failures : SearchResult → List SearchError
  | .ok () => []
  | .error e => [e]

namespace Cursor

/-- The failures that the log reports. -/
def failures (c : Cursor) : List SearchError :=
  c.log.toList.filterMap LogEvent.failure?

theorem failures_reportFailure (c : Cursor) (result : SearchResult) :
    (c.reportFailure result).failures = c.failures ++ SearchResult.failures result := by
  cases result with
  | ok _ => exact (List.append_nil _).symm
  | error e => simp [reportFailure, failures, LogEvent.failure?, SearchResult.failures]

theorem failures_finish (c : Cursor) (m : Marker) (kind : NodeKind) (collapsed : Bool) :
    (c.finish m kind collapsed).failures = c.failures := by
  simp [finish, release, failures, LogEvent.failure?]

theorem failures_foldBody {c : Cursor} (hc : c.stream.IsPlace c.place) {i : Nat}
    (hi : c.place.consumed = i + 1) {t : Token} (ht : c.stream.tokens[i]? = some t) :
    c.foldBody.2.failures = c.failures ++
      SearchResult.failures (c.stream.seekBlockEnd 0 (bodyOpener t.kind) true c.place).1 := by
  simp only [foldBody, hc.kindBefore?_of_consumed_eq_succ hi ht]
  rw [failures_finish, failures_reportFailure]
  rfl

end Cursor

/-! ### The run -/

/-- The failures reported for blocks that are in order: none if all blocks end before `size`, one if
the last one ends there. -/
inductive Reported (size : Nat) : List Node → List SearchError → Prop
  | complete {blocks : List Node} (ends : ∀ n ∈ blocks, n.tokenEnd < size) : Reported size blocks []
  | cutOff {blocks : List Node} {last : Node} {opener : TokenKind}
    (ends : ∀ n ∈ blocks, n.tokenEnd < size) (last_end : last.tokenEnd = size) :
    Reported size (blocks ++ [last]) [.unterminated opener]

namespace Reported

variable {size : Nat} {blocks : List Node} {failures : List SearchError}

theorem failures_eq_nil (h : Reported size blocks failures)
    (hends : ∀ n ∈ blocks, n.tokenEnd < size) : failures = [] := by
  cases h with
  | complete _ => rfl
  | @cutOff blocks last _ _ hlast =>
    have hlt := hends last (by simp)
    omega

theorem concat {s : TokenStream} {p q : Place} {kind : TokenKind} {result : SearchResult}
    {n : Node} (hends : ∀ n ∈ blocks, n.tokenEnd < s.tokens.size) (hn : n.tokenEnd = q.index)
    (hopens : kind ∈ bodyOpeners) (hout : s.FoldOutcome (bodyOpener kind) p q result) :
    Reported s.tokens.size (blocks ++ [n]) (SearchResult.failures result) := by
  rcases hout.matched_or_unterminated hopens with ⟨rfl, _, t, _, hcurrent, _⟩ | ⟨rfl, hindex⟩
  · refine .complete fun m hm => ?_
    rcases List.mem_append.mp hm with hm | hm
    · exact hends m hm
    · rw [List.mem_singleton.mp hm, hn]
      exact (Array.getElem?_eq_some_iff.mp hcurrent).1
  · exact .cutOff hends (hn.trans hindex)

theorem lt_of_mem_dropLast (h : Reported size blocks failures) :
    ∀ n ∈ blocks.dropLast, n.tokenEnd < size := by
  cases h with
  | complete hends => exact fun n hn => hends n ((List.dropLast_sublist _).subset hn)
  | cutOff hends _ =>
    rw [List.dropLast_concat]
    exact hends

/-- A failure is reported exactly when the last block ends at the end. -/
theorem failures_ne_nil_iff (h : Reported size blocks failures) :
    failures ≠ [] ↔ ∃ n, blocks.getLast? = some n ∧ n.tokenEnd = size := by
  cases h with
  | complete hends =>
    refine ⟨fun h => absurd rfl h, ?_⟩
    rintro ⟨n, hn, hsize⟩
    have hlt := hends n (List.mem_of_getLast? hn)
    omega
  | @cutOff blocks last opener _ hlast =>
    exact ⟨fun _ => ⟨last, List.getLast?_concat, hlast⟩, fun _ => List.cons_ne_nil _ _⟩

theorem length_failures_le (h : Reported size blocks failures) : failures.length ≤ 1 := by
  cases h <;> simp

theorem eq_unterminated (h : Reported size blocks failures) :
    ∀ e ∈ failures, ∃ opener, e = .unterminated opener := by
  cases h with
  | complete _ => exact List.forall_mem_nil _
  | cutOff _ _ => exact fun e he => ⟨_, List.mem_singleton.mp he⟩

end Reported

/-- The shape of an outline of `s` that has come to the cursor `c`. -/
structure OutlineShape (s : TokenStream) (c : Cursor) : Prop extends Outlining s c where
  bodies : ∀ n ∈ c.nodes, ∃ opener, s.IsBodyAfter opener n
  ordered : c.nodes.toList.Pairwise fun m n => m.tokenEnd < n.tokenStart
  passed : ∀ n ∈ c.nodes, n.tokenEnd ≤ c.place.index
  reported : Reported s.tokens.size c.nodes.toList c.failures

namespace OutlineShape

variable {s : TokenStream} {c : Cursor}

theorem ofStream (s : TokenStream) : OutlineShape s (.ofStream s) :=
  ⟨.ofStream s, fun _ hn => absurd hn (Array.not_mem_empty _), .nil,
    fun _ hn => absurd hn (Array.not_mem_empty _), .complete (List.forall_mem_nil _)⟩

/-- As long as a token is left, no block has come to the end and nothing is reported. -/
theorem of_not_atEnd (h : OutlineShape s c) (hend : c.atEnd = false) :
    c.failures = [] ∧ ∀ n ∈ c.nodes.toList, n.tokenEnd < s.tokens.size := by
  have hlt : c.place.index < s.tokens.size := h.stream ▸ TokenStream.index_lt_size hend
  have hends : ∀ n ∈ c.nodes.toList, n.tokenEnd < s.tokens.size := by
    intro n hn
    exact Nat.lt_of_le_of_lt (h.passed n (Array.mem_toList_iff.mp hn)) hlt
  exact ⟨h.reported.failures_eq_nil hends, hends⟩

theorem advance (h : OutlineShape s c) : OutlineShape s c.advance := by
  refine ⟨h.toOutlining.advance, h.bodies, h.ordered, ?_, h.reported⟩
  intro n hn
  exact Nat.le_trans (h.passed n hn) (c.stream.index_le_advance c.place)

theorem foldBody_advance (htiled : s.Tiled) (h : OutlineShape s c) (hend : c.atEnd = false)
    (hopens : c.current ∈ bodyOpeners) : OutlineShape s c.advance.foldBody.2 := by
  -- the new block is the first that can come to the end
  obtain ⟨hfailures, hends⟩ := h.of_not_atEnd hend
  have hout := h.toOutlining.foldBody_advance htiled hend
  obtain rfl : c.stream = s := h.stream
  obtain ⟨t, ht, hkind, hconsumed⟩ := Cursor.exists_consumed_advance hend
  rw [hkind] at hopens
  have hstart : c.advance.stream.IsPlace c.advance.place := h.place.advance
  have hstop := Cursor.place_foldBody hstart hconsumed ht
  have houtcome := hstart.foldOutcome (bodyOpener t.kind)
  have hnodes := Cursor.nodes_foldBody (c := c.advance) htiled hstart hconsumed ht
  have hreports := Cursor.failures_foldBody hstart hconsumed ht
  rw [← hstop] at houtcome
  have hlt := Cursor.index_lt_foldBody_advance hend
  refine ⟨hout, ?_, ?_, ?_, ?_⟩
  · rw [hnodes]
    intro n hn
    rcases Array.mem_push.mp hn with hn | rfl
    · exact h.bodies n hn
    · exact ⟨t, TokenStream.isBodyAfter_foldedBlock htiled ht hopens hlt houtcome⟩
  · rw [hnodes, Array.toList_push, List.pairwise_append]
    refine ⟨h.ordered, List.pairwise_singleton _ _, ?_⟩
    intro m hm n hn
    rw [List.mem_singleton.mp hn]
    exact Nat.lt_succ_of_le (h.passed m (Array.mem_toList_iff.mp hm))
  · rw [hnodes]
    intro n hn
    rcases Array.mem_push.mp hn with hn | rfl
    · exact Nat.le_trans (h.passed n hn) (Nat.le_of_lt hlt)
    · exact Nat.le_refl _
  · rw [hnodes, hreports, Array.toList_push]
    show Reported _ _ (c.failures ++ _)
    rw [hfailures]
    exact .concat hends rfl hopens houtcome

theorem step (htiled : s.Tiled) (header : Header) (hend : c.atEnd = false) (h : OutlineShape s c) :
    OutlineShape s (c.outlineStep header).2 := by
  simp only [Cursor.outlineStep]
  split
  · rename_i hopens
    exact h.foldBody_advance htiled hend (Header.mem_bodyOpeners_of_step hopens)
  · exact h.advance

end OutlineShape

theorem TokenStream.Tiled.outlineShape {s : TokenStream} (htiled : s.Tiled) :
    OutlineShape s (Cursor.ofStream s).outline := by
  obtain ⟨_, hlast, -⟩ := Cursor.outlineFrom_induction
    (fun header _ hend h => OutlineShape.step htiled header hend h) (.ofStream s)
  exact hlast

/-- The blocks of a text, whatever its tokens are, are bodies. They stand one after another, with a
token between any two of them, and only the last one can come to the end of the tokens. The log reports
a failed search exactly when it does, at most once, and never for a token that opens nothing. -/
theorem outermostBodies_shape (d : Dialect) (text : String) :
    let s : TokenStream := ⟨text, lex d text⟩
    let blocks := outermostBodies d text
    let failures := (Cursor.ofText d text).outline.failures
    (∀ n ∈ blocks, ∃ opener, s.IsBodyAfter opener n) ∧
      blocks.toList.Pairwise (fun m n => m.tokenEnd < n.tokenStart) ∧
      (∀ n ∈ blocks.toList.dropLast, n.tokenEnd < s.tokens.size) ∧
      (failures ≠ [] ↔ ∃ n, blocks.toList.getLast? = some n ∧ n.tokenEnd = s.tokens.size) ∧
      failures.length ≤ 1 ∧ ∀ e ∈ failures, ∃ opener, e = .unterminated opener := by
  intro s blocks failures
  have hshape : OutlineShape s (Cursor.ofText d text).outline :=
    TokenStream.Tiled.outlineShape (tiled_lex d text)
  have hreported : Reported s.tokens.size blocks.toList failures := hshape.reported
  exact ⟨hshape.bodies, hshape.ordered, hreported.lt_of_mem_dropLast,
    hreported.failures_ne_nil_iff, hreported.length_failures_le, hreported.eq_unterminated⟩

/-- The second of two loops has no end, and its block takes in the space at the end of the text. -/
theorem outermostBodies_shape_unterminated :
    let text := "do a end repeat b "
    outermostBodies .lua54 text = #[⟨.block, true, 1, 4, 2, 3⟩, ⟨.block, true, 7, 10, 15, 3⟩] ∧
      (lex .lua54 text).size = 10 ∧ (Cursor.ofText .lua54 text).outline.failures ≠ [] := by
  intro text
  have hblocks : outermostBodies .lua54 text =
      #[⟨.block, true, 1, 4, 2, 3⟩, ⟨.block, true, 7, 10, 15, 3⟩] := by decide +kernel
  have hsize : (lex .lua54 text).size = 10 := by decide +kernel
  obtain ⟨-, -, -, hreport, -⟩ := outermostBodies_shape .lua54 text
  refine ⟨hblocks, hsize, hreport.mpr ⟨⟨.block, true, 7, 10, 15, 3⟩, ?_, hsize.symm⟩⟩
  rw [hblocks]
  rfl

end LuaFold
