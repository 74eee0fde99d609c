import LuaFold.Proofs.FoldOutcome
import LuaFold.Proofs.Lexemes
import LuaFold.Proofs.OutlineRun

/-! The words that a body starts after, in an outline of any text. Outside the blocks, all of them
open a block of their own, except those in a list of parameters that has not come to its end. -/

namespace LuaFold

/-- The words that a body starts after. -/
def bodyWords : List TokenKind :=
  [.kwDo, .kwThen, .kwElse, .kwRepeat]

/-- The tokens at which a header is no longer before its parameters. -/
def nameEnds : List TokenKind :=
  .kwFunction :: .leftParen :: .kwEnd :: bodyWords

/-- The tokens at which a header is no longer inside its parameters. -/
def paramsEnds : List TokenKind :=
  [.kwFunction, .rightParen]

namespace Header

variable {header : Header} {kind : TokenKind}

theorem step_opens_iff : (header.step kind).2 = true ↔
    header ≠ .params ∧ kind ∈ bodyWords ∨ header = .params ∧ kind = .rightParen := by
  cases header <;> cases kind <;> decide

theorem step_of_opens (h : (header.step kind).2 = true) : (header.step kind).1 = .outside := by
  revert h
  cases header <;> cases kind <;> decide

theorem step_eq_named_iff : (header.step kind).1 = .named ↔
    kind = .kwFunction ∨ header = .named ∧ kind ∉ nameEnds := by
  cases header <;> cases kind <;> decide

theorem step_eq_params_iff : (header.step kind).1 = .params ↔
    header = .named ∧ kind = .leftParen ∨ header = .params ∧ kind ∉ paramsEnds := by
  cases header <;> cases kind <;> decide

end Header

/-- The token at `i` is in none of the nodes. -/
def Outside (nodes : Array Node) (i : Nat) : Prop :=
  ∀ n ∈ nodes, i < n.tokenStart ∨ n.tokenEnd ≤ i

theorem outside_push {nodes : Array Node} {n : Node} {i : Nat} :
    Outside (nodes.push n) i ↔ Outside nodes i ∧ (i < n.tokenStart ∨ n.tokenEnd ≤ i) := by
  constructor
  · intro h
    exact ⟨fun m hm => h m (Array.mem_push_of_mem _ hm), h n Array.mem_push_self⟩
  · rintro ⟨hnodes, hn⟩ m hm
    rcases Array.mem_push.mp hm with hm | rfl
    · exact hnodes m hm
    · exact hn

namespace TokenStream

variable {s : TokenStream}

theorem kindAt?_eq_some_iff {i : Nat} {kind : TokenKind} :
    s.kindAt? i = some kind ↔ ∃ t, s.tokens[i]? = some t ∧ t.kind = kind := by
  simp [kindAt?]

theorem IsPlace.kind_not_mem_of_lt {p : Place} (hp : s.IsPlace p) (kinds : List TokenKind)
    (hkinds : ∀ kind ∈ kinds, kind.isTrivia = false) {i : Nat} {kind : TokenKind}
    (hi : p.consumed ≤ i) (hlt : i < p.index) (hk : s.kindAt? i = some kind) : kind ∉ kinds := by
  intro hmem
  obtain ⟨t, ht, rfl⟩ := kindAt?_eq_some_iff.mp hk
  have htrivia : t.kind.isTrivia = true := hp.isTrivia_of_lt hi hlt ht
  rw [hkinds t.kind hmem] at htrivia
  cases htrivia

/-- `P` holds at some token before `i`, and no token between the two is of one of `kinds`. -/
def Since (s : TokenStream) (P : Nat → Prop) (kinds : List TokenKind) (i : Nat) : Prop :=
  ∃ j < i, P j ∧ ∀ l kind, j < l → l < i → s.kindAt? l = some kind → kind ∉ kinds

section Since

variable {P Q : Nat → Prop} {kinds : List TokenKind} {i k : Nat} {kind : TokenKind}

theorem since_congr (h : ∀ j < i, P j ↔ Q j) : s.Since P kinds i ↔ s.Since Q kinds i := by
  constructor
  · rintro ⟨j, hj, hP, hkinds⟩
    exact ⟨j, hj, (h j hj).mp hP, hkinds⟩
  · rintro ⟨j, hj, hQ, hkinds⟩
    exact ⟨j, hj, (h j hj).mpr hQ, hkinds⟩

theorem Since.last (h : s.Since P kinds i) (hk : s.kindAt? k = some kind) (hki : k < i)
    (hP : ∀ j, k < j → j < i → ¬P j) : P k ∨ s.Since P kinds k ∧ kind ∉ kinds := by
  obtain ⟨j, hj, hPj, hkinds⟩ := h
  rcases Nat.lt_trichotomy j k with hlt | rfl | hgt
  · right
    refine ⟨⟨j, hlt, hPj, ?_⟩, hkinds k kind hlt hki hk⟩
    intro l x hjl hlk
    exact hkinds l x hjl (by omega)
  · exact .inl hPj
  · exact absurd hPj (hP j hgt hj)

theorem since_of_last (hk : s.kindAt? k = some kind) (hki : k < i)
    (hrest : ∀ l x, k < l → l < i → s.kindAt? l = some x → x ∉ kinds)
    (h : P k ∨ s.Since P kinds k ∧ kind ∉ kinds) : s.Since P kinds i := by
  rcases h with hP | ⟨⟨j, hj, hP, hkinds⟩, hkind⟩
  · exact ⟨k, hki, hP, hrest⟩
  · refine ⟨j, by omega, hP, ?_⟩
    intro l x hjl hli hl
    rcases Nat.lt_trichotomy l k with hlt | rfl | hgt
    · exact hkinds l x hjl hlt hl
    · rw [hk] at hl
      cases hl
      exact hkind
    · exact hrest l x hgt hli hl

end Since

/-- At `i`, the header of a function that is in none of the nodes has not come to its parameters. -/
def InName (s : TokenStream) (nodes : Array Node) (i : Nat) : Prop :=
  s.Since (fun j => s.kindAt? j = some .kwFunction ∧ Outside nodes j) nameEnds i

/-- At `i`, the header of a function that is in none of the nodes has come to its parameters and not
to their end. -/
def InParams (s : TokenStream) (nodes : Array Node) (i : Nat) : Prop :=
  s.Since (fun j => s.kindAt? j = some .leftParen ∧ s.InName nodes j) paramsEnds i

variable {nodes : Array Node} {n : Node} {i : Nat}

theorem inName_push (h : i ≤ n.tokenStart) : s.InName (nodes.push n) i ↔ s.InName nodes i := by
  refine since_congr fun j hj => ?_
  have hbefore : j < n.tokenStart ∨ n.tokenEnd ≤ j := .inl (by omega)
  simp [outside_push, hbefore]

theorem inParams_push (h : i ≤ n.tokenStart) :
    s.InParams (nodes.push n) i ↔ s.InParams nodes i := by
  refine since_congr fun j hj => ?_
  rw [inName_push (by omega)]

end TokenStream

/-! ### The run -/

/-- In an outline of `s` that has come to the cursor `c`, the header is open or not as the tokens
before the cursor have it, and so are the blocks that start after a word. -/
structure Accounted (s : TokenStream) (header : Header) (c : Cursor) : Prop where
  stream : c.stream = s
  place : s.IsPlace c.place
  passed : ∀ n ∈ c.nodes, n.tokenStart ≤ c.place.index ∧ n.tokenEnd ≤ c.place.index
  named : header = .named ↔ s.InName c.nodes c.place.index
  params : header = .params ↔ s.InParams c.nodes c.place.index
  words : ∀ i kind, i < c.place.index → s.kindAt? i = some kind → kind ∈ bodyWords →
    Outside c.nodes i → ((∃ n ∈ c.nodes, n.tokenStart = i + 1) ↔ ¬s.InParams c.nodes i)

namespace Accounted

variable {s : TokenStream} {header : Header} {c : Cursor}

theorem ofStream (s : TokenStream) : Accounted s .outside (.ofStream s) := by
  have hskip (kinds : List TokenKind) (hkinds : ∀ kind ∈ kinds, kind.isTrivia = false) :
      ∀ i kind, i < s.first.index → s.kindAt? i = some kind → kind ∉ kinds :=
    fun i kind hlt => s.isPlace_first.kind_not_mem_of_lt kinds hkinds (Nat.zero_le i) hlt
  refine ⟨rfl, s.isPlace_first, fun _ hn => absurd hn (Array.not_mem_empty _), ?_, ?_, ?_⟩
  · constructor
    · intro h
      cases h
    · rintro ⟨j, hj, ⟨hkind, -⟩, -⟩
      exact absurd (List.mem_singleton_self _) (hskip [.kwFunction] (by decide) j _ hj hkind)
  · constructor
    · intro h
      cases h
    · rintro ⟨j, hj, ⟨hkind, -⟩, -⟩
      exact absurd (List.mem_singleton_self _) (hskip [.leftParen] (by decide) j _ hj hkind)
  · intro i kind hi hk hword
    exact absurd hword (hskip bodyWords (by decide) i kind hi hk)

theorem outside_place (h : Accounted s header c) : Outside c.nodes c.place.index :=
  fun n hn => .inr (h.passed n hn).2

theorem kindAt?_place (h : Accounted s header c) (hend : c.atEnd = false) :
    s.kindAt? c.place.index = some c.current := by
  obtain ⟨t, ht, hcurrent, -⟩ := Cursor.exists_consumed_advance hend
  rw [hcurrent, TokenStream.kindAt?, ← h.stream, ht]
  rfl

/-- A step over a token that no body starts after. -/
theorem advance (h : Accounted s header c) (hend : c.atEnd = false)
    (hopens : ¬(header.step c.current).2 = true) :
    Accounted s (header.step c.current).1 c.advance := by
  have hk := h.kindAt?_place hend
  have houtside := h.outside_place
  obtain ⟨-, -, -, hconsumed⟩ := Cursor.exists_consumed_advance hend
  have hlt : c.place.index < c.advance.place.index := TokenStream.index_lt_advance hend
  obtain ⟨rfl, hplace, hpassed, hnamed, hparams, hwords⟩ := h
  have hnext : c.stream.IsPlace c.advance.place := hplace.advance
  -- the tokens up to the next place are trivia
  have hskip (kinds : List TokenKind) (hkinds : ∀ kind ∈ kinds, kind.isTrivia = false) :
      ∀ i kind, c.place.index < i → i < c.advance.place.index →
        c.stream.kindAt? i = some kind → kind ∉ kinds :=
    fun i kind hi hilt => hnext.kind_not_mem_of_lt kinds hkinds (by omega) hilt
  refine ⟨rfl, hnext, ?_, ?_, ?_, ?_⟩
  · intro n hn
    have hn' := hpassed n hn
    omega
  · rw [Header.step_eq_named_iff, hnamed]
    constructor
    · intro hname
      refine TokenStream.since_of_last hk hlt (hskip nameEnds (by decide)) (hname.imp_left ?_)
      intro hfunction
      exact ⟨by rw [hk, hfunction], houtside⟩
    · intro hname
      refine (hname.last hk hlt ?_).imp_left ?_
      · rintro j hj hjlt ⟨hkind, -⟩
        exact hskip [.kwFunction] (by decide) j _ hj hjlt hkind List.mem_cons_self
      · rintro ⟨hkind, -⟩
        exact Option.some.inj (hk.symm.trans hkind)
  · rw [Header.step_eq_params_iff, hnamed, hparams]
    constructor
    · intro hparam
      refine TokenStream.since_of_last hk hlt (hskip paramsEnds (by decide)) (hparam.imp_left ?_)
      rintro ⟨hname, hparen⟩
      exact ⟨by rw [hk, hparen], hname⟩
    · intro hparam
      refine (hparam.last hk hlt ?_).imp_left ?_
      · rintro j hj hjlt ⟨hkind, -⟩
        exact hskip [.leftParen] (by decide) j _ hj hjlt hkind List.mem_cons_self
      · rintro ⟨hkind, hname⟩
        exact ⟨hname, Option.some.inj (hk.symm.trans hkind)⟩
  · intro i kind hi hkind hword hout
    rcases Nat.lt_trichotomy i c.place.index with hlow | rfl | hhigh
    · exact hwords i kind hlow hkind hword hout
    · -- a word that opens nothing is inside parameters
      obtain rfl := Option.some.inj (hk.symm.trans hkind)
      have hheader : header = .params := by
        by_contra hne
        exact hopens (Header.step_opens_iff.mpr (.inl ⟨hne, hword⟩))
      refine ⟨?_, fun hnot => absurd (hparams.mp hheader) hnot⟩
      rintro ⟨n, hn, hstart⟩
      have hn' := hpassed n hn
      omega
    · exact absurd hword (hskip bodyWords (by decide) i kind hhigh hi hkind)

/-- No header is open inside the block of a body, nor after it. -/
theorem not_inName_of_opens (h : Accounted s header c) (hend : c.atEnd = false)
    (hopens : (header.step c.current).2 = true) {n : Node}
    (hstart : n.tokenStart = c.place.index + 1) {i : Nat} (hi : c.place.index < i)
    (hle : i ≤ n.tokenEnd) : ¬s.InName (c.nodes.push n) i := by
  intro hname
  have hk := h.kindAt?_place hend
  have hlast := hname.last hk hi <| by
    rintro j hj hji ⟨-, hout⟩
    have hblock := (outside_push.mp hout).2
    omega
  have hstep : (header.step c.current).1 = .named := by
    refine Header.step_eq_named_iff.mpr (hlast.imp ?_ (And.imp_left ?_))
    · rintro ⟨hkind, -⟩
      exact Option.some.inj (hk.symm.trans hkind)
    · intro hbefore
      exact h.named.mpr ((TokenStream.inName_push (by omega)).mp hbefore)
  rw [Header.step_of_opens hopens] at hstep
  cases hstep

theorem not_inParams_of_opens (h : Accounted s header c) (hend : c.atEnd = false)
    (hopens : (header.step c.current).2 = true) {n : Node}
    (hstart : n.tokenStart = c.place.index + 1) (hlt : c.place.index < n.tokenEnd) :
    ¬s.InParams (c.nodes.push n) n.tokenEnd := by
  intro hparam
  have hk := h.kindAt?_place hend
  have hlast := hparam.last hk hlt <| by
    rintro j hj hjlt ⟨-, hname⟩
    exact h.not_inName_of_opens hend hopens hstart hj (Nat.le_of_lt hjlt) hname
  have hstep : (header.step c.current).1 = .params := by
    refine Header.step_eq_params_iff.mpr (hlast.imp ?_ (And.imp_left ?_))
    · rintro ⟨hkind, hname⟩
      exact ⟨h.named.mpr ((TokenStream.inName_push (by omega)).mp hname),
        Option.some.inj (hk.symm.trans hkind)⟩
    · intro hbefore
      exact h.params.mpr ((TokenStream.inParams_push (by omega)).mp hbefore)
  rw [Header.step_of_opens hopens] at hstep
  cases hstep

/-- A step over a token that a body starts after, and over the body. -/
theorem foldBody_advance (h : Accounted s header c) (hend : c.atEnd = false)
    (hopens : (header.step c.current).2 = true) :
    Accounted s (header.step c.current).1 c.advance.foldBody.2 := by
  have hplace : c.stream.IsPlace c.place := h.stream ▸ h.place
  have hlt := Cursor.index_lt_foldBody_advance hend
  have hnodes := Cursor.nodes_foldBody_advance hplace hend
  have hnext := Cursor.isPlace_foldBody_advance hplace hend
  have hstream : c.advance.foldBody.2.stream = c.stream := c.advance.stream_foldBody
  rw [h.stream] at hnodes hnext hstream
  rw [Header.step_of_opens hopens]
  generalize c.advance.foldBody.2 = next at hlt hnodes hnext hstream ⊢
  have hstart : (s.blockOver (c.place.index + 1) next.place.index).tokenStart =
    c.place.index + 1 := rfl
  have hstop : (s.blockOver (c.place.index + 1) next.place.index).tokenEnd =
    next.place.index := rfl
  generalize s.blockOver (c.place.index + 1) next.place.index = block at hnodes hstart hstop
  refine ⟨hstream, hnext, ?_, ?_, ?_, ?_⟩
  · intro n hn
    rw [hnodes] at hn
    rcases Array.mem_push.mp hn with hn | rfl
    · have hn' := h.passed n hn
      omega
    · omega
  · rw [hnodes]
    exact iff_of_false (by decide)
      (h.not_inName_of_opens hend hopens hstart hlt (Nat.le_of_eq hstop.symm))
  · rw [hnodes, ← hstop]
    exact iff_of_false (by decide) (h.not_inParams_of_opens hend hopens hstart (by omega))
  · intro i kind hi hkind hword hout
    rw [hnodes] at hout ⊢
    obtain ⟨hout, hblock⟩ := outside_push.mp hout
    have hle : i ≤ c.place.index := by omega
    rw [TokenStream.inParams_push (by omega)]
    rcases Nat.lt_or_eq_of_le hle with hlow | rfl
    · rw [← h.words i kind hlow hkind hword hout]
      constructor
      · rintro ⟨n, hn, hn'⟩
        rcases Array.mem_push.mp hn with hn | rfl
        · exact ⟨n, hn, hn'⟩
        · omega
      · rintro ⟨n, hn, hn'⟩
        exact ⟨n, Array.mem_push_of_mem _ hn, hn'⟩
    · obtain rfl := Option.some.inj ((h.kindAt?_place hend).symm.trans hkind)
      refine ⟨fun _ hparam => ?_, fun _ => ⟨block, Array.mem_push_self, hstart⟩⟩
      rcases Header.step_opens_iff.mp hopens with ⟨hne, -⟩ | ⟨-, hparen⟩
      · exact hne (h.params.mpr hparam)
      · rw [hparen] at hword
        exact absurd hword (by decide)

theorem step (header : Header) (hend : c.atEnd = false) (h : Accounted s header c) :
    Accounted s (c.outlineStep header).1 (c.outlineStep header).2 := by
  by_cases hopens : (header.step c.current).2 = true
  · rw [Cursor.outlineStep_of_opens hopens]
    exact h.foldBody_advance hend hopens
  · rw [Cursor.outlineStep_of_not_opens (by simpa using hopens)]
    exact h.advance hend hopens

end Accounted

/-- In the outline of any text, a word that a body starts after and that is in no block opens a
block of its own, unless it is in a list of parameters that has not come to its end. There it opens
none. -/
theorem exists_body_after_word_iff (d : Dialect) (text : String) {i : Nat} {kind : TokenKind} :
    let s : TokenStream := ⟨text, lex d text⟩
    let blocks := outermostBodies d text
    s.kindAt? i = some kind → kind ∈ [TokenKind.kwDo, .kwThen, .kwElse, .kwRepeat] →
      Outside blocks i → ((∃ n ∈ blocks, n.tokenStart = i + 1) ↔ ¬s.InParams blocks i) := by
  intro s blocks hkind hword hout
  obtain ⟨header, hlast, hend⟩ := Cursor.outlineFrom_induction
    (fun header _ hend h => Accounted.step header hend h) (Accounted.ofStream s)
  have hsize : s.tokens.size ≤ (Cursor.outlineFrom .outside (.ofStream s)).place.index := by
    simpa [Cursor.atEnd, TokenStream.atEnd, hlast.stream] using hend
  obtain ⟨t, ht, -⟩ := TokenStream.kindAt?_eq_some_iff.mp hkind
  have hi := (Array.getElem?_eq_some_iff.mp ht).1
  exact hlast.words i kind (Nat.lt_of_lt_of_le hi hsize) hkind hword hout

/-- A second `function` gives up the parameters of the first one, and the `do` after it is in its
name. -/
theorem exists_body_after_word_iff_second_function :
    let text := "function f(function g do x end"
    let s : TokenStream := ⟨text, lex .lua55 text⟩
    let blocks := outermostBodies .lua55 text
    s.kindAt? 8 = some .kwDo ∧ Outside blocks 8 ∧ blocks = #[⟨.block, true, 9, 12, 24, 3⟩] ∧
      ¬s.InParams blocks 8 := by
  intro text s blocks
  have hblocks : blocks = #[⟨.block, true, 9, 12, 24, 3⟩] := by decide +kernel
  have hkind : s.kindAt? 8 = some .kwDo := by decide +kernel
  have hout : Outside blocks 8 := by
    rw [hblocks]
    intro n hn
    obtain rfl := List.mem_singleton.mp (Array.mem_toList_iff.mpr hn)
    exact .inl (by decide)
  refine ⟨hkind, hout, hblocks, ?_⟩
  refine (exists_body_after_word_iff .lua55 text hkind (by decide) hout).mp ?_
  exact ⟨_, hblocks ▸ Array.mem_singleton_self _, rfl⟩

/-- A list of parameters that has not come to its end hides the loop after it. -/
theorem word_in_open_params_opens_no_body :
    let text := "function f( do x end"
    let s : TokenStream := ⟨text, lex .lua55 text⟩
    let blocks := outermostBodies .lua55 text
    ¬∀ i kind, s.kindAt? i = some kind → kind ∈ [TokenKind.kwDo, .kwThen, .kwElse, .kwRepeat] →
      Outside blocks i → ∃ n ∈ blocks, n.tokenStart = i + 1 := by
  intro text s blocks h
  have hblocks : blocks = #[] := by decide +kernel
  have hkind : s.kindAt? 5 = some .kwDo := by decide +kernel
  obtain ⟨n, hn, -⟩ := h 5 .kwDo hkind (by decide) <| by
    rw [hblocks]
    exact fun n hn => absurd hn (Array.not_mem_empty n)
  rw [hblocks] at hn
  exact Array.not_mem_empty n hn

end LuaFold
