import LuaFold.Proofs.OutlineRun
import LuaFold.Proofs.Program
import LuaFold.Proofs.Terminator

/-! The outline of a well-formed program is exact: one block for each body of an outermost
construct, from the end of the token that opens it to the start of the one that ends it. -/

namespace LuaFold

open TokenKind

namespace TokenStream

/-- The block between the two tokens of an extent: what stands after the opener and before the
closer. -/
def blockBetween? (s : TokenStream) (e : Extent) : Option Node := do
  let (opener, i) ← s.significant[e.opener]?
  let (closer, j) ← s.significant[e.closer]?
  return ⟨.block, true, i + 1, j, .ofOffsets opener.span.stop closer.span.start⟩

theorem blockBetween?_eq_foldedBlock {s : TokenStream} (htiled : s.Tiled) {m n : Nat} {t t' : Token}
    (ht : s.tokens[(s.nth m).index]? = some t) (ht' : s.tokens[(s.nth n).index]? = some t') :
    s.blockBetween? ⟨m, n⟩ = some (s.foldedBlock ((s.nth m).index + 1) (s.nth n).index) := by
  rw [foldedBlock, htiled.offsetAt_succ ht, offsetAt_of_getElem? ht', blockBetween?,
    getElem?_significant, getElem?_significant, ht, ht']
  rfl

/-- The outline that is on token `start` with the header `header` comes to token `stop` with the
header `header'`, and on its way folds the bodies at the extents, in order. Tokens count without
trivia. -/
def Outlines (s : TokenStream) (header : Header) (start : Nat) (extents : List Extent)
    (header' : Header) (stop : Nat) : Prop :=
  ∀ c : Cursor, c.stream = s → c.place = s.nth start →
    ∃ (c' : Cursor) (blocks : List Node), c'.stream = s ∧ c'.place = s.nth stop ∧
      c.outlineFrom header = c'.outlineFrom header' ∧
      extents.mapM s.blockBetween? = some blocks ∧ c'.nodes.toList = c.nodes.toList ++ blocks

variable {s : TokenStream} {header header' header'' : Header} {n m k : Nat} {es es' : List Extent}

namespace Outlines

theorem refl (s : TokenStream) (header : Header) (n : Nat) : s.Outlines header n [] header n :=
  fun c hs hp => ⟨c, [], hs, hp, rfl, rfl, (List.append_nil _).symm⟩

theorem trans (h : s.Outlines header n es header' m) (h' : s.Outlines header' m es' header'' k) :
    s.Outlines header n (es ++ es') header'' k := by
  intro c hs hp
  obtain ⟨mid, blocks, hms, hmp, hmrun, hblocks, hmnodes⟩ := h c hs hp
  obtain ⟨last, blocks', hls, hlp, hlrun, hblocks', hlnodes⟩ := h' mid hms hmp
  refine ⟨last, blocks ++ blocks', hls, hlp, hmrun.trans hlrun, ?_, ?_⟩
  · rw [List.mapM_append, hblocks, hblocks']
    rfl
  · rw [hlnodes, hmnodes, List.append_assoc]

end Outlines

/-! ### Single tokens -/

theorem outlines_token {kind : TokenKind} {rest : List TokenKind}
    (hahead : s.ahead (s.nth n) = kind :: rest) (hstep : header.step kind = (header', false)) :
    s.Outlines header n [] header' (n + 1) := by
  rintro c rfl hp
  obtain ⟨hend, hkind, -⟩ := ahead_eq_cons.mp hahead
  rw [← hp] at hend hkind
  refine ⟨c.advance, [], rfl, ?_, ?_, rfl, (List.append_nil _).symm⟩
  · rw [← advance_nth, ← hp]
    rfl
  · have hcur : header.step c.current = (header', false) := by rw [Cursor.current, hkind, hstep]
    rw [Cursor.outlineFrom_of_not_atEnd header hend, Cursor.outlineStep, hcur]
    rfl

theorem outlines_tokens {ks rest : List TokenKind} (hahead : s.ahead (s.nth n) = ks ++ rest)
    (hstep : ∀ kind ∈ ks, header.step kind = (header, false)) :
    s.Outlines header n [] header (n + ks.length) := by
  induction ks generalizing n with
  | nil => exact .refl s header n
  | cons kind ks ih =>
    have hfirst := outlines_token hahead (hstep kind List.mem_cons_self)
    have hrest := ih (ahead_nth_succ hahead) fun k hk => hstep k (List.mem_cons_of_mem _ hk)
    have hstop : n + (kind :: ks).length = n + 1 + ks.length := by
      rw [List.length_cons]
      omega
    rw [hstop]
    exact hfirst.trans hrest

/-! ### Bodies -/

/-- A token after which a body starts, and the body: the outline stops on the token that ends it. -/
theorem outlines_body (htiled : s.Tiled) {kind closer : TokenKind} {construct : Construct}
    {ks rest : List TokenKind} (hahead : s.ahead (s.nth n) = kind :: ks ++ closer :: rest)
    (hstep : header.step kind = (header', true))
    (hopener : Construct.ofOpener? (bodyOpener kind) 0 = some construct)
    (hks : Interior construct ks closer) :
    s.Outlines header n [⟨n, n + 1 + ks.length⟩] header' (n + 1 + ks.length) := by
  have hbody := ahead_nth_succ hahead
  obtain ⟨t, ht, rfl⟩ := getElem?_nth_of_ahead hahead
  obtain ⟨t', ht', -⟩ := getElem?_nth_of_ahead (ahead_nth_add hbody)
  obtain ⟨hend, hkind, -⟩ := ahead_eq_cons.mp hahead
  rintro c rfl hp
  have hrun : c.outlineFrom header = c.advance.foldBody.2.outlineFrom header' := by
    rw [Cursor.outlineFrom_of_not_atEnd header (by rwa [Cursor.atEnd, hp]), Cursor.outlineStep,
      Cursor.current, hp, hkind, hstep]
    rfl
  have hplace : c.advance.place = c.stream.nth (n + 1) := by
    rw [← advance_nth, ← hp]
    rfl
  have hconsumed : c.advance.place.consumed = (c.stream.nth n).index + 1 := by
    rw [hplace, ← advance_nth, advance_of_not_atEnd hend]
  have hstart : c.stream.IsPlace c.advance.place := hplace ▸ c.stream.isPlace_nth (n + 1)
  have hstop : c.advance.foldBody.2.place = c.stream.nth (n + 1 + ks.length) := by
    rw [Cursor.place_foldBody hstart hconsumed ht, hplace, seekBlockEnd_eq, hopener]
    show (c.stream.search construct 0 (c.stream.nth (n + 1))).2 = _
    rw [hks.search hbody 0]
    exact c.stream.skip_nth ks.length (n + 1)
  refine ⟨c.advance.foldBody.2,
    [c.stream.foldedBlock ((c.stream.nth n).index + 1) (c.stream.nth (n + 1 + ks.length)).index],
    c.advance.stream_foldBody, hstop, hrun, ?_, ?_⟩
  · rw [List.mapM_cons, blockBetween?_eq_foldedBlock htiled ht ht']
    rfl
  · rw [Cursor.nodes_foldBody (c := c.advance) htiled hstart hconsumed ht, hstop, Array.toList_push]
    rfl

/-! ### Constructs -/

theorem isBodyWord_of_isPlain {kind : TokenKind} (h : kind.isPlain = true) :
    Header.isBodyWord kind = false := by
  cases kind <;> first | rfl | cases h

theorem step_outside_of_isPlain {kind : TokenKind} (h : kind.isPlain = true) :
    Header.outside.step kind = (.outside, false) := by
  have hfunction : kind ≠ kwFunction := fun hk => by simp [hk, isPlain] at h
  rw [Header.step, if_neg hfunction]
  simp only [isBodyWord_of_isPlain h]

theorem step_named_of_isPlain {kind : TokenKind} (h : kind.isPlain = true)
    (hparen : kind ≠ leftParen) : Header.named.step kind = (.named, false) := by
  have hfunction : kind ≠ kwFunction := fun hk => by simp [hk, isPlain] at h
  have hend : kind ≠ kwEnd := fun hk => by simp [hk, isPlain] at h
  simp [Header.step, hfunction, hparen, hend, isBodyWord_of_isPlain h]

theorem step_params_of_isPlain {kind : TokenKind} (h : kind.isPlain = true)
    (hparen : kind ≠ rightParen) : Header.params.step kind = (.params, false) := by
  have hfunction : kind ≠ kwFunction := fun hk => by simp [hk, isPlain] at h
  simp [Header.step, hfunction, hparen]

theorem outlines_block (htiled : s.Tiled) (header : Header) {kind closer : TokenKind}
    {construct : Construct} {ks rest : List TokenKind}
    (hahead : s.ahead (s.nth n) = kind :: ks ++ closer :: rest)
    (hstep : header.step kind = (.outside, true))
    (hopener : Construct.ofOpener? (bodyOpener kind) 0 = some construct)
    (hks : Interior construct ks closer) (hclose : Header.outside.step closer = (.outside, false)) :
    s.Outlines header n [⟨n, n + 1 + ks.length⟩] .outside (n + 1 + ks.length + 1) ∧
      s.ahead (s.nth (n + 1 + ks.length + 1)) = rest := by
  have hcloser := ahead_nth_add (ahead_nth_succ hahead)
  have hbody := outlines_body htiled hahead hstep hopener hks
  exact ⟨hbody.trans (outlines_token hcloser hclose), ahead_nth_succ hcloser⟩

/-- The header of a function up to the parenthesis that ends its parameters. -/
theorem outlines_header {name : List (PlainKindBut leftParen)}
    {params : List (PlainKindBut rightParen)} {rest : List TokenKind}
    (hahead : s.ahead (s.nth n) =
      kwFunction :: (name.map (·.val) ++ leftParen :: (params.map (·.val) ++ rest))) :
    s.Outlines .outside n [] .params (n + 1 + name.length + 1 + params.length) ∧
      s.ahead (s.nth (n + 1 + name.length + 1 + params.length)) = rest := by
  have hname := ahead_nth_succ hahead
  have hopen := ahead_nth_add hname
  have hparams := ahead_nth_succ hopen
  have hrest := ahead_nth_add hparams
  have hnamed : ∀ kind ∈ name.map (·.val), Header.named.step kind = (.named, false) := by
    intro kind hkind
    obtain ⟨k, -, rfl⟩ := List.mem_map.mp hkind
    exact step_named_of_isPlain k.2.1 k.2.2
  have hlisted : ∀ kind ∈ params.map (·.val), Header.params.step kind = (.params, false) := by
    intro kind hkind
    obtain ⟨k, -, rfl⟩ := List.mem_map.mp hkind
    exact step_params_of_isPlain k.2.1 k.2.2
  have hkeyword : s.Outlines .outside n [] .named (n + 1) := outlines_token hahead rfl
  have hparen := outlines_token hopen (rfl : Header.named.step leftParen = (.params, false))
  have hrun := (hkeyword.trans (outlines_tokens hname hnamed)).trans
    (hparen.trans (outlines_tokens hparams hlisted))
  rw [List.length_map, List.length_map] at hrest hrun
  exact ⟨hrun, hrest⟩

/-- A keyword with a condition, and the body after it. -/
theorem outlines_branch (htiled : s.Tiled) {keyword closer : TokenKind}
    {condition rest : List TokenKind} {body : Body} {es : List Extent}
    (hahead : s.ahead (s.nth n) =
      keyword :: (condition ++ (kwThen :: body.kinds ++ closer :: rest)))
    (hkeyword : Header.outside.step keyword = (.outside, false))
    (hcloser : closer ∈ [kwElseIf, kwElse, kwEnd])
    (hcondition : s.Outlines .outside (n + 1) es .outside (n + 1 + condition.length)) :
    let opener := n + 1 + condition.length
    s.Outlines .outside n (es ++ [⟨opener, opener + 1 + body.kinds.length⟩]) .outside
        (opener + 1 + body.kinds.length) ∧
      s.ahead (s.nth (opener + 1 + body.kinds.length)) = closer :: rest := by
  intro opener
  have hthen := ahead_nth_add (ahead_nth_succ hahead)
  have hbody : s.Outlines .outside opener [⟨opener, opener + 1 + body.kinds.length⟩] .outside
      (opener + 1 + body.kinds.length) :=
    outlines_body htiled hthen rfl rfl (.branch body hcloser)
  refine ⟨?_, ahead_nth_add (ahead_nth_succ hthen)⟩
  exact (outlines_token hahead hkeyword).trans (hcondition.trans hbody)

theorem branches_kinds_eq_cons (more : ProgramBranches) (rest : List TokenKind) :
    ∃ closer rest', more.kinds ++ kwEnd :: rest = closer :: rest' ∧
      closer ∈ [kwElseIf, kwElse, kwEnd] := by
  cases more with
  | none => exact ⟨kwEnd, rest, rfl, by decide⟩
  | otherwise body => exact ⟨kwElse, _, rfl, by decide⟩
  | elseIf condition body more =>
    exact ⟨kwElseIf, _, rfl, by decide⟩

/-! Between two productions no header is open, so the outline of each one starts where that of the
one before it stops. A body is passed over whole, and the induction never enters it. -/

mutual

theorem outlines_program (htiled : s.Tiled) : (program : Program) → {n : Nat} →
    {rest : List TokenKind} → s.ahead (s.nth n) = program.kinds ++ rest →
    s.Outlines .outside n (program.extents n) .outside (n + program.kinds.length)
  | .empty, n, _, _ => .refl s .outside n
  | .plain kind rest, n, _, hahead => by
    have hkind := outlines_token hahead (step_outside_of_isPlain kind.2)
    have hrest := outlines_program htiled rest (ahead_nth_succ hahead)
    have hstop : n + (Program.plain kind rest).kinds.length = n + 1 + rest.kinds.length := by
      simp only [Program.kinds, List.length_cons]
      omega
    rw [hstop]
    exact hkind.trans hrest
  | .doBlock body rest, n, _, hahead => by
    rw [Program.kinds, List.append_assoc] at hahead
    obtain ⟨hblock, hnext⟩ := outlines_block htiled .outside hahead rfl rfl (.doBlock body) rfl
    have hrest := outlines_program htiled rest hnext
    have hstop : n + (Program.doBlock body rest).kinds.length =
        n + 1 + body.kinds.length + 1 + rest.kinds.length := by
      simp only [Program.kinds, List.length_append, List.length_cons]
      omega
    rw [hstop]
    exact hblock.trans hrest
  | .repeatLoop body rest, n, _, hahead => by
    rw [Program.kinds, List.append_assoc] at hahead
    obtain ⟨hblock, hnext⟩ := outlines_block htiled .outside hahead rfl rfl (.repeatLoop body) rfl
    have hrest := outlines_program htiled rest hnext
    have hstop : n + (Program.repeatLoop body rest).kinds.length =
        n + 1 + body.kinds.length + 1 + rest.kinds.length := by
      simp only [Program.kinds, List.length_append, List.length_cons]
      omega
    rw [hstop]
    exact hblock.trans hrest
  | .conditional condition body more rest, n, after, hahead => by
    obtain ⟨closer, rest', hmore, hcloser⟩ := branches_kinds_eq_cons more (rest.kinds ++ after)
    have hif : s.ahead (s.nth n) =
        kwIf :: (condition.kinds ++ (kwThen :: body.kinds ++ closer :: rest')) := by
      rw [hahead, ← hmore]
      simp only [Program.kinds, List.cons_append, List.append_assoc]
    have hcondition := outlines_program htiled condition (ahead_nth_succ hif)
    obtain ⟨hbranch, hnext⟩ := outlines_branch htiled hif rfl hcloser hcondition
    rw [← hmore] at hnext
    have hbranches := outlines_branches htiled more hnext
    have hend := ahead_nth_add hnext
    have hrest := outlines_program htiled rest (ahead_nth_succ hend)
    have hstop : n + (Program.conditional condition body more rest).kinds.length =
        n + 1 + condition.kinds.length + 1 + body.kinds.length + more.kinds.length + 1 +
          rest.kinds.length := by
      simp only [Program.kinds, List.length_append, List.length_cons]
      omega
    have hrun := hbranch.trans (hbranches.trans ((outlines_token hend rfl).trans hrest))
    rw [hstop]
    simpa [Program.extents] using hrun
  | .function path params body rest, n, after, hahead => by
    have hheader : s.ahead (s.nth n) = kwFunction :: (path.map (·.val) ++ leftParen ::
        (params.map (·.val) ++ (rightParen :: body.kinds ++ kwEnd :: (rest.kinds ++ after)))) := by
      rw [hahead]
      simp only [Program.kinds, List.cons_append, List.append_assoc]
    obtain ⟨hparams, hparen⟩ := outlines_header hheader
    obtain ⟨hblock, hnext⟩ := outlines_block htiled .params hparen rfl rfl (.function body) rfl
    have hrest := outlines_program htiled rest hnext
    have hstop : n + (Program.function path params body rest).kinds.length =
        n + 1 + path.length + 1 + params.length + 1 + body.kinds.length + 1 +
          rest.kinds.length := by
      simp only [Program.kinds, List.length_append, List.length_cons, List.length_map]
      omega
    rw [hstop]
    exact hparams.trans (hblock.trans hrest)

theorem outlines_branches (htiled : s.Tiled) : (more : ProgramBranches) → {n : Nat} →
    {rest : List TokenKind} → s.ahead (s.nth n) = more.kinds ++ kwEnd :: rest →
    s.Outlines .outside n (more.extents n) .outside (n + more.kinds.length)
  | .none, n, _, _ => .refl s .outside n
  | .otherwise body, n, _, hahead => by
    have hbody := outlines_body htiled hahead (rfl : Header.outside.step kwElse = _) rfl
      (.elseBranch body)
    have hstop : n + (ProgramBranches.otherwise body).kinds.length =
        n + 1 + body.kinds.length := by
      simp only [ProgramBranches.kinds, List.length_cons]
      omega
    rw [hstop]
    exact hbody
  | .elseIf condition body more, n, after, hahead => by
    obtain ⟨closer, rest', hmore, hcloser⟩ := branches_kinds_eq_cons more after
    have helseIf : s.ahead (s.nth n) =
        kwElseIf :: (condition.kinds ++ (kwThen :: body.kinds ++ closer :: rest')) := by
      rw [hahead, ← hmore]
      simp only [ProgramBranches.kinds, List.cons_append, List.append_assoc]
    have hcondition := outlines_program htiled condition (ahead_nth_succ helseIf)
    obtain ⟨hbranch, hnext⟩ := outlines_branch htiled helseIf rfl hcloser hcondition
    rw [← hmore] at hnext
    have hbranches := outlines_branches htiled more hnext
    have hstop : n + (ProgramBranches.elseIf condition body more).kinds.length =
        n + 1 + condition.kinds.length + 1 + body.kinds.length + more.kinds.length := by
      simp only [ProgramBranches.kinds, List.length_append, List.length_cons]
      omega
    rw [hstop]
    simpa [ProgramBranches.extents] using hbranch.trans hbranches

end

end TokenStream

namespace Cursor

/-- The outline of a program, from the first token of a stream that covers its text, has exactly one
block for each body of an outermost construct, in order. -/
theorem nodes_outline_program (s : TokenStream) (htiled : s.Tiled) (program : Program)
    (hkinds : s.significant.map (·.1.kind) = program.kinds) :
    (program.extents 0).mapM s.blockBetween? = some (ofStream s).outline.nodes.toList := by
  have hahead : s.ahead (s.nth 0) = program.kinds ++ [] := by
    rw [List.append_nil, ← hkinds]
    exact s.ahead_first
  obtain ⟨last, blocks, hstream, hplace, hrun, hblocks, hnodes⟩ :=
    TokenStream.outlines_program htiled program hahead (ofStream s) rfl rfl
  have hend : last.atEnd = true := by
    rw [atEnd, hstream, hplace]
    exact TokenStream.ahead_eq_nil.mp (TokenStream.ahead_nth_add hahead)
  have houtline : (ofStream s).outline = last := by
    rw [outline, hrun, outlineFrom_of_atEnd _ hend]
  rw [houtline, hnodes, hblocks]
  rfl

/-- The body of a function in a condition is a block of the outline, before that of the `then`. -/
theorem nodes_outline_program_conditional :
    let s : TokenStream := ⟨"if function() end then y end",
      #[⟨kwIf, 0, 2⟩, ⟨whitespace, 2, 1⟩, ⟨kwFunction, 3, 8⟩, ⟨leftParen, 11, 1⟩,
        ⟨rightParen, 12, 1⟩, ⟨whitespace, 13, 1⟩, ⟨kwEnd, 14, 3⟩, ⟨whitespace, 17, 1⟩,
        ⟨kwThen, 18, 4⟩, ⟨whitespace, 22, 1⟩, ⟨name, 23, 1⟩, ⟨whitespace, 24, 1⟩,
        ⟨kwEnd, 25, 3⟩]⟩
    let program : Program :=
      .conditional (.function [] [] .empty .empty) (.plain ⟨name, rfl⟩ .empty) .none .empty
    s.Tiled ∧ s.significant.map (·.1.kind) = program.kinds ∧
      (ofStream s).outline.nodes.toList =
        [⟨.block, true, 5, 6, 13, 1⟩, ⟨.block, true, 9, 12, 22, 3⟩] := by
  intro s program
  have htiled : s.Tiled := by decide
  have hkinds : s.significant.map (·.1.kind) = program.kinds := by decide
  have hblocks : (program.extents 0).mapM s.blockBetween? =
      some [⟨.block, true, 5, 6, 13, 1⟩, ⟨.block, true, 9, 12, 22, 3⟩] := by decide
  refine ⟨htiled, hkinds, Option.some.inj ?_⟩
  rw [← nodes_outline_program s htiled program hkinds, hblocks]

end Cursor

end LuaFold
