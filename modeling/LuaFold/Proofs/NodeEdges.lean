import LuaFold.Lexer.Basic
import LuaFold.Proofs.NodeForest
import LuaFold.Proofs.Slices

/-! The edges of the nodes that a client finishes, if it closes the innermost marker first. A node
is over the tokens that were consumed since its marker was taken and not given back, with none but
trivia around them. Its span is a part of the text, even if the spans of the tokens overlap or run
backwards. -/

namespace LuaFold

namespace TokenStream

variable {s : TokenStream} {p q r : Place} {indices more : List Nat} {i : Nat}

/-! ### Tokens consumed -/

/-- From the place `p` to the place `q`, the tokens with these indices are consumed in this order.
-/
inductive Consumes (s : TokenStream) (p : Place) : List Nat → Place → Prop
  | nil : Consumes s p [] p
  | concat {indices : List Nat} {q : Place} (init : Consumes s p indices q)
    (last : s.atEnd q = false) : Consumes s p (indices ++ [q.index]) (s.advance q)

namespace Consumes

theorem trans (h : s.Consumes p indices q) (h' : s.Consumes q more r) :
    s.Consumes p (indices ++ more) r := by
  induction h' with
  | nil => rwa [List.append_nil]
  | concat _ last ih =>
    rw [← List.append_assoc]
    exact ih.concat last

theorem index_le (h : s.Consumes p indices q) : p.index ≤ q.index := by
  induction h with
  | nil => exact Nat.le_refl _
  | concat _ _ ih => exact Nat.le_trans ih (s.index_le_advance _)

theorem isPlace (h : s.Consumes p indices q) (hp : s.IsPlace p) : s.IsPlace q := by
  induction h with
  | nil => exact hp
  | concat _ _ ih => exact ih.advance

theorem eq_of_nil (h : s.Consumes p [] q) : q = p := by
  generalize hnil : ([] : List Nat) = indices at h
  cases h with
  | nil => rfl
  | concat _ _ => simp at hnil

theorem consumed_eq (h : s.Consumes p indices q) (hlast : indices.getLast? = some i) :
    q.consumed = i + 1 := by
  cases h with
  | nil => cases hlast
  | concat _ last =>
    rw [List.getLast?_concat, Option.some.injEq] at hlast
    rw [advance_of_not_atEnd last, hlast]

end Consumes

theorem mem_significantIn_advance (hq : s.IsPlace q) (hend : s.atEnd q = false) {start : Nat}
    (hle : start ≤ q.index) :
    i ∈ s.significantIn start (s.advance q).index ↔
      i ∈ s.significantIn start q.index ∨ i = q.index := by
  have hadv := advance_of_not_atEnd hend
  have hlt := index_lt_advance hend
  constructor
  · rintro ⟨hstart, hi, t, ht, hsignificant⟩
    rcases Nat.lt_trichotomy i q.index with hlt | heq | hgt
    · exact .inl ⟨hstart, hlt, t, ht, hsignificant⟩
    · exact .inr heq
    · -- after the token consumed there is only trivia up to the next place
      have htrivia := hq.advance.isTrivia_of_lt (by rw [hadv]; exact hgt) hi ht
      rw [hsignificant] at htrivia
      cases htrivia
  · rintro (⟨hstart, hi, hsignificant⟩ | rfl)
    · exact ⟨hstart, Nat.lt_trans hi hlt, hsignificant⟩
    · have ht := Array.getElem?_eq_getElem (index_lt_size hend)
      exact ⟨hle, hlt, _, ht, hq.not_isTrivia ht⟩

theorem Consumes.mem_iff (h : s.Consumes p indices q) (hp : s.IsPlace p) :
    i ∈ indices ↔ i ∈ s.significantIn p.index q.index := by
  induction h with
  | nil =>
    simp only [List.not_mem_nil, false_iff]
    rintro ⟨hstart, hstop, -⟩
    omega
  | concat init last ih =>
    rw [List.mem_append, List.mem_singleton, ih,
      mem_significantIn_advance (init.isPlace hp) last init.index_le]

/-! ### The text of a block -/

/-- Every token starts and ends between two characters of the text, or at an end of it. -/
def SpansValid (s : TokenStream) : Prop :=
  ∀ t ∈ s.tokens, String.Pos.Raw.IsValid s.text ⟨t.span.start⟩ ∧
    String.Pos.Raw.IsValid s.text ⟨t.span.stop⟩

theorem SpansValid.offsetAt (h : s.SpansValid) (i : Nat) :
    String.Pos.Raw.IsValid s.text ⟨s.offsetAt i⟩ := by
  rw [TokenStream.offsetAt]
  split
  · rename_i t ht
    exact (h t (Array.mem_of_getElem? ht)).1
  · exact String.Pos.Raw.isValid_rawEndPos

/-- If the last token ends before the first one starts, the block is empty and at its start. -/
theorem SpansValid.blockOver (h : s.SpansValid) (start stop : Nat) :
    String.Pos.Raw.IsValid s.text ⟨(s.blockOver start stop).span.start⟩ ∧
      String.Pos.Raw.IsValid s.text ⟨(s.blockOver start stop).span.stop⟩ := by
  have hfirst := h.offsetAt start
  have hends (last : Nat) (hlast : String.Pos.Raw.IsValid s.text ⟨last⟩) :
      String.Pos.Raw.IsValid s.text ⟨(Span.ofOffsets (s.offsetAt start) last).stop⟩ := by
    rcases Nat.le_total (s.offsetAt start) last with hle | hle
    · rwa [Span.stop_ofOffsets hle]
    · have hstop : (Span.ofOffsets (s.offsetAt start) last).stop = s.offsetAt start := by
        simp [Span.ofOffsets, Span.stop, Nat.sub_eq_zero_of_le hle]
      rwa [hstop]
  refine ⟨hfirst, hends _ ?_⟩
  split
  · split
    · rename_i t ht
      exact (h t (Array.mem_of_getElem? ht)).2
    · exact hfirst
  · exact hfirst

end TokenStream

/-- The texts of tokens that cover a stretch of the text are the parts of that stretch. -/
theorem Tiles.exists_parts {text : String} {ts : List Token} {before rest : List Char} {stop : Nat}
    (h : Tiles (String.utf8Len before) ts stop) (htext : text.toList = before ++ rest)
    (hvalid : ∀ t ∈ ts, String.Pos.Raw.IsValid text ⟨t.span.stop⟩) :
    ∃ (parts : List (List Char)) (after : List Char), rest = parts.flatten ++ after ∧
      stop = String.utf8Len (before ++ parts.flatten) ∧
      ts.mapM (fun t => Text.slice? text t.span) = some (parts.map String.ofList) := by
  induction ts generalizing before rest with
  | nil => exact ⟨[], rest, rfl, by rw [List.flatten_nil, List.append_nil]; exact h.symm, rfl⟩
  | cons t ts ih =>
    obtain ⟨hstart, htail⟩ := h
    obtain ⟨hcut, hvalid⟩ := List.forall_mem_cons.mp hvalid
    rw [Span.stop, hstart] at hcut
    obtain ⟨part, after, rfl, hlength⟩ := Text.exists_part_of_isValid htext hcut
    have hslice : Text.slice? text t.span = some (String.ofList part) := by
      have hspan : t.span = ⟨String.utf8Len before, String.utf8Len part⟩ := by
        rw [← hstart, hlength]
      rw [hspan]
      exact Text.slice?_of_toList_eq htext
    rw [Span.stop, hstart, ← hlength, ← String.utf8Len_append] at htail
    rw [← List.append_assoc] at htext
    obtain ⟨parts, after', rfl, rfl, hparts⟩ := ih htail htext hvalid
    refine ⟨part :: parts, after', ?_, ?_, ?_⟩
    · rw [List.flatten_cons, List.append_assoc]
    · rw [List.flatten_cons, List.append_assoc]
    · rw [List.mapM_cons, hslice, hparts]
      rfl

/-- The text of a block of tokens that leave no gaps is that of the tokens one after another. -/
theorem TokenStream.Tiled.slice?_blockOver {s : TokenStream} (h : s.Tiled) (hvalid : s.SpansValid)
    {start stop : Nat} (hle : start ≤ stop) (hstop : stop ≤ s.tokens.size) :
    ∃ parts, (s.tokens.extract start stop).toList.mapM (fun t => Text.slice? s.text t.span) =
        some parts ∧
      Text.slice? s.text (s.blockOver start stop).span = some (String.join parts) := by
  obtain ⟨before, rest, htext, hbefore⟩ := Text.exists_split_of_isValid (hvalid.offsetAt start)
  have htiles := h.tiles_extract hle
  rw [← hbefore] at htiles
  have hcuts : ∀ t ∈ (s.tokens.extract start stop).toList,
      String.Pos.Raw.IsValid s.text ⟨t.span.stop⟩ := by
    intro t ht
    rw [Array.toList_extract, List.extract_eq_take_drop] at ht
    exact (hvalid t (Array.mem_toList_iff.mp (List.mem_of_mem_drop (List.mem_of_mem_take ht)))).2
  obtain ⟨parts, after, rfl, hend, hparts⟩ := htiles.exists_parts htext hcuts
  refine ⟨_, hparts, ?_⟩
  rw [h.blockOver_eq_foldedBlock hle hstop]
  have hspan : (s.foldedBlock start stop).span =
      ⟨String.utf8Len before, String.utf8Len parts.flatten⟩ := by
    rw [foldedBlock, Span.ofOffsets, hend, ← hbefore, String.utf8Len_append,
      Nat.add_sub_cancel_left]
  have hjoin : String.ofList parts.flatten = String.join (parts.map String.ofList) := by
    rw [← String.toList_inj, String.toList_join, List.flatMap_map, String.toList_ofList]
    simp [List.flatMap]
  rw [hspan, Text.slice?_of_toList_eq htext, hjoin]

/-! ### The edges of a node -/

/-- The node has the tokens `consumed` from the index `start` on and none but trivia around them. -/
structure WellEdged (s : TokenStream) (start : Nat) (consumed : List Nat) (n : Node) : Prop where
  le : n.tokenStart ≤ n.tokenEnd
  le_size : n.tokenEnd ≤ s.tokens.size
  core : ∀ i, i ∈ s.core n ↔ i ∈ consumed
  start_le : n.tokenStart ≤ start
  /-- What the node has before `start` is the end of the trivia there. -/
  left : ∀ i, n.tokenStart ≤ i → i < start → ∃ t, s.tokens[i]? = some t ∧ t.isTrivia = true
  /-- A node without tokens of its own has nothing after `start`. -/
  empty : consumed = [] → n.tokenEnd = start
  /-- What the node has after the last token consumed is the start of the trivia there. -/
  right : ∀ last ∈ consumed.getLast?, last < n.tokenEnd ∧
    ∀ i, last < i → i < n.tokenEnd → ∃ t, s.tokens[i]? = some t ∧ t.isTrivia = true

theorem TokenStream.IsPlace.exists_trivia {s : TokenStream} {p : Place} (hp : s.IsPlace p) {i : Nat}
    (hi : p.consumed ≤ i) (hlt : i < p.index) : ∃ t, s.tokens[i]? = some t ∧ t.isTrivia = true := by
  have ht := Array.getElem?_eq_getElem (Nat.lt_of_lt_of_le hlt hp.index_le_size)
  exact ⟨_, ht, hp.isTrivia_of_lt hi hlt ht⟩

namespace Cursor

variable {c : Cursor} {m : Marker}

theorem index_le_tokenEnd_nodeFrom (kind : NodeKind) (collapsed : Bool)
    (hm : c.stream.IsPlace m.place) : m.place.index ≤ (c.nodeFrom m kind collapsed).tokenEnd := by
  simp only [nodeFrom, Nat.min_eq_left hm.index_le_size]
  omega

theorem wellEdged_nodeFrom (kind : NodeKind) (collapsed : Bool) (hm : c.stream.IsPlace m.place)
    {consumed : List Nat} (h : c.stream.Consumes m.place consumed c.place) :
    WellEdged c.stream m.place.index consumed (c.nodeFrom m kind collapsed) := by
  have hc : c.stream.IsPlace c.place := h.isPlace hm
  have hle : m.place.index ≤ c.place.index := h.index_le
  obtain ⟨hleft, hstart⟩ := tokenStart_nodeFrom (c := c) kind collapsed hm
  obtain ⟨hright, hend⟩ := tokenEnd_nodeFrom kind collapsed hc hle
  have hindex := index_le_tokenEnd_nodeFrom (c := c) kind collapsed hm
  refine ⟨Nat.le_trans hstart hindex, Nat.le_trans hend hc.index_le_size, fun i => ?_, hstart,
    fun i hi hlt => ?_, fun hempty => ?_, fun last hlast => ?_⟩
  · rw [core_nodeFrom kind collapsed hm hc hle, h.mem_iff hm]
  · exact hm.exists_trivia (Nat.le_trans hleft hi) hlt
  · subst hempty
    rw [h.eq_of_nil] at hend
    exact Nat.le_antisymm hend hindex
  · have hconsumed := h.consumed_eq hlast
    refine ⟨by omega, fun i hi hlt => ?_⟩
    exact hc.exists_trivia (by omega) (Nat.lt_of_lt_of_le hlt hend)

end Cursor

/-! ### What a client has consumed -/

/-- The tokens that lead to a place, in layers: each layer was consumed since a marker was taken and
before the next one was, and the last one before any marker held. -/
inductive Trail (s : TokenStream) : Place → List (List Nat) → List Marker → Prop
  | bottom {p : Place} {consumed : List Nat} (h : s.Consumes s.first consumed p) :
    Trail s p [consumed] []
  | layer {p : Place} {consumed : List Nat} {older : List (List Nat)} {m : Marker}
    {held : List Marker} (below : Trail s m.place older held) (h : s.Consumes m.place consumed p) :
    Trail s p (consumed :: older) (m :: held)

namespace Trail

variable {s : TokenStream} {p q : Place} {consumed more : List Nat} {older : List (List Nat)}
  {held : List Marker} {m : Marker}

/-- More tokens come into the topmost layer. -/
theorem extend (h : Trail s p (consumed :: older) held) (hmore : s.Consumes p more q) :
    Trail s q ((consumed ++ more) :: older) held := by
  cases h with
  | bottom h => exact .bottom (h.trans hmore)
  | layer below h => exact .layer below (h.trans hmore)

theorem exists_layer (h : Trail s p older (m :: held)) :
    ∃ consumed below older', older = consumed :: below :: older' ∧
      Trail s m.place (below :: older') held ∧ s.Consumes m.place consumed p := by
  cases h with
  | layer below h =>
    cases below with
    | bottom h' => exact ⟨_, _, _, rfl, .bottom h', h⟩
    | layer below h' => exact ⟨_, _, _, rfl, .layer below h', h⟩

theorem setEdges (h : Trail s p older held) (depth : Nat) (left right : EdgeTrivia) :
    Trail s p older (held.modify depth (·.withEdges left right)) := by
  induction h generalizing depth with
  | bottom h =>
    rw [List.modify_nil]
    exact .bottom h
  | @layer p consumed older m held below h ih =>
    cases depth with
    | zero => exact .layer (m := m.withEdges left right) below h
    | succ depth => exact .layer (ih depth) h

end Trail

namespace Client

/-- The tokens that a client has consumed and not given back, in layers, after one more operation.
The topmost layer was consumed since the innermost marker was taken. A rollback gives it back, and
another end of the marker leaves its tokens to the layer below. -/
def Op.layers (c : Cursor) (layers : List (List Nat)) : Op → List (List Nat)
  | advance =>
    if c.atEnd then layers else layers.modifyHead (· ++ [c.place.index])
  | mark => [] :: layers
  | setEdges _ _ _ | report _ => layers
  | rollback =>
    match layers with
    | _ :: below :: older => below :: older
    | _ => layers
  | release | finish _ _ =>
    match layers with
    | consumed :: below :: older => (below ++ consumed) :: older
    | _ => layers

/-- The layers after operations, one after another. -/
def layersFrom (a : Client) (layers : List (List Nat)) : List Op → List (List Nat)
  | [] => layers
  | op :: ops => (a.perform op).layersFrom (op.layers a.cursor layers) ops

/-- The tokens that a client of a new cursor has consumed since its innermost marker was taken and
not given back, by their indices. -/
def recent (s : TokenStream) (ops : List Op) : List Nat :=
  ((ofStream s).layersFrom [[]] ops).headD []

/-- The client is in `s` and has come to its place along the trail of `layers`. -/
structure Trailed (s : TokenStream) (layers : List (List Nat)) (a : Client) : Prop where
  placed : Placed s a
  trail : Trail s a.cursor.place layers a.held

namespace Trailed

variable {s : TokenStream} {layers : List (List Nat)} {a : Client} {c : Cursor} {m : Marker}
  {held : List Marker} {taken : Nat}

theorem ofStream (s : TokenStream) : Trailed s [[]] (.ofStream s) :=
  ⟨.ofStream s, .bottom .nil⟩

theorem advance (ha : Trailed s layers ⟨c, held, taken⟩) :
    Trailed s (Op.advance.layers c layers) ⟨c.advance, held, taken⟩ := by
  refine ⟨ha.placed.move (.advance c held taken), ?_⟩
  obtain rfl : c.stream = s := ha.placed.stream
  have htrail : Trail c.stream c.place layers held := ha.trail
  cases hend : c.atEnd with
  | true =>
    have hstay : c.advance.place = c.place := TokenStream.advance_of_atEnd hend
    simp only [Op.layers, hend, if_true, hstay]
    exact htrail
  | false =>
    obtain ⟨consumed, older, rfl⟩ : ∃ consumed older, layers = consumed :: older := by
      cases htrail <;> exact ⟨_, _, rfl⟩
    simp only [Op.layers, hend]
    exact htrail.extend (TokenStream.Consumes.nil.concat hend)

theorem close (ha : Trailed s layers ⟨c, m :: held, taken⟩) :
    Trailed s (Op.release.layers c layers) ⟨c.release m, held, taken⟩ := by
  refine ⟨ha.placed.move (.release c [] m held taken), ?_⟩
  obtain ⟨consumed, below, older, rfl, hbelow, h⟩ := ha.trail.exists_layer
  exact hbelow.extend h

theorem rollback (ha : Trailed s layers ⟨c, m :: held, taken⟩) :
    Trailed s (Op.rollback.layers c layers) ⟨c.rollback m, held, taken⟩ := by
  refine ⟨ha.placed.move (.rollback c [] m held taken), ?_⟩
  obtain ⟨consumed, below, older, rfl, hbelow, -⟩ := ha.trail.exists_layer
  exact hbelow

theorem perform (ha : Trailed s layers a) (op : Op) :
    Trailed s (op.layers a.cursor layers) (a.perform op) := by
  have hplaced := ha.placed.moves (moves_perform a op)
  obtain ⟨c, held, taken⟩ := a
  cases op with
  | advance => exact ha.advance
  | mark => exact ⟨hplaced, .layer ha.trail .nil⟩
  | setEdges depth left right => exact ⟨hplaced, ha.trail.setEdges depth left right⟩
  | rollback =>
    cases held with
    | nil =>
      cases ha.trail with
      | bottom h => exact ⟨hplaced, .bottom h⟩
    | cons m held => exact ha.rollback
  | release =>
    cases held with
    | nil =>
      cases ha.trail with
      | bottom h => exact ⟨hplaced, .bottom h⟩
    | cons m held => exact ha.close
  | finish kind collapsed =>
    cases held with
    | nil =>
      cases ha.trail with
      | bottom h => exact ⟨hplaced, .bottom h⟩
    | cons m held => exact ⟨hplaced, ha.close.trail⟩
  | report result =>
    refine ⟨hplaced, ?_⟩
    show Trail s (c.reportFailure result).place layers held
    rw [c.place_reportFailure]
    exact ha.trail

theorem performAll (ha : Trailed s layers a) (ops : List Op) :
    Trailed s (a.layersFrom layers ops) (a.performAll ops) := by
  induction ops generalizing a layers with
  | nil => exact ha
  | cons op ops ih => exact ih (ha.perform op)

end Trailed

/-- A node that is finished from the innermost marker has the tokens that were consumed since then
and not given back, and trivia next to them, with either kind of edge on either side. If all tokens
start and end between characters, so does the node, and it has a text. If they cover the text, that
is the text of its tokens. -/
theorem wellEdged_finish (s : TokenStream) (ops : List Op) {m : Marker} {held : List Marker}
    (hheld : ((ofStream s).performAll ops).held = m :: held) (hvalid : s.SpansValid)
    (kind : NodeKind) (collapsed : Bool) :
    let c := ((ofStream s).performAll (ops ++ [.finish kind collapsed])).cursor
    ∃ n, c.nodes.back? = some n ∧ WellEdged s m.place.index (recent s ops) n ∧
      String.Pos.Raw.IsValid s.text ⟨n.span.start⟩ ∧
      String.Pos.Raw.IsValid s.text ⟨n.span.stop⟩ ∧
      ∃ text, c.nodeText? n = some text ∧
        (s.Tiled → ∃ parts, (s.tokens.extract n.tokenStart n.tokenEnd).toList.mapM
          (fun t => Text.slice? s.text t.span) = some parts ∧ text = String.join parts) := by
  intro c
  have htrailed := (Trailed.ofStream s).performAll ops
  obtain ⟨consumed, below, older, hlayers, -, hconsumes⟩ :=
    (hheld ▸ htrailed.trail).exists_layer
  obtain rfl : consumed = recent s ops := by
    rw [recent, hlayers]
    rfl
  have hc : c = ((ofStream s).performAll ops).cursor.finish m kind collapsed := by
    simp only [c, performAll_concat, perform, closeInnermost, hheld]
  obtain ⟨hstream, -, hplaces⟩ := htrailed.placed
  have hm : s.IsPlace m.place := hplaces m (hheld ▸ List.mem_cons_self)
  rw [hc]
  generalize ((ofStream s).performAll ops).cursor = c' at hstream hconsumes ⊢
  generalize recent s ops = consumed at hconsumes ⊢
  subst hstream
  let n := c'.nodeFrom m kind collapsed
  have hedges : WellEdged c'.stream m.place.index consumed n :=
    Cursor.wellEdged_nodeFrom kind collapsed hm hconsumes
  have hspan : n.span = (c'.stream.blockOver n.tokenStart n.tokenEnd).span := rfl
  obtain ⟨hstart, hstop⟩ := hvalid.blockOver n.tokenStart n.tokenEnd
  rw [← hspan] at hstart hstop
  obtain ⟨text, hslice⟩ := Text.exists_slice?_of_isValid hstart hstop
  refine ⟨n, Array.back?_push, hedges, hstart, hstop, text, hslice, fun htiled => ?_⟩
  obtain ⟨parts, hparts, hjoin⟩ := htiled.slice?_blockOver hvalid hedges.le hedges.le_size
  rw [← hspan] at hjoin
  exact ⟨parts, hparts, Option.some.inj (hslice.symm.trans hjoin)⟩

/-- A node with the comment before its marker and without the blank after its token. One more token
is consumed and given back before the node is finished. -/
theorem wellEdged_finish_comment :
    let s : TokenStream := ⟨"a --x\nb c d", lex .lua55 "a --x\nb c d"⟩
    let ops : List Op :=
      [.advance, .mark, .setEdges 0 .leadingComments .outside, .advance, .mark, .advance, .rollback]
    let c := ((ofStream s).performAll (ops ++ [.finish .block false])).cursor
    let n : Node := ⟨.block, false, 2, 5, 2, 5⟩
    s.SpansValid ∧ recent s ops = [4] ∧ c.nodes.back? = some n ∧ WellEdged s 4 [4] n ∧
      s.Tiled ∧ c.nodeText? n = some "--x\nb" := by
  intro s ops c n
  have hvalid : s.SpansValid := by
    unfold TokenStream.SpansValid
    decide +kernel
  have hrecent : recent s ops = [4] := by decide +kernel
  let m : Marker := ⟨0, ⟨4, 1⟩, 0, .leadingComments, .outside⟩
  have hheld : ((ofStream s).performAll ops).held = [m] := by decide +kernel
  obtain ⟨n', hback, hedges, -⟩ := wellEdged_finish s ops hheld hvalid .block false
  have hn : c.nodes.back? = some n := by decide +kernel
  obtain rfl : n' = n := Option.some.inj (hback.symm.trans hn)
  exact ⟨hvalid, hrecent, hn, hrecent ▸ hedges, by decide +kernel, by decide +kernel⟩

end Client

end LuaFold
