import Mathlib.Order.Interval.Set.Basic
import LuaFold.Proofs.FoldOutcome
import LuaFold.Proofs.RunInvariants

/-! The nodes that a client finishes, if it closes the innermost marker first. Trivia apart, each
node is after the ones finished before it or around them. The nodes lie in layers, one for each
marker held, and what closes a marker acts on the topmost layer only. -/

namespace LuaFold

/-! ### The core of a node -/

namespace TokenStream

/-- The tokens from `start` up to `stop` that are not trivia, by their indices. -/
def significantIn (s : TokenStream) (start stop : Nat) : Set Nat :=
  { i | start ≤ i ∧ i < stop ∧ ∃ t, s.tokens[i]? = some t ∧ t.isTrivia = false }

/-- The tokens of a node that are not trivia, by their indices. -/
def core (s : TokenStream) (n : Node) : Set Nat :=
  s.significantIn n.tokenStart n.tokenEnd

/-- The tokens of `m` come before those of `n`, trivia apart. -/
def Before (s : TokenStream) (m n : Node) : Prop :=
  ∀ i ∈ s.core m, ∀ j ∈ s.core n, i < j

/-- The node `n` is after `m` or around it, trivia apart. If it is collapsed, it is after `m`. -/
def AfterOrAround (s : TokenStream) (m n : Node) : Prop :=
  (s.Before m n ∨ s.core m ⊆ s.core n) ∧ (n.collapsed = true → s.Before m n)

section

variable {s : TokenStream} {m n : Node} {start stop : Nat}

theorem before_of_subset_Iio (hm : s.core m ⊆ Set.Iio start)
    (hn : s.core n = s.significantIn start stop) : s.Before m n := by
  intro i hi j hj
  rw [hn] at hj
  exact Nat.lt_of_lt_of_le (hm hi) hj.1

theorem core_subset_of_subset_Ico (hm : s.core m ⊆ Set.Ico start stop)
    (hn : s.core n = s.significantIn start stop) : s.core m ⊆ s.core n := by
  intro i hi
  obtain ⟨hstart, hstop⟩ := hm hi
  rw [hn]
  exact ⟨hstart, hstop, hi.2.2⟩

end

end TokenStream

namespace Cursor

variable {c : Cursor} {m : Marker}

theorem tokenStart_nodeFrom (kind : NodeKind) (collapsed : Bool) (hm : c.stream.IsPlace m.place) :
    m.place.consumed ≤ (c.nodeFrom m kind collapsed).tokenStart ∧
      (c.nodeFrom m kind collapsed).tokenStart ≤ m.place.index := by
  have hsize := hm.index_le_size
  have hle := hm.consumed_le_index
  have hcut := m.left.cutBefore_le (c.stream.kinds m.place.consumed m.place.index)
  rw [TokenStream.length_kinds hsize] at hcut
  simp only [nodeFrom, Nat.min_eq_left hsize, hm.triviaStart_index]
  omega

theorem tokenEnd_nodeFrom (kind : NodeKind) (collapsed : Bool) (hc : c.stream.IsPlace c.place)
    (hle : m.place.index ≤ c.place.index) :
    c.place.consumed ≤ (c.nodeFrom m kind collapsed).tokenEnd ∧
      (c.nodeFrom m kind collapsed).tokenEnd ≤ c.place.index := by
  have hsize := hc.index_le_size
  have hconsumed := hc.consumed_le_index
  let coreEnd := max c.place.consumed m.place.index
  let rightEnd := if m.place.index < coreEnd then c.stream.skipTrivia coreEnd else coreEnd
  have hright : coreEnd ≤ rightEnd ∧ rightEnd ≤ c.place.index := by
    simp only [rightEnd]
    split
    · -- the trivia after the last token consumed goes up to the cursor
      rename_i hlt
      have hcore : coreEnd = c.place.consumed := by omega
      rw [hcore, ← hc.index_eq]
      exact ⟨hconsumed, Nat.le_refl _⟩
    · omega
  have hcut := m.right.cutAfter_le (c.stream.kinds coreEnd rightEnd)
  rw [TokenStream.length_kinds (by omega)] at hcut
  have hend : (c.nodeFrom m kind collapsed).tokenEnd =
      coreEnd + m.right.cutAfter (c.stream.kinds coreEnd rightEnd) := by
    simp only [nodeFrom, Nat.min_eq_left (Nat.le_trans hle hsize), coreEnd, rightEnd]
  rw [hend]
  omega

/-- Whatever becomes of the trivia at its edges, a node has the tokens from its marker to the
cursor. -/
theorem core_nodeFrom (kind : NodeKind) (collapsed : Bool) (hm : c.stream.IsPlace m.place)
    (hc : c.stream.IsPlace c.place) (hle : m.place.index ≤ c.place.index) :
    c.stream.core (c.nodeFrom m kind collapsed) =
      c.stream.significantIn m.place.index c.place.index := by
  obtain ⟨hstart, hstart'⟩ := tokenStart_nodeFrom kind collapsed hm
  obtain ⟨hstop, hstop'⟩ := tokenEnd_nodeFrom kind collapsed hc hle
  ext i
  constructor
  · rintro ⟨hi, hilt, t, ht, htrivia⟩
    refine ⟨?_, by omega, t, ht, htrivia⟩
    by_contra hlt
    rw [hm.isTrivia_of_lt (by omega) (by omega) ht] at htrivia
    cases htrivia
  · rintro ⟨hi, hilt, t, ht, htrivia⟩
    refine ⟨by omega, ?_, t, ht, htrivia⟩
    by_contra hlt
    rw [hc.isTrivia_of_lt (by omega) (by omega) ht] at htrivia
    cases htrivia

end Cursor

/-! ### Layers -/

/-- The nodes finished before `stop` lie in layers: those finished since a marker was taken are over
tokens from that marker on, and the older ones are before it. -/
inductive Layered (s : TokenStream) : Nat → List Node → List Marker → Prop
  | bottom {stop : Nat} {nodes : List Node} (inside : ∀ n ∈ nodes, s.core n ⊆ Set.Iio stop) :
    Layered s stop nodes []
  | layer {stop : Nat} {older newer : List Node} {m : Marker} {held : List Marker}
    (below : Layered s m.place.index older held) (count : m.nodeCount = older.length)
    (le : m.place.index ≤ stop) (inside : ∀ n ∈ newer, s.core n ⊆ Set.Ico m.place.index stop) :
    Layered s stop (older ++ newer) (m :: held)

namespace Layered

variable {s : TokenStream} {start stop : Nat} {nodes more : List Node} {held : List Marker}

theorem exists_layer {m : Marker} (h : Layered s stop nodes (m :: held)) :
    ∃ older newer, nodes = older ++ newer ∧ Layered s m.place.index older held ∧
      m.nodeCount = older.length ∧ m.place.index ≤ stop ∧
      ∀ n ∈ newer, s.core n ⊆ Set.Ico m.place.index stop := by
  cases h with
  | layer below count le inside => exact ⟨_, _, rfl, below, count, le, inside⟩

theorem core_subset_Iio (h : Layered s stop nodes held) : ∀ n ∈ nodes, s.core n ⊆ Set.Iio stop := by
  induction h with
  | bottom inside => exact inside
  | layer below count le inside ih =>
    intro n hn
    rcases List.mem_append.mp hn with hn | hn
    · exact (ih n hn).trans (Set.Iio_subset_Iio le)
    · exact (inside n hn).trans Set.Ico_subset_Iio_self

/-- More nodes come into the topmost layer. -/
theorem extend (h : Layered s start nodes held) (hle : start ≤ stop)
    (hmore : ∀ n ∈ more, s.core n ⊆ Set.Ico start stop) : Layered s stop (nodes ++ more) held := by
  cases h with
  | bottom inside =>
    refine .bottom fun n hn => ?_
    rcases List.mem_append.mp hn with hn | hn
    · exact (inside n hn).trans (Set.Iio_subset_Iio hle)
    · exact (hmore n hn).trans Set.Ico_subset_Iio_self
  | @layer _ older newer m held below count le inside =>
    rw [List.append_assoc]
    refine .layer below count (Nat.le_trans le hle) fun n hn => ?_
    rcases List.mem_append.mp hn with hn | hn
    · exact (inside n hn).trans (Set.Ico_subset_Ico_right hle)
    · exact (hmore n hn).trans (Set.Ico_subset_Ico_left le)

theorem move (h : Layered s start nodes held) (hle : start ≤ stop) : Layered s stop nodes held := by
  have hmove := h.extend hle (List.forall_mem_nil _)
  rwa [List.append_nil] at hmove

theorem mark (h : Layered s stop nodes held) {m : Marker} (hplace : m.place.index = stop)
    (hcount : m.nodeCount = nodes.length) : Layered s stop nodes (m :: held) := by
  subst hplace
  have hmark := Layered.layer h hcount (Nat.le_refl _) (List.forall_mem_nil _)
  rwa [List.append_nil] at hmark

theorem setEdges (h : Layered s stop nodes held) (depth : Nat) (left right : EdgeTrivia) :
    Layered s stop nodes (held.modify depth (·.withEdges left right)) := by
  induction h generalizing depth with
  | bottom inside =>
    rw [List.modify_nil]
    exact .bottom inside
  | @layer stop older newer m held below count le inside ih =>
    cases depth with
    | zero => exact .layer (m := m.withEdges left right) below count le inside
    | succ depth => exact .layer (ih depth) count le inside

end Layered

/-! ### Runs -/

namespace Client

/-- What holds of a client that closes the innermost marker first: the cursor and its markers are in
`s`, the nodes lie in layers, and each is after the older ones or around them. -/
structure Grown (s : TokenStream) (a : Client) : Prop where
  placed : Placed s a
  layers : Layered s a.cursor.place.index a.cursor.nodes.toList a.held
  forest : a.cursor.nodes.toList.Pairwise s.AfterOrAround

namespace Grown

variable {s : TokenStream} {a : Client} {c : Cursor} {m : Marker} {held : List Marker} {taken : Nat}

theorem ofStream (s : TokenStream) : Grown s (.ofStream s) :=
  ⟨.ofStream s, .bottom (List.forall_mem_nil _), .nil⟩

theorem advance (ha : Grown s ⟨c, held, taken⟩) : Grown s ⟨c.advance, held, taken⟩ :=
  ⟨ha.placed.move (.advance c held taken), ha.layers.move (c.stream.index_le_advance c.place),
    ha.forest⟩

theorem mark (ha : Grown s ⟨c, held, taken⟩) :
    Grown s ⟨c.mark.2, c.mark.1 :: held, taken + 1⟩ :=
  ⟨ha.placed.move (.mark c held taken), ha.layers.mark rfl rfl, ha.forest⟩

theorem report (ha : Grown s ⟨c, held, taken⟩) (result : SearchResult) :
    Grown s ⟨c.reportFailure result, held, taken⟩ := by
  refine ⟨ha.placed.move (.report c result held taken), ?_, ?_⟩
  · simp only [c.place_reportFailure, c.nodes_reportFailure]
    exact ha.layers
  · simp only [c.nodes_reportFailure]
    exact ha.forest

theorem toList_shrink {nodes : Array Node} {older newer : List Node} {count : Nat}
    (hnodes : nodes.toList = older ++ newer) (hcount : count = older.length) :
    (nodes.shrink count).toList = older := by
  rw [Array.toList_shrink, hnodes, hcount, List.take_left]

theorem rollback (ha : Grown s ⟨c, m :: held, taken⟩) : Grown s ⟨c.rollback m, held, taken⟩ := by
  obtain ⟨older, newer, hnodes, below, hcount, -, -⟩ := ha.layers.exists_layer
  have hforest : (older ++ newer).Pairwise s.AfterOrAround := hnodes ▸ ha.forest
  have hnodes' : (c.rollback m).nodes.toList = older := toList_shrink hnodes hcount
  refine ⟨ha.placed.move (.rollback c [] m held taken), ?_, ?_⟩
  · simp only [hnodes']
    exact below
  · simp only [hnodes']
    exact (List.pairwise_append.mp hforest).1

theorem release (ha : Grown s ⟨c, m :: held, taken⟩) : Grown s ⟨c.release m, held, taken⟩ := by
  obtain ⟨older, newer, hnodes, below, -, hle, hinside⟩ := ha.layers.exists_layer
  refine ⟨ha.placed.move (.release c [] m held taken), ?_, ha.forest⟩
  show Layered s c.place.index c.nodes.toList held
  rw [show c.nodes.toList = older ++ newer from hnodes]
  exact below.extend hle hinside

theorem finish (ha : Grown s ⟨c, m :: held, taken⟩) (kind : NodeKind) (collapsed : Bool) :
    Grown s ⟨c.finish m kind collapsed, held, taken⟩ := by
  obtain ⟨older, newer, hnodes, below, hcount, hle, hinside⟩ := ha.layers.exists_layer
  have hplaced := ha.placed.move (.finish c [] m held taken kind collapsed)
  obtain ⟨rfl, hplace, hheld⟩ := ha.placed
  have hforest : (older ++ newer).Pairwise c.stream.AfterOrAround := hnodes ▸ ha.forest
  let node := c.nodeFrom m kind collapsed
  have hcore : c.stream.core node = c.stream.significantIn m.place.index c.place.index :=
    Cursor.core_nodeFrom kind collapsed (hheld m List.mem_cons_self) hplace hle
  have hnode : c.stream.core node ⊆ Set.Ico m.place.index c.place.index := by
    rw [hcore]
    exact fun i hi => ⟨hi.1, hi.2.1⟩
  have hbefore (n : Node) (hn : n ∈ older) : c.stream.Before n node :=
    TokenStream.before_of_subset_Iio (below.core_subset_Iio n hn) hcore
  cases collapsed with
  | true =>
    -- the topmost layer goes, and the node takes its place
    have hnodes' : (c.finish m kind true).nodes.toList = older ++ [node] := by
      rw [Cursor.nodes_finish_collapsed, Array.toList_push, toList_shrink hnodes hcount]
    refine ⟨hplaced, ?_, ?_⟩
    · simp only [hnodes']
      exact below.extend hle (List.forall_mem_singleton.mpr hnode)
    · simp only [hnodes']
      refine List.pairwise_append.mpr ⟨(List.pairwise_append.mp hforest).1,
        List.pairwise_singleton _ node, fun n hn n' hn' => ?_⟩
      obtain rfl := List.mem_singleton.mp hn'
      exact ⟨.inl (hbefore n hn), fun _ => hbefore n hn⟩
  | false =>
    -- the topmost layer joins the one below it, and the node is around it
    have hnodes' : (c.finish m kind false).nodes.toList = older ++ (newer ++ [node]) := by
      show (c.nodes.push node).toList = _
      rw [Array.toList_push, ← List.append_assoc, ← hnodes]
    refine ⟨hplaced, ?_, ?_⟩
    · simp only [hnodes']
      refine below.extend hle fun n hn => ?_
      rcases List.mem_append.mp hn with hn | hn
      · exact hinside n hn
      · rwa [List.mem_singleton.mp hn]
    · simp only [hnodes', ← List.append_assoc]
      refine List.pairwise_append.mpr ⟨hforest, List.pairwise_singleton _ node,
        fun n hn n' hn' => ?_⟩
      obtain rfl := List.mem_singleton.mp hn'
      refine ⟨?_, fun hcollapsed => nomatch hcollapsed⟩
      rcases List.mem_append.mp hn with hn | hn
      · exact .inl (hbefore n hn)
      · exact .inr (TokenStream.core_subset_of_subset_Ico (hinside n hn) hcore)

theorem perform (ha : Grown s a) (op : Op) : Grown s (a.perform op) := by
  obtain ⟨c, held, taken⟩ := a
  cases op with
  | advance => exact ha.advance
  | mark => exact ha.mark
  | setEdges depth left right =>
    exact ⟨ha.placed.moves (moves_perform _ (.setEdges depth left right)),
      ha.layers.setEdges depth left right, ha.forest⟩
  | rollback =>
    cases held with
    | nil => exact ha
    | cons m held => exact ha.rollback
  | release =>
    cases held with
    | nil => exact ha
    | cons m held => exact ha.release
  | finish kind collapsed =>
    cases held with
    | nil => exact ha
    | cons m held => exact ha.finish kind collapsed
  | report result => exact ha.report result

theorem performAll (ha : Grown s a) (ops : List Op) : Grown s (a.performAll ops) := by
  induction ops generalizing a with
  | nil => exact ha
  | cons op ops ih => exact ih (ha.perform op)

/-- A run of any operations in order, probes and folds among them. -/
theorem run {b : Client} {acts : List Act} (ha : Grown s a) (h : Run a acts b)
    (hacts : Act.AllInOrder acts) : Grown s b := by
  obtain ⟨ops, hops⟩ := h.exists_ops hacts
  have hb : a.performAll ops = b := by simpa [above] using hops []
  exact hb ▸ ha.performAll ops

end Grown

theorem Run.forest {s : TokenStream} {acts : List Act} {b : Client} (h : Run (.ofStream s) acts b)
    (hacts : Act.AllInOrder acts) : b.cursor.nodes.toList.Pairwise s.AfterOrAround :=
  ((Grown.ofStream s).run h hacts).forest

/-- Whatever a client does that closes the innermost marker first, the nodes that it has finished
are a forest in the order of completion: trivia apart, each node is after any older one or around
it, and a collapsed node is after all older ones. -/
theorem forest_performAll (s : TokenStream) (ops : List Op) :
    ((ofStream s).performAll ops).cursor.nodes.toList.Pairwise s.AfterOrAround :=
  ((Grown.ofStream s).performAll ops).forest

end Client

end LuaFold
