import Mathlib.Data.List.Induction
import Mathlib.Data.Nat.ModEq
import LuaFold.Proofs.Operations
import LuaFold.Session

/-! The numbers of markers in runs of any length. A client that closes the innermost marker first
keeps to the order of the cursor until it closes a marker while another one of the same number is
open. Then both leave the open markers. Numbers come again after `UInt32.size` markers. -/

namespace LuaFold

namespace Client

/-! ### Runs with the order of markers checked -/

/-- Refuses an operation that closes a marker which is not the innermost one for the cursor. -/
def check (a : Client) (op : Op) : Except Fault Unit :=
  match a.held with
  | [] => .ok ()
  | m :: _ => if op.closes then a.cursor.requireInnermost m else .ok ()

/-- The client after an operation that is not refused. -/
def attempt (a : Client) (op : Op) : Except Fault Client := do
  a.check op
  return a.perform op

/-- The client after operations, none of which is refused. -/
def attemptAll (a : Client) (ops : List Op) : Except Fault Client :=
  ops.foldlM attempt a

/-- A count of markers: those that are open, the innermost one first, each as the number of markers
taken before it, and how many were taken in all. -/
structure Tally where
  opened : List Nat
  taken : Nat

/-- The count after one more operation. -/
def Tally.add (t : Tally) : Op → Tally
  | .mark => ⟨t.taken :: t.opened, t.taken + 1⟩
  | op => { t with opened := if op.closes then t.opened.tail else t.opened }

/-- The count of the markers that operations take and leave open. -/
def tally (ops : List Op) : Tally :=
  ops.foldl Tally.add ⟨[], 0⟩

/-- No operation is refused, and after each one the cursor has as many open markers as were taken
and not closed. -/
def Disciplined (s : TokenStream) (ops : List Op) : Prop :=
  ∀ before, before <+: ops → ∃ a, (ofStream s).attemptAll before = .ok a ∧
    a.cursor.openMarkers.length = (tally before).opened.length

/-- The innermost open marker was taken a multiple of `UInt32.size` markers after another open one.
-/
def Tally.Repeats (t : Tally) : Prop :=
  match t.opened with
  | [] => False
  | first :: rest => ∃ other ∈ rest, UInt32.size ∣ first - other

/-- No marker is closed while another one is open that was taken a multiple of `UInt32.size` markers
before it. -/
def NumbersApart (ops : List Op) : Prop :=
  ∀ before op, before ++ [op] <+: ops → op.closes = true → ¬(tally before).Repeats

theorem attemptAll_concat (a : Client) (ops : List Op) (op : Op) :
    a.attemptAll (ops ++ [op]) = (a.attemptAll ops).bind (attempt · op) := by
  rw [attemptAll, List.foldlM_append]
  show (a.attemptAll ops).bind _ = _
  congr
  funext b
  show (b.attempt op).bind Except.ok = b.attempt op
  cases b.attempt op <;> rfl

theorem tally_concat (ops : List Op) (op : Op) : tally (ops ++ [op]) = (tally ops).add op := by
  simp [tally]

theorem disciplined_concat {s : TokenStream} {ops : List Op} {op : Op} :
    Disciplined s (ops ++ [op]) ↔ Disciplined s ops ∧
      ∃ a, (ofStream s).attemptAll (ops ++ [op]) = .ok a ∧
        a.cursor.openMarkers.length = (tally (ops ++ [op])).opened.length := by
  constructor
  · intro h
    refine ⟨fun before hbefore => h before ?_, h _ List.prefix_rfl⟩
    exact hbefore.trans (List.prefix_append ops [op])
  · rintro ⟨hops, hlast⟩ before hbefore
    rcases List.prefix_concat_iff.mp hbefore with rfl | hbefore
    · exact hlast
    · exact hops before hbefore

theorem numbersApart_concat {ops : List Op} {op : Op} :
    NumbersApart (ops ++ [op]) ↔
      NumbersApart ops ∧ (op.closes = true → ¬(tally ops).Repeats) := by
  constructor
  · intro h
    refine ⟨fun before op' hbefore => h before op' ?_, h ops op List.prefix_rfl⟩
    exact hbefore.trans (List.prefix_append ops [op])
  · rintro ⟨hops, hlast⟩ before op' hbefore
    rcases List.prefix_concat_iff.mp hbefore with heq | hbefore
    · obtain ⟨rfl, hop⟩ := List.append_inj' heq rfl
      cases hop
      exact hlast
    · exact hops before op' hbefore

/-! ### The numbers of the markers held -/

theorem map_modify {α β : Type} {f : α → β} {g : α → α} {h : β → β}
    (hcomm : ∀ a, f (g a) = h (f a)) (l : List α) (i : Nat) :
    (l.modify i g).map f = (l.map f).modify i h := by
  induction l generalizing i with
  | nil => rw [List.modify_nil, List.map_nil, List.modify_nil]
  | cons a l ih =>
    cases i with
    | zero => simp only [List.modify_zero_cons, List.map_cons, hcomm]
    | succ i => rw [List.modify_succ_cons, List.map_cons, List.map_cons, List.modify_succ_cons, ih]

theorem map_id_modify (held : List Marker) (depth : Nat) (left right : EdgeTrivia) :
    (held.modify depth (·.withEdges left right)).map Marker.id = held.map Marker.id := by
  have hids := map_modify (f := Marker.id) (g := (·.withEdges left right)) (h := id) (fun _ => rfl)
    held depth
  rw [hids, List.modify_id]

/-- The markers held are those of the count, and their numbers and the next one are counted up from
0 and start again at the end of the numbers. -/
structure Counted (t : Tally) (a : Client) : Prop where
  held : a.held.map Marker.id = t.opened.map UInt32.ofNat
  next : a.cursor.nextMarker = UInt32.ofNat t.taken
  falling : (t.taken :: t.opened).Pairwise (· > ·)

namespace Counted

variable {t : Tally} {a : Client}

theorem ofStream (s : TokenStream) : Counted ⟨[], 0⟩ (.ofStream s) :=
  ⟨rfl, rfl, List.pairwise_singleton _ 0⟩

theorem close (ha : Counted t a) (act : Cursor → Marker → Cursor)
    (hact : ∀ c m, (act c m).nextMarker = c.nextMarker) :
    Counted ⟨t.opened.tail, t.taken⟩ (a.closeInnermost act) := by
  obtain ⟨c, held, n⟩ := a
  obtain ⟨opened, taken⟩ := t
  obtain ⟨hheld, hnext, hfalling⟩ := ha
  cases held with
  | nil =>
    obtain rfl : opened = [] := List.map_eq_nil_iff.mp hheld.symm
    exact ⟨rfl, hnext, hfalling⟩
  | cons m held =>
    obtain ⟨first, rest, rfl, -, hrest⟩ := List.map_eq_cons_iff.mp hheld.symm
    refine ⟨hrest.symm, (hact c m).trans hnext, ?_⟩
    exact hfalling.sublist ((List.sublist_cons_self first rest).cons_cons taken)

theorem perform (ha : Counted t a) (op : Op) : Counted (t.add op) (a.perform op) := by
  cases op with
  | advance => exact ⟨ha.held, ha.next, ha.falling⟩
  | mark =>
    obtain ⟨hheld, hnext, hfalling⟩ := ha
    refine ⟨?_, ?_, List.pairwise_cons.mpr ⟨?_, hfalling⟩⟩
    · show a.cursor.nextMarker :: a.held.map Marker.id = _
      rw [hnext, hheld]
      rfl
    · show a.cursor.nextMarker + 1 = UInt32.ofNat (t.taken + 1)
      rw [hnext, UInt32.ofNat_add]
      rfl
    · intro k hk
      rcases List.mem_cons.mp hk with rfl | hk
      · exact Nat.lt_succ_self _
      · exact Nat.lt_succ_of_lt (List.rel_of_pairwise_cons hfalling hk)
  | setEdges depth left right =>
    refine ⟨?_, ha.next, ha.falling⟩
    exact (map_id_modify a.held depth left right).trans ha.held
  | rollback => exact ha.close Cursor.rollback fun _ _ => rfl
  | release => exact ha.close Cursor.release fun _ _ => rfl
  | finish kind collapsed =>
    exact ha.close (fun c m => c.finish m kind collapsed) fun _ _ => rfl
  | report result =>
    cases result with
    | ok _ => exact ⟨ha.held, ha.next, ha.falling⟩
    | error e => exact ⟨ha.held, ha.next, ha.falling⟩

theorem performAll (s : TokenStream) (ops : List Op) :
    Counted (tally ops) ((Client.ofStream s).performAll ops) := by
  induction ops using List.reverseRecOn with
  | nil => exact ofStream s
  | append_singleton ops op ih =>
    rw [tally_concat, performAll_concat]
    exact ih.perform op

theorem length_held (ha : Counted t a) : a.held.length = t.opened.length := by
  simpa using congrArg List.length ha.held

theorem id_mem_iff_repeats (ha : Counted t a) {m : Marker} {held : List Marker}
    (hheld : a.held = m :: held) : m.id ∈ held.map Marker.id ↔ t.Repeats := by
  obtain ⟨opened, taken⟩ := t
  obtain ⟨hids, -, hfalling⟩ := ha
  rw [hheld, List.map_cons] at hids
  obtain ⟨first, rest, rfl, hfirst, hrest⟩ := List.map_eq_cons_iff.mp hids.symm
  -- counts tell how far apart two markers were taken, numbers only do so modulo their size
  have hlt : ∀ other ∈ rest, other < first := (List.pairwise_cons.mp hfalling.of_cons).1
  rw [← hfirst, ← hrest]
  simp only [Tally.Repeats, List.mem_map]
  refine exists_congr fun other => and_congr_right fun hother => ?_
  rw [← Nat.modEq_iff_dvd' (Nat.le_of_lt (hlt other hother)), ← UInt32.toNat_inj,
    UInt32.toNat_ofNat', UInt32.toNat_ofNat']
  exact Iff.rfl

end Counted

/-! ### The open markers -/

theorem openMarkers_perform_of_closes {a : Client} {op : Op} (hop : op.closes = true) {m : Marker}
    {held : List Marker} (hheld : a.held = m :: held) :
    (a.perform op).cursor.openMarkers = a.cursor.openMarkers.filter (· != m.id) ∧
      (a.perform op).held = held := by
  obtain ⟨c, _, n⟩ := a
  subst hheld
  cases op with
  | rollback => exact ⟨rfl, rfl⟩
  | release => exact ⟨rfl, rfl⟩
  | finish kind collapsed => exact ⟨rfl, rfl⟩
  | _ => cases hop

theorem perform_of_held_eq_nil {a : Client} {op : Op} (hop : op.closes = true)
    (hheld : a.held = []) : a.perform op = a := by
  cases op with
  | rollback | release | finish => simp only [perform, closeInnermost, hheld]
  | _ => cases hop

/-- The open markers of the cursor are those that the client holds. -/
def InStep (a : Client) : Prop :=
  a.cursor.openMarkers = a.held.map Marker.id

namespace InStep

variable {t : Tally} {a : Client} {op : Op}

theorem check_eq_ok (ha : InStep a) (op : Op) : a.check op = .ok () := by
  unfold check
  split
  · rfl
  · rename_i m held hheld
    have hstack : a.cursor.openMarkers = m.id :: held.map Marker.id := by
      rw [ha, hheld, List.map_cons]
    have hinnermost : a.cursor.isInnermost m = true := by
      simp [Cursor.isInnermost, hstack]
    rw [Cursor.requireInnermost, hinnermost]
    split <;> rfl

theorem attempt_eq_ok (ha : InStep a) (op : Op) : a.attempt op = .ok (a.perform op) := by
  rw [attempt, ha.check_eq_ok]
  rfl

theorem perform_of_not_closes (ha : InStep a) (hop : op.closes = false) :
    InStep (a.perform op) := by
  cases op with
  | advance => exact ha
  | mark => exact congrArg (a.cursor.nextMarker :: ·) ha
  | setEdges depth left right => exact ha.trans (map_id_modify a.held depth left right).symm
  | report result => cases result <;> exact ha
  | _ => cases hop

theorem openMarkers_perform (ha : InStep a) (hop : op.closes = true) {m : Marker}
    {held : List Marker} (hheld : a.held = m :: held) :
    (a.perform op).cursor.openMarkers = (held.map Marker.id).filter (· != m.id) := by
  rw [(openMarkers_perform_of_closes hop hheld).1, ha, hheld, List.map_cons,
    List.filter_cons_of_neg (by simp)]

/-- An operation that closes no marker of a number with another open one leaves all others open. -/
theorem perform (ha : InStep a) (hcounted : Counted t a)
    (hapart : op.closes = true → ¬t.Repeats) : InStep (a.perform op) := by
  cases hop : op.closes with
  | false => exact ha.perform_of_not_closes hop
  | true =>
    cases hheld : a.held with
    | nil => rwa [perform_of_held_eq_nil hop hheld]
    | cons m held =>
      have hfresh : m.id ∉ held.map Marker.id :=
        fun hmem => hapart hop ((hcounted.id_mem_iff_repeats hheld).mp hmem)
      rw [InStep, ha.openMarkers_perform hop hheld, (openMarkers_perform_of_closes hop hheld).2,
        List.filter_eq_self]
      intro id hid
      have hne : id ≠ m.id := fun h => hfresh (h ▸ hid)
      simpa using hne

/-- A marker that is closed takes another one of its number with it. -/
theorem length_lt_of_repeats (ha : InStep a) (hcounted : Counted t a) (hop : op.closes = true)
    (hrepeats : t.Repeats) :
    (a.perform op).cursor.openMarkers.length < (a.perform op).held.length := by
  cases hheld : a.held with
  | nil =>
    have hlength := hcounted.length_held
    rw [hheld, eq_comm, List.length_nil, List.length_eq_zero_iff] at hlength
    rw [Tally.Repeats, hlength] at hrepeats
    exact hrepeats.elim
  | cons m held =>
    have hmem := (hcounted.id_mem_iff_repeats hheld).mpr hrepeats
    rw [ha.openMarkers_perform hop hheld, (openMarkers_perform_of_closes hop hheld).2]
    calc ((held.map Marker.id).filter (· != m.id)).length
      _ < (held.map Marker.id).length := by
        rw [List.length_filter_lt_length_iff_exists]
        exact ⟨m.id, hmem, by simp⟩
      _ = held.length := List.length_map _

end InStep

/-! ### Runs -/

theorem NumbersApart.attemptAll_eq_ok {ops : List Op} (s : TokenStream) (h : NumbersApart ops) :
    (ofStream s).attemptAll ops = .ok ((ofStream s).performAll ops) ∧
      InStep ((ofStream s).performAll ops) := by
  induction ops using List.reverseRecOn with
  | nil => exact ⟨rfl, rfl⟩
  | append_singleton ops op ih =>
    obtain ⟨hops, hlast⟩ := numbersApart_concat.mp h
    obtain ⟨hok, hstep⟩ := ih hops
    rw [attemptAll_concat, performAll_concat, hok]
    exact ⟨hstep.attempt_eq_ok op, hstep.perform (Counted.performAll s ops) hlast⟩

theorem NumbersApart.disciplined {ops : List Op} (s : TokenStream) (h : NumbersApart ops) :
    Disciplined s ops := by
  intro before hbefore
  have hapart : NumbersApart before := fun before' op hinit => h before' op (hinit.trans hbefore)
  obtain ⟨hok, hstep⟩ := hapart.attemptAll_eq_ok s
  refine ⟨_, hok, ?_⟩
  rw [hstep, List.length_map, (Counted.performAll s before).length_held]

theorem Disciplined.numbersApart {s : TokenStream} {ops : List Op} (h : Disciplined s ops) :
    NumbersApart ops := by
  induction ops using List.reverseRecOn with
  | nil =>
    intro before op hinit
    simp at hinit
  | append_singleton ops op ih =>
    obtain ⟨hops, a, hlast, hlength⟩ := disciplined_concat.mp h
    have hapart := ih hops
    -- so far the cursor was in step, so a number that repeats now costs a marker
    refine numbersApart_concat.mpr ⟨hapart, fun hop hrepeats => ?_⟩
    obtain ⟨hok, hstep⟩ := hapart.attemptAll_eq_ok s
    rw [attemptAll_concat, hok] at hlast
    have ha := Except.ok.inj ((hstep.attempt_eq_ok op).symm.trans hlast)
    have hcounted := (Counted.performAll s ops).perform op
    have hlt := hstep.length_lt_of_repeats (Counted.performAll s ops) hop hrepeats
    rw [hcounted.length_held, ← tally_concat, ha, hlength] at hlt
    exact Nat.lt_irrefl _ hlt

/-- In runs of any length that close the innermost marker first, the order of markers is kept and no
marker is lost, as long as no marker is closed while another one is open that was taken a multiple
of `UInt32.size` markers before it. When that happens, the other marker is lost. -/
theorem disciplined_iff_numbersApart (s : TokenStream) (ops : List Op) :
    Disciplined s ops ↔ NumbersApart ops :=
  ⟨Disciplined.numbersApart, NumbersApart.disciplined s⟩

end Client

/-! ### A probe that takes all numbers -/

namespace Cursor

variable {c : Cursor}

theorem openMarkers_release_mark (c : Cursor) :
    (c.mark.2.release c.mark.1).openMarkers = c.openMarkers.filter (· != c.nextMarker) := by
  show (c.nextMarker :: c.openMarkers).filter (· != c.nextMarker) = _
  rw [List.filter_cons_of_neg (by simp)]

theorem startsArgs_of_closed (hcurrent : c.current = .leftParen)
    (hclosed : (c.stream.seekBalance .leftParen .rightParen 1 c.place).1 = true) :
    c.startsArgs = (true, c.mark.2.release c.mark.1) := by
  simp [startsArgs, balanced, hcurrent, mark, hclosed, rollback, release, Except.isOk, Except.toBool]

theorem applyTimes_args_succ (hcurrent : c.current = .leftParen)
    (hclosed : (c.stream.seekBalance .leftParen .rightParen 1 c.place).1 = true)
    (level times : Nat) (levels : Array Nat) :
    applyTimes (Rule.args.apply .on level) (times + 1) c levels =
      applyTimes (Rule.args.apply .on level) times (c.mark.2.release c.mark.1) (levels.push level) := by
  have hrule : Rule.args.apply .on level c levels =
      .ok (true, c.mark.2.release c.mark.1, levels.push level) := by
    rw [Rule.apply, startsArgs_of_closed hcurrent hclosed]
    rfl
  rw [applyTimes, hrule]
  rfl

/-- A rule that takes a marker each time comes to the number 0 again, and the marker that it closes
then takes an older one of that number with it. -/
theorem openMarkers_applyTimes_args (hcurrent : c.current = .leftParen)
    (hclosed : (c.stream.seekBalance .leftParen .rightParen 1 c.place).1 = true)
    (hopen : c.openMarkers = [0]) (level times : Nat) (levels : Array Nat) {n : Nat} (hn : 0 < n)
    (hnext : c.nextMarker = UInt32.ofNat n) (htimes : n + times = UInt32.size) :
    ∃ last levels', last.openMarkers = [] ∧
      applyTimes (Rule.args.apply .on level) (times + 1) c levels = .ok (true, last, levels') := by
  -- induction on the markers that are left until the numbers start again
  induction times generalizing c n levels with
  | zero =>
    rw [applyTimes_args_succ hcurrent hclosed]
    refine ⟨_, _, ?_, rfl⟩
    obtain rfl : n = UInt32.size := htimes
    rw [openMarkers_release_mark, hopen, hnext]
    rfl
  | succ times ih =>
    have hne : (0 : UInt32) ≠ UInt32.ofNat n := by
      intro heq
      have hmod := congrArg UInt32.toNat heq
      rw [UInt32.toNat_ofNat_of_lt' (by omega)] at hmod
      exact Nat.ne_of_lt hn hmod
    have hopen' : (c.mark.2.release c.mark.1).openMarkers = [0] := by
      rw [openMarkers_release_mark, hopen, hnext, List.filter_cons_of_pos (by simpa using hne),
        List.filter_nil]
    have hnext' : (c.mark.2.release c.mark.1).nextMarker = UInt32.ofNat (n + 1) := by
      show c.nextMarker + 1 = UInt32.ofNat (n + 1)
      rw [hnext, UInt32.ofNat_add]
      rfl
    rw [applyTimes_args_succ hcurrent hclosed]
    exact ih (c := c.mark.2.release c.mark.1) hcurrent hclosed hopen' (levels.push level)
      (Nat.succ_pos n) hnext' (by omega)

/-- A probe that looks ahead `UInt32.size` times from a new cursor loses its own marker. -/
theorem probe_args_eq_error (hcurrent : c.current = .leftParen)
    (hclosed : (c.stream.seekBalance .leftParen .rightParen 1 c.place).1 = true)
    (hopen : c.openMarkers = []) (hnext : c.nextMarker = 0) (level : Nat) (levels : Array Nat) :
    c.probe .on (Rule.args.apply .on) level 4294967296 levels = .error .outOfOrder := by
  have hopen' : c.mark.2.openMarkers = [0] := by
    show c.nextMarker :: c.openMarkers = [0]
    rw [hopen, hnext]
  have hnext' : c.mark.2.nextMarker = UInt32.ofNat 1 := by
    show c.nextMarker + 1 = 1
    rw [hnext]
    rfl
  obtain ⟨last, levels', hempty, happlied⟩ := openMarkers_applyTimes_args (c := c.mark.2) hcurrent
    hclosed hopen' level 4294967295 levels Nat.one_pos hnext' rfl
  have hrefused : last.requireInnermost c.mark.1 = .error .outOfOrder := by
    simp [requireInnermost, isInnermost, hempty]
  rw [probe_eq_bind, happlied]
  show (last.requireInnermost c.mark.1).bind _ = _
  rw [hrefused]
  rfl

end Cursor

/-- A probe that looks ahead `UInt32.size` times loses its own marker, though all markers in it are
closed the innermost one first. -/
theorem probe_args_outOfOrder :
    let s : TokenStream := ⟨"()", #[⟨.leftParen, 0, 1⟩, ⟨.rightParen, 1, 1⟩]⟩
    (Session.ofStream s).run (.probe 0 4294967296 .args) = .error .outOfOrder := by
  intro s
  let c := Cursor.ofStream s
  have hcurrent : c.current = .leftParen := by decide +kernel
  have hclosed : (c.stream.seekBalance .leftParen .rightParen 1 c.place).1 = true := by
    decide +kernel
  show (c.probe .on (Rule.args.apply .on) 0 4294967296 #[]).bind _ = _
  rw [Cursor.probe_args_eq_error hcurrent hclosed rfl rfl]
  rfl

end LuaFold
