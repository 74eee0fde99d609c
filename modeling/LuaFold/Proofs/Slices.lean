import Mathlib.Data.String.Basic
import LuaFold.Text.Span

/-! The text under a span, when the ends of the span are cuts between characters. -/

namespace LuaFold.Text

variable {text : String} {before part after : List Char}

theorem splitBytes?_go_append (taken cs rest : List Char) :
    splitBytes?.go (String.utf8Len cs) taken (cs ++ rest) = some (taken.reverse ++ cs, rest) := by
  induction cs generalizing taken with
  | nil => rw [List.append_nil, String.utf8Len_nil, List.nil_append, splitBytes?.go]
  | cons c cs ih =>
    have hpos := c.utf8Size_pos
    obtain ⟨n, hn⟩ : ∃ n, String.utf8Len (c :: cs) = n + 1 :=
      ⟨String.utf8Len (c :: cs) - 1, by rw [String.utf8Len_cons]; omega⟩
    have hle : c.utf8Size ≤ n + 1 := by
      rw [← hn, String.utf8Len_cons]
      omega
    have hrest : n + 1 - c.utf8Size = String.utf8Len cs := by
      rw [← hn, String.utf8Len_cons]
      omega
    rw [hn, List.cons_append, splitBytes?.go, if_pos hle, hrest, ih, List.reverse_cons,
      List.append_assoc]
    rfl

theorem splitBytes?_append (cs rest : List Char) :
    splitBytes? (String.utf8Len cs) (cs ++ rest) = some (cs, rest) :=
  splitBytes?_go_append [] cs rest

/-- A list of characters divides in one way after a number of bytes. -/
theorem append_inj_of_utf8Len {part' after' : List Char} (h : part ++ after = part' ++ after')
    (hlength : String.utf8Len part = String.utf8Len part') : part = part' ∧ after = after' := by
  have hcut := splitBytes?_append part after
  rw [h, hlength, splitBytes?_append] at hcut
  exact Prod.mk.inj (Option.some.inj hcut.symm)

theorem slice?_of_toList_eq (h : text.toList = before ++ (part ++ after)) :
    slice? text ⟨String.utf8Len before, String.utf8Len part⟩ = some (String.ofList part) := by
  rw [slice?, h]
  simp only [splitBytes?_append, Option.bind_eq_bind, Option.bind_some]
  rfl

theorem isValid_of_toList_eq (h : text.toList = before ++ after) :
    String.Pos.Raw.IsValid text ⟨String.utf8Len before⟩ := by
  rw [String.Pos.Raw.isValid_iff_exists_append]
  refine ⟨String.ofList before, String.ofList after, ?_, ?_⟩
  · rw [← String.ofList_append, ← h, String.ofList_toList]
  · rw [String.rawEndPos_ofList]

/-- A cut between characters divides the characters of the text. -/
theorem exists_split_of_isValid {n : Nat} (h : String.Pos.Raw.IsValid text ⟨n⟩) :
    ∃ before after, text.toList = before ++ after ∧ String.utf8Len before = n := by
  obtain ⟨s₁, s₂, rfl, hn⟩ := String.Pos.Raw.isValid_iff_exists_append.mp h
  refine ⟨s₁.toList, s₂.toList, String.toList_append, ?_⟩
  rw [String.utf8Len_toList]
  exact congrArg String.Pos.Raw.byteIdx hn.symm

/-- A cut after some of the characters divides the rest of them. -/
theorem exists_part_of_isValid {rest : List Char} {length : Nat} (h : text.toList = before ++ rest)
    (hcut : String.Pos.Raw.IsValid text ⟨String.utf8Len before + length⟩) :
    ∃ part after, rest = part ++ after ∧ String.utf8Len part = length := by
  obtain ⟨upTo, after, hsplit, hlength⟩ := exists_split_of_isValid hcut
  rcases List.append_eq_append_iff.mp (h.symm.trans hsplit) with ⟨part, rfl, rfl⟩ | ⟨extra, rfl, -⟩
  · refine ⟨part, after, rfl, ?_⟩
    rw [String.utf8Len_append] at hlength
    omega
  · refine ⟨[], rest, rfl, ?_⟩
    rw [String.utf8Len_append] at hlength
    rw [String.utf8Len_nil]
    omega

theorem exists_slice?_of_isValid {start length : Nat}
    (hstart : String.Pos.Raw.IsValid text ⟨start⟩)
    (hstop : String.Pos.Raw.IsValid text ⟨start + length⟩) :
    ∃ part, slice? text ⟨start, length⟩ = some part := by
  obtain ⟨before, rest, hsplit, rfl⟩ := exists_split_of_isValid hstart
  obtain ⟨part, after, rfl, rfl⟩ := exists_part_of_isValid hsplit hstop
  exact ⟨_, slice?_of_toList_eq hsplit⟩

end LuaFold.Text
