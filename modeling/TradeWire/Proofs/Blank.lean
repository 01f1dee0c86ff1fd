import Mathlib.Data.List.TakeWhile
import TradeWire.Text.Blank
/-! Where blanks stand in a text: between other characters, or around them only. Trimming takes off
those around them and leaves all others. -/

namespace TradeWire.Text

theorem code_of_isAsciiBlank (c : Char) (blank : isAsciiBlank c) : c.toNat ≤ 32 := by
  simp only [isAsciiBlank, Bool.or_eq_true, Bool.and_eq_true, decide_eq_true_eq,
    beq_iff_eq] at blank
  omega

section Margins

variable (blank : Char → Bool)

def Parted (chars : List Char) : Prop :=
  ∃ front c back, chars = front ++ c :: back ∧ blank c ∧
    (∃ d ∈ front, blank d = false) ∧ ∃ d ∈ back, blank d = false

structure Framed (chars front run back : List Char) : Prop where
  whole : chars = front ++ run ++ back
  leading : ∀ c ∈ front, blank c
  solid : ∀ c ∈ run, blank c = false
  trailing : ∀ c ∈ back, blank c

theorem parted_or_framed (chars : List Char) :
    Parted blank chars ∨ ∃ front run back, Framed blank chars front run back := by
  induction chars with
  | nil => exact Or.inr ⟨[], [], [], rfl, by simp, by simp, by simp⟩
  | cons c chars ih =>
      rcases ih with ⟨front, d, back, rfl, divides, solid, others⟩ | ⟨front, run, back, framed⟩
      · rcases solid with ⟨e, member, solid⟩
        exact Or.inl ⟨c :: front, d, back, rfl, divides, ⟨e, by simp [member], solid⟩, others⟩
      · rcases framed with ⟨rfl, leading, solid, trailing⟩
        cases first : blank c with
        | true =>
            right
            exact ⟨c :: front, run, back, rfl, by simpa [first] using leading, solid, trailing⟩
        | false =>
            -- Blanks behind this character part it from a run, if one follows them.
            match front, run with
            | [], run =>
                right
                exact ⟨[], c :: run, back, rfl, by simp, by simpa [first] using solid, trailing⟩
            | d :: front, [] =>
                right
                refine ⟨[], [c], d :: front ++ back, by simp, by simp, by simpa using first, ?_⟩
                intro e member
                rcases List.mem_append.mp member with member | member
                · exact leading e member
                · exact trailing e member
            | d :: front, e :: run =>
                left
                exact ⟨[c], d, front ++ e :: run ++ back, by simp, leading d (by simp),
                  ⟨c, by simp, first⟩, e, by simp, solid e (by simp)⟩

theorem dropWhile_append_solid (front rest : List Char) (solid : ∃ d ∈ front, blank d = false) :
    (front ++ rest).dropWhile blank = front.dropWhile blank ++ rest := by
  have left : front.dropWhile blank ≠ [] := by
    rcases solid with ⟨d, member, solid⟩
    intro none
    have := List.dropWhile_eq_nil_iff.mp none d member
    simp [solid] at this
  simp [List.dropWhile_append, left]

theorem dropWhile_solid (run : List Char) (solid : ∀ c ∈ run, blank c = false) :
    run.dropWhile blank = run := by
  cases run with
  | nil => rfl
  | cons c run => rw [List.dropWhile_cons, solid c (by simp), if_neg Bool.false_ne_true]

theorem mem_trimBoth (front back : List Char) (c : Char) (before : ∃ d ∈ front, blank d = false)
    (after : ∃ d ∈ back, blank d = false) : c ∈ trimBoth blank (front ++ c :: back) := by
  have behind : ∃ d ∈ back.reverse, blank d = false := by simpa using after
  rw [trimBoth, dropWhile_append_solid blank front _ before, List.reverse_append,
    List.reverse_cons, List.append_assoc, dropWhile_append_solid blank _ _ behind]
  simp

theorem trimBoth_framed (chars front run back : List Char)
    (framed : Framed blank chars front run back) : trimBoth blank chars = run := by
  rcases framed with ⟨rfl, leading, solid, trailing⟩
  rw [trimBoth, List.append_assoc, List.dropWhile_append_of_pos leading]
  cases run with
  | nil =>
      have none : back.dropWhile blank = [] := List.dropWhile_eq_nil_iff.mpr trailing
      rw [List.nil_append, none]
      rfl
  | cons c run =>
      have first : ∃ d ∈ c :: run, blank d = false := ⟨c, by simp, solid c (by simp)⟩
      have backwards : ∀ d ∈ (c :: run).reverse, blank d = false := by
        intro d member
        exact solid d (List.mem_reverse.mp member)
      have ending : ∀ d ∈ back.reverse, blank d := by
        intro d member
        exact trailing d (List.mem_reverse.mp member)
      rw [dropWhile_append_solid blank _ _ first, dropWhile_solid blank _ solid,
        List.reverse_append, List.dropWhile_append_of_pos ending, dropWhile_solid blank _ backwards,
        List.reverse_reverse]

theorem trimBoth_eq_self (chars : List Char) (clean : ∀ c ∈ chars, blank c = false) :
    trimBoth blank chars = chars :=
  trimBoth_framed blank chars [] chars [] ⟨by simp, by simp, clean, by simp⟩

end Margins

end TradeWire.Text
