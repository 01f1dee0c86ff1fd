import TradeWire.Proofs.Json.RoundTrip
/-! Where a written text, integer or list ends can be told from the characters alone, so that none
is written like the beginning of another. -/

namespace TradeWire.Json

open Token

theorem Style.separates_literal : Style.literal.Separates where
  comma := Style.separates_compact.comma
  colon := Style.separates_compact.colon
  ends := Style.separates_compact.ends

/-- A text ends where it is scanned to its closing quote. -/
theorem writeText_append_inj (asciiOnly : Bool) (one other : String) (rest more : List Char)
    (same : writeText asciiOnly one ++ rest = writeText asciiOnly other ++ more) :
    one = other ∧ rest = more := by
  have scanned (text : String) (rest : List Char) :
      scanText .plain [] ((writeText asciiOnly text ++ rest).tail) = some (text.toList, rest) := by
    simpa [writeText] using scanText_escaped asciiOnly text.toList [] rest
  have found := scanned one rest
  rw [same, scanned, Option.some.injEq, Prod.mk.injEq, String.toList_inj] at found
  exact ⟨found.1.symm, found.2.symm⟩

section Integers

variable (rest more : List Char) (ends : endsNumber rest) (alsoEnds : endsNumber more)

include ends alsoEnds

theorem toDigits_append_inj (m n : Nat)
    (same : Nat.toDigits 10 m ++ rest = Nat.toDigits 10 n ++ more) : m = n ∧ rest = more := by
  have one := takeWhile_digits _ rest (isDigit_toDigits m) ends
  have other := takeWhile_digits _ more (isDigit_toDigits n) alsoEnds
  rw [same] at one
  refine ⟨?_, one.2.symm.trans other.2⟩
  rw [← ofDigits_toDigits m, ← one.1, other.1, ofDigits_toDigits]

theorem toString_append_inj (m n : Int)
    (same : (toString m).toList ++ rest = (toString n).toList ++ more) : m = n ∧ rest = more := by
  have unsigned (n : Nat) (rest others : List Char) :
      Nat.toDigits 10 n ++ rest ≠ '-' :: others := by
    rcases exists_toDigits n with ⟨c, digits, written, digit⟩
    intro same
    rw [written] at same
    cases same
    cases digit
  simp only [Int.toString_eq_repr] at same
  cases m with
  | ofNat m =>
      cases n with
      | ofNat n =>
          rw [toList_ofNat, toList_ofNat] at same
          have found := toDigits_append_inj rest more ends alsoEnds m n same
          exact ⟨congrArg Int.ofNat found.1, found.2⟩
      | negSucc n =>
          rw [toList_ofNat, toList_negSucc] at same
          exact absurd same (unsigned m rest _)
  | negSucc m =>
      cases n with
      | ofNat n =>
          rw [toList_ofNat, toList_negSucc] at same
          exact absurd same.symm (unsigned n more _)
      | negSucc n =>
          rw [toList_negSucc, toList_negSucc, List.cons_append, List.cons_append] at same
          have found := toDigits_append_inj rest more ends alsoEnds _ _ (List.cons.inj same).2
          exact ⟨congrArg Int.negSucc (Nat.succ.inj found.1), found.2⟩

end Integers

structure Delimited {α : Type} (style : Style) (encode : α → Json) : Prop where
  apart : ∀ one other rest more,
    write style (encode one) ++ rest = write style (encode other) ++ more →
      one = other ∧ rest = more
  opens : ∀ value rest more, write style (encode value) ++ rest ≠ ']' :: more

theorem delimited_str (style : Style) : Delimited style str where
  apart one other rest more same := by
    rw [write, write] at same
    exact writeText_append_inj style.asciiOnly one other rest more same
  opens value rest more same := by
    rw [write, writeText, List.cons_append] at same
    cases same

section Lists

variable {α : Type} {style : Style} {encode : α → Json}

theorem comma_ne_close (separates : style.Separates) (rest more : List Char) :
    style.comma ++ rest ≠ ']' :: more := by
  intro same
  have close : tokens (']' :: more) = .closeList :: tokens more :=
    tokens_cons _ _ _ _ rfl rfl Token.noConfusion
  rw [← same, separates.comma] at close
  cases close

variable (separates : style.Separates) (delimited : Delimited style encode)

include separates delimited

theorem writeItems_append_inj (one other : List α) (rest more : List Char)
    (same : writeItems style (one.map encode) ++ rest =
      writeItems style (other.map encode) ++ more) : one = other ∧ rest = more := by
  induction one generalizing other with
  | nil =>
      cases other with
      | nil => exact ⟨rfl, (List.cons.inj same).2⟩
      | cons item others =>
          simp only [List.map_cons, writeItems, List.append_assoc] at same
          exact absurd same.symm (comma_ne_close separates _ _)
  | cons item items ih =>
      cases other with
      | nil =>
          simp only [List.map_cons, writeItems, List.append_assoc] at same
          exact absurd same (comma_ne_close separates _ _)
      | cons another others =>
          simp only [List.map_cons, writeItems, List.append_assoc,
            List.append_cancel_left_eq] at same
          obtain ⟨first, behind⟩ := delimited.apart _ _ _ _ same
          obtain ⟨later, after⟩ := ih others behind
          exact ⟨by rw [first, later], after⟩

theorem delimited_list : Delimited style fun items : List α => arr (items.map encode) where
  apart one other rest more same := by
    rcases one with _ | ⟨item, items⟩ <;> rcases other with _ | ⟨another, others⟩ <;>
      simp only [List.map_nil, List.map_cons, write, List.cons_append, List.nil_append,
        List.append_assoc, List.cons.injEq, true_and] at same
    · exact ⟨rfl, same⟩
    · exact absurd same.symm (delimited.opens _ _ _)
    · exact absurd same (delimited.opens _ _ _)
    · obtain ⟨first, behind⟩ := delimited.apart _ _ _ _ same
      obtain ⟨later, after⟩ := writeItems_append_inj separates delimited _ _ _ _ behind
      exact ⟨by rw [first, later], after⟩
  opens items rest more same := by
    cases items with
    | nil => cases same
    | cons item items => cases same

end Lists

end TradeWire.Json
