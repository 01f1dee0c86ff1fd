import Mathlib.Data.List.Basic
import TradeWire.Order.Book
/-! How listed items stand: keys in the order in which they first come, and items by their time. -/

namespace TradeWire

theorem split_append_singleton {α : Type} (items front back : List α) (item last : α)
    (split : items ++ [last] = front ++ item :: back) :
    (items = front ∧ last = item ∧ back = []) ∨
      ∃ rest, items = front ++ item :: rest ∧ back = rest ++ [last] := by
  rcases List.eq_nil_or_concat' back with rfl | ⟨rest, final, rfl⟩
  · obtain ⟨same, one⟩ := List.append_inj' split rfl
    exact .inl ⟨same, List.singleton_inj.mp one, rfl⟩
  · rw [← List.cons_append, ← List.append_assoc] at split
    obtain ⟨same, one⟩ := List.append_inj' split rfl
    exact .inr ⟨rest, same, by rw [one]⟩

structure FirstOrder (all keys : List String) : Prop where
  covers : ∀ key, key ∈ keys ↔ key ∈ all
  ordered : keys.Pairwise fun a b => all.idxOf a < all.idxOf b

namespace FirstOrder

theorem nodup (all keys : List String) (placed : FirstOrder all keys) : keys.Nodup := by
  apply placed.ordered.imp
  intro a b earlier same
  subst same
  exact Nat.lt_irrefl _ earlier

theorem append (all keys : List String) (placed : FirstOrder all keys) (last : String) :
    FirstOrder (all ++ [last]) (if last ∈ keys then keys else keys ++ [last]) := by
  have kept : keys.Pairwise fun a b => (all ++ [last]).idxOf a < (all ++ [last]).idxOf b := by
    apply placed.ordered.imp_of_mem
    intro a b memberA memberB earlier
    rw [List.idxOf_append_of_mem ((placed.covers a).mp memberA),
      List.idxOf_append_of_mem ((placed.covers b).mp memberB)]
    exact earlier
  split
  · rename_i known
    refine ⟨?_, kept⟩
    intro key
    rw [List.mem_append, List.mem_singleton, placed.covers]
    refine ⟨Or.inl, fun either => either.elim id ?_⟩
    intro same
    exact same ▸ (placed.covers last).mp known
  · rename_i new
    refine ⟨?_, List.pairwise_append.mpr ⟨kept, List.pairwise_singleton _ _, ?_⟩⟩
    · intro key
      rw [List.mem_append, List.mem_append, placed.covers]
    · intro a member b isLast
      have known := (placed.covers a).mp member
      rw [List.mem_singleton.mp isLast, List.idxOf_append_of_mem known,
        List.idxOf_append_of_notMem (mt (placed.covers last).mpr new)]
      exact Nat.lt_add_right _ (List.idxOf_lt_length_of_mem known)

end FirstOrder

theorem latestFirst_stable {α : Type} (time : α → Int) (before : α → α → Prop) (items : List α)
    (ordered : items.Pairwise before) :
    (latestFirst time items).Pairwise fun a b =>
      time b < time a ∨ time b = time a ∧ before a b := by
  have trans : ∀ a b c : α, decide (time b ≤ time a) → decide (time c ≤ time b) →
      decide (time c ≤ time a) := by simpa using fun a b c ab bc => Int.le_trans bc ab
  have total : ∀ a b : α, decide (time b ≤ time a) || decide (time a ≤ time b) := by
    simpa using fun a b => Int.le_total (time b) (time a)
  induction items with
  | nil => simp [latestFirst]
  | cons a items ih =>
      rw [List.pairwise_cons] at ordered
      obtain ⟨front, back, whole, rest, above⟩ := List.mergeSort_cons trans total a items
      have sorted := List.pairwise_mergeSort trans total (a :: items)
      have others := ih ordered.2
      rw [latestFirst] at others ⊢
      rw [rest] at others
      rw [whole] at sorted ⊢
      rw [List.pairwise_append, List.pairwise_cons] at sorted ⊢
      rw [List.pairwise_append] at others
      have behind : ∀ b ∈ back, b ∈ items := by
        intro b member
        rw [← List.mem_mergeSort, rest]
        exact List.mem_append_right _ member
      refine ⟨others.1, ⟨?_, others.2.1⟩, ?_⟩
      · intro b member
        have later := of_decide_eq_true (sorted.2.1.1 b member)
        rcases Int.lt_or_eq_of_le later with older | same
        · exact Or.inl older
        · exact Or.inr ⟨same, ordered.1 b (behind b member)⟩
      · intro b member c either
        rcases List.mem_cons.mp either with rfl | member'
        · have newer := above b member
          simp only [Bool.not_eq_true', decide_eq_false_iff_not, Int.not_le] at newer
          exact Or.inl newer
        · exact others.2.2 b member c member'

end TradeWire
