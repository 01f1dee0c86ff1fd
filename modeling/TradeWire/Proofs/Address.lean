import Mathlib.Data.Finset.Card
import Mathlib.Data.List.Induction
import TradeWire.Proofs.Arrangement
import TradeWire.Relay.Network
/-! Values by address: one entry for each address, whatever the order in which they come. -/

namespace TradeWire.ByUrl

variable {α : Type}

theorem urls_put (values : ByUrl α) (url : String) (value : α) :
    (values.put url value).map (·.1) =
      if url ∈ values.map (·.1) then values.map (·.1) else values.map (·.1) ++ [url] := by
  induction values with
  | nil => rfl
  | cons known values ih =>
      rw [put]
      by_cases same : known.1 = url
      · simp [same]
      · have other : url ≠ known.1 := Ne.symm same
        rw [if_neg same, List.map_cons, ih]
        by_cases member : url ∈ values.map (·.1) <;> simp [member, other]

theorem ofList_append (pairs : List (String × α)) (pair : String × α) :
    ofList (pairs ++ [pair]) = (ofList pairs).put pair.1 pair.2 := by
  simp [ofList]

theorem urls_ofList (pairs : List (String × α)) :
    ((ofList pairs).map (·.1)).Nodup ∧
      ((ofList pairs).map (·.1)).toFinset = (pairs.map (·.1)).toFinset := by
  induction pairs using List.reverseRecOn with
  | nil => simp [ofList]
  | append_singleton pairs pair ih =>
      rw [ofList_append, urls_put, List.map_append, List.toFinset_append, ← ih.2]
      split
      · rename_i member
        have inside := List.mem_toFinset.mpr member
        refine ⟨ih.1, ?_⟩
        rw [List.map_singleton, List.toFinset_cons, List.toFinset_nil, insert_empty_eq,
          Finset.union_comm, ← Finset.insert_eq, Finset.insert_eq_of_mem inside]
      · rename_i new
        constructor
        · have alone := List.disjoint_singleton.mpr new
          exact ih.1.append (List.nodup_singleton _) alone
        · rw [List.toFinset_append, List.map_singleton]

section Last

variable {β : Type} (told? : β → Option (String × α))

end Last

theorem length_ofList (pairs : List (String × α)) :
    (ofList pairs).length = (pairs.map (·.1)).toFinset.card := by
  rcases urls_ofList pairs with ⟨single, same⟩
  rw [← same, List.toFinset_card_of_nodup single, List.length_map]

theorem mem_urls_ofList (pairs : List (String × α)) (url : String) :
    url ∈ (ofList pairs).map (·.1) ↔ url ∈ pairs.map (·.1) := by
  rw [← List.mem_toFinset, (urls_ofList pairs).2, List.mem_toFinset]

theorem ofList_eq_nil (pairs : List (String × α)) : ofList pairs = [] ↔ pairs = [] := by
  have same := mem_urls_ofList pairs
  constructor
  · intro none
    simpa [none, List.eq_nil_iff_forall_not_mem] using same
  · rintro rfl
    rfl

section Told

variable (pairs : List (String × α)) (told : String × α → Prop) (urls : Finset String)
variable (mem : ∀ url, url ∈ urls ↔ ∃ pair ∈ pairs, told pair ∧ pair.1 = url)

include mem

theorem subset_of_told : urls ⊆ (pairs.map (·.1)).toFinset := by
  intro url inside
  rcases (mem url).mp inside with ⟨pair, member, _, rfl⟩
  exact List.mem_toFinset.mpr (List.mem_map.mpr ⟨pair, member, rfl⟩)

theorem card_le_length : urls.card ≤ pairs.length := by
  calc
    urls.card ≤ (pairs.map (·.1)).toFinset.card :=
      Finset.card_le_card (subset_of_told pairs told urls mem)
    _ ≤ (pairs.map (·.1)).length := List.toFinset_card_le _
    _ = pairs.length := List.length_map _

/-- The addresses at which something is told are as many as the pairs exactly if no two pairs share
an address, and it is told of all of them. -/
theorem card_eq_length :
    urls.card = pairs.length ↔ (pairs.map (·.1)).Nodup ∧ ∀ pair ∈ pairs, told pair := by
  have within := subset_of_told pairs told urls mem
  constructor
  · intro same
    have whole : (pairs.map (·.1)).toFinset.card = (pairs.map (·.1)).length := by
      apply Nat.le_antisymm (List.toFinset_card_le _)
      rw [List.length_map, ← same]
      exact Finset.card_le_card within
    have single : (pairs.map (·.1)).Nodup := Multiset.toFinset_card_eq_card_iff_nodup.mp whole
    rw [List.length_map, ← same] at whole
    have equal := Finset.eq_of_subset_of_card_le within (Nat.le_of_eq whole)
    refine ⟨single, ?_⟩
    intro pair member
    have inside : pair.1 ∈ urls := by
      rw [equal]
      exact List.mem_toFinset.mpr (List.mem_map.mpr ⟨pair, member, rfl⟩)
    rcases (mem pair.1).mp inside with ⟨other, otherMember, isTold, same⟩
    exact List.inj_on_of_nodup_map single otherMember member same ▸ isTold
  · rintro ⟨single, all⟩
    have whole : (pairs.map (·.1)).toFinset ⊆ urls := by
      intro url member
      rcases List.mem_map.mp (List.mem_toFinset.mp member) with ⟨pair, inside, rfl⟩
      exact (mem pair.1).mpr ⟨pair, inside, all pair inside, rfl⟩
    rw [Finset.Subset.antisymm within whole, List.toFinset_card_of_nodup single, List.length_map]

end Told

end TradeWire.ByUrl
