import Mathlib.Data.List.Induction
import TradeWire.Inbox
import TradeWire.Proofs.Arrangement
/-! The first event of each id. -/

namespace TradeWire

theorem distinctEvents_append (events : List Event) (last : Event) :
    distinctEvents (events ++ [last]) =
      if ∃ kept ∈ distinctEvents events, kept.id = last.id then distinctEvents events
      else distinctEvents events ++ [last] := by
  simp only [distinctEvents, List.foldl_append, List.foldl_cons, List.foldl_nil, List.mem_reverse,
    List.any_eq_true, beq_iff_eq]
  split
  · rfl
  · rw [List.reverse_cons]

theorem firstOrder_distinctEvents (events : List Event) :
    FirstOrder (events.map (·.id)) ((distinctEvents events).map (·.id)) := by
  induction events using List.reverseRecOn with
  | nil => exact ⟨fun _ => Iff.rfl, List.Pairwise.nil⟩
  | append_singleton events last ih =>
      have step : (distinctEvents (events ++ [last])).map (·.id) =
          if last.id ∈ (distinctEvents events).map (·.id) then (distinctEvents events).map (·.id)
          else (distinctEvents events).map (·.id) ++ [last.id] := by
        simp only [distinctEvents_append, List.mem_map]
        split
        · rfl
        · rw [List.map_append, List.map_singleton]
      rw [step, List.map_append]
      exact ih.append _ _ last.id

theorem distinctEvents_ids (events : List Event) (id : String) :
    (∃ kept ∈ distinctEvents events, kept.id = id) ↔ ∃ event ∈ events, event.id = id := by
  rw [← List.mem_map, ← List.mem_map]
  exact (firstOrder_distinctEvents events).covers id

/-- An event of a list without an earlier one of its id. -/
def IsFirst (events : List Event) (event : Event) : Prop :=
  ∃ before after, events = before ++ event :: after ∧ ∀ earlier ∈ before, earlier.id ≠ event.id

theorem isFirst_append (events : List Event) (last event : Event) :
    IsFirst (events ++ [last]) event ↔
      IsFirst events event ∨ event = last ∧ ∀ earlier ∈ events, earlier.id ≠ last.id := by
  constructor
  · intro found
    rcases found with ⟨before, after, same, fresh⟩
    rcases split_append_singleton events before after event last same with
      ⟨rfl, rfl, _⟩ | ⟨rest, rfl, _⟩
    · exact Or.inr ⟨rfl, fresh⟩
    · exact Or.inl ⟨before, rest, rfl, fresh⟩
  · intro either
    rcases either with ⟨before, after, rfl, fresh⟩ | ⟨rfl, fresh⟩
    · exact ⟨before, after ++ [last], by simp, fresh⟩
    · exact ⟨events, [], rfl, fresh⟩

theorem mem_distinctEvents (events : List Event) (event : Event) :
    event ∈ distinctEvents events ↔ IsFirst events event := by
  induction events using List.reverseRecOn with
  | nil =>
      constructor
      · intro member
        cases member
      · intro found
        rcases found with ⟨before, after, same, _⟩
        simp at same
  | append_singleton events last ih =>
      have known := distinctEvents_ids events last.id
      rw [distinctEvents_append, isFirst_append, ← ih]
      split
      · rename_i old
        rcases known.mp old with ⟨earlier, member, same⟩
        constructor
        · exact Or.inl
        · intro either
          rcases either with kept | ⟨_, fresh⟩
          · exact kept
          · exact absurd same (fresh earlier member)
      · rename_i new
        rw [known] at new
        have fresh : ∀ earlier ∈ events, earlier.id ≠ last.id := by
          intro earlier member same
          exact new ⟨earlier, member, same⟩
        rw [List.mem_append, List.mem_singleton]
        constructor
        · intro either
          rcases either with kept | rfl
          · exact Or.inl kept
          · exact Or.inr ⟨rfl, fresh⟩
        · intro either
          rcases either with kept | ⟨rfl, _⟩
          · exact Or.inl kept
          · exact Or.inr rfl

end TradeWire
