import TradeWire.Proofs.Overflow
import TradeWire.Relay.Feed
/-! What one who reads a feed takes of it, and what ends the reading. -/

namespace TradeWire

namespace Event

/-- An object with an id, in which a number is infinite where an event has an integer. -/
def Endless (raw : Json) : Prop := ∃ fields, raw = .obj fields ∧ FieldsOverflow fields

theorem ofJson_error (raw : Json) (fault : ValueFault) (failed : ofJson raw = .error fault) :
    fault.isContentOrShape ∨ fault = .tooLarge ∧ Endless raw := by
  cases raw with
  | obj fields =>
      rcases ofFields_error fields fault failed with content | ⟨rfl, overflows⟩
      · exact Or.inl content
      · exact Or.inr ⟨rfl, fields, rfl, overflows⟩
  | null | bool _ | int _ | float _ | str _ | arr _ =>
      cases failed
      exact Or.inl rfl

theorem ofJson_endless (raw : Json) (endless : Endless raw) : ofJson raw = .error .tooLarge := by
  rcases endless with ⟨fields, rfl, overflows⟩
  exact ofFields_overflow fields overflows

theorem not_endless_of_ok (raw : Json) (event : Event) (read : ofJson raw = .ok event) :
    ¬Endless raw := by
  intro endless
  rw [ofJson_endless raw endless] at read
  cases read

theorem endless_iff_grave (raw : Json) (fault : ValueFault) (failed : ofJson raw = .error fault) :
    Endless raw ↔ fault.isContentOrShape = false := by
  constructor
  · intro endless
    rw [ofJson_endless raw endless] at failed
    cases failed
    rfl
  · intro grave
    rcases ofJson_error raw fault failed with content | ⟨_, endless⟩
    · rw [grave] at content
      cases content
    · exact endless

end Event

namespace Feed

def Passes (front : Feed) : Prop :=
  ∀ delivery ∈ front, ∃ raw, delivery.item = .event raw ∧ ¬Event.Endless raw

def Reaches (feed : Feed) (delivery : Timed Delivery) : Prop :=
  ∃ front back, feed = front ++ delivery :: back ∧ front.Passes

def Brings (feed : Feed) (taken : Timed Event) : Prop :=
  ∃ raw, feed.Reaches ⟨taken.time, .event raw⟩ ∧ Event.ofJson raw = .ok taken.item

theorem not_reaches_nil (delivery : Timed Delivery) : ¬Reaches [] delivery := by
  intro reached
  rcases reached with ⟨front, back, same, _⟩
  simp at same

theorem reaches_cons (head : Timed Delivery) (rest : Feed) (delivery : Timed Delivery) :
    Reaches (head :: rest) delivery ↔
      delivery = head ∨ Passes [head] ∧ rest.Reaches delivery := by
  constructor
  · intro reached
    rcases reached with ⟨front, back, same, passes⟩
    cases front with
    | nil =>
        cases same
        exact Or.inl rfl
    | cons first front =>
        cases same
        rcases List.forall_mem_cons.mp passes with ⟨one, others⟩
        exact Or.inr ⟨List.forall_mem_singleton.mpr one, front, back, rfl, others⟩
  · intro either
    rcases either with rfl | ⟨one, front, back, rfl, others⟩
    · exact ⟨[], rest, rfl, List.forall_mem_nil _⟩
    · have first := List.forall_mem_singleton.mp one
      exact ⟨head :: front, back, rfl, List.forall_mem_cons.mpr ⟨first, others⟩⟩

end Feed

/-- A delivery ends the reading: in peace, or with a fault. -/
inductive Delivery.Ends : Delivery → Option LinkFault → Prop where
  | drained : Ends .drained none
  | closed : Ends .closed none
  | failed (fault : LinkFault) : Ends (.failed fault) (some fault)
  | unpaired : Ends .unpaired (some (.value .unpaired))
  | endless (raw : Json) (endless : Event.Endless raw) :
      Ends (.event raw) (some (.value .tooLarge))

namespace Delivery

@[simp]
theorem ends_drained (fault : Option LinkFault) : Ends .drained fault ↔ fault = none := by
  constructor
  · intro ends
    cases ends
    rfl
  · intro same
    subst same
    exact .drained

@[simp]
theorem ends_closed (fault : Option LinkFault) : Ends .closed fault ↔ fault = none := by
  constructor
  · intro ends
    cases ends
    rfl
  · intro same
    subst same
    exact .closed

@[simp]
theorem ends_failed (why : LinkFault) (fault : Option LinkFault) :
    Ends (.failed why) fault ↔ fault = some why := by
  constructor
  · intro ends
    cases ends
    rfl
  · intro same
    subst same
    exact .failed why

@[simp]
theorem ends_unpaired (fault : Option LinkFault) :
    Ends .unpaired fault ↔ fault = some (.value .unpaired) := by
  constructor
  · intro ends
    cases ends
    rfl
  · intro same
    subst same
    exact .unpaired

@[simp]
theorem ends_event (raw : Json) (fault : Option LinkFault) :
    Ends (.event raw) fault ↔ Event.Endless raw ∧ fault = some (.value .tooLarge) := by
  constructor
  · intro ends
    cases ends with
    | endless _ endless => exact ⟨endless, rfl⟩
  · intro both
    rcases both with ⟨endless, rfl⟩
    exact .endless raw endless

end Delivery

namespace Feed

def Finishes (feed : Feed) (ending : Timed (Option LinkFault)) : Prop :=
  ∃ last, feed.Reaches ⟨ending.time, last⟩ ∧ last.Ends ending.item

theorem passes_event (time : Rat) (raw : Json) :
    Passes [⟨time, .event raw⟩] ↔ ¬Event.Endless raw := by
  simp [Passes]

theorem not_brings_nil (taken : Timed Event) : ¬Brings [] taken := by
  intro brought
  rcases brought with ⟨raw, reached, _⟩
  exact not_reaches_nil _ reached

theorem brings_cons (head : Timed Delivery) (rest : Feed) (taken : Timed Event) :
    Brings (head :: rest) taken ↔
      (∃ raw, head = ⟨taken.time, .event raw⟩ ∧ Event.ofJson raw = .ok taken.item) ∨
        Passes [head] ∧ rest.Brings taken := by
  simp only [Brings, reaches_cons]
  constructor
  · intro brought
    rcases brought with ⟨raw, same | ⟨passes, reached⟩, read⟩
    · exact Or.inl ⟨raw, same.symm, read⟩
    · exact Or.inr ⟨passes, raw, reached, read⟩
  · intro either
    rcases either with ⟨raw, same, read⟩ | ⟨passes, raw, reached, read⟩
    · exact ⟨raw, Or.inl same.symm, read⟩
    · exact ⟨raw, Or.inr ⟨passes, reached⟩, read⟩

theorem not_finishes_nil (ending : Timed (Option LinkFault)) : ¬Finishes [] ending := by
  intro finished
  rcases finished with ⟨last, reached, _⟩
  exact not_reaches_nil _ reached

theorem finishes_cons (head : Timed Delivery) (rest : Feed) (ending : Timed (Option LinkFault)) :
    Finishes (head :: rest) ending ↔
      ending.time = head.time ∧ head.item.Ends ending.item ∨
        Passes [head] ∧ rest.Finishes ending := by
  simp only [Finishes, reaches_cons]
  constructor
  · intro finished
    rcases finished with ⟨last, rfl | ⟨passes, reached⟩, ends⟩
    · exact Or.inl ⟨rfl, ends⟩
    · exact Or.inr ⟨passes, last, reached, ends⟩
  · intro either
    rcases either with ⟨same, ends⟩ | ⟨passes, last, reached, ends⟩
    · exact ⟨head.item, Or.inl (same ▸ rfl), ends⟩
    · exact ⟨last, Or.inr ⟨passes, reached⟩, ends⟩

section Heads

variable (time : Rat) (raw : Json) (rest : Feed)

theorem not_brings_last (last : Delivery) (final : ∀ raw, last ≠ .event raw) (taken : Timed Event) :
    ¬Brings (⟨time, last⟩ :: rest) taken := by
  rw [brings_cons]
  intro either
  rcases either with ⟨raw, same, _⟩ | ⟨passes, _⟩
  · cases same
    exact final raw rfl
  · rcases passes _ List.mem_cons_self with ⟨raw, event, _⟩
    exact final raw event

theorem finishes_last (last : Delivery) (final : ∀ raw, last ≠ .event raw)
    (fault : Option LinkFault) (ends : ∀ other, last.Ends other ↔ other = fault)
    (ending : Timed (Option LinkFault)) :
    Finishes (⟨time, last⟩ :: rest) ending ↔ ending = ⟨time, fault⟩ := by
  rw [finishes_cons, ends]
  cases ending
  simp [Passes, final]

theorem brings_read (event : Event) (read : Event.ofJson raw = .ok event) (taken : Timed Event) :
    Brings (⟨time, .event raw⟩ :: rest) taken ↔ taken = ⟨time, event⟩ ∨ rest.Brings taken := by
  have passes := Event.not_endless_of_ok raw event read
  rw [brings_cons, passes_event]
  constructor
  · intro either
    rcases either with ⟨other, same, found⟩ | ⟨_, later⟩
    · cases same
      rw [read] at found
      cases found
      exact Or.inl rfl
    · exact Or.inr later
  · intro either
    rcases either with rfl | later
    · exact Or.inl ⟨raw, rfl, read⟩
    · exact Or.inr ⟨passes, later⟩

theorem brings_unread (fault : ValueFault) (failed : Event.ofJson raw = .error fault)
    (taken : Timed Event) :
    Brings (⟨time, .event raw⟩ :: rest) taken ↔ ¬Event.Endless raw ∧ rest.Brings taken := by
  rw [brings_cons, passes_event]
  constructor
  · intro either
    rcases either with ⟨other, same, found⟩ | later
    · cases same
      rw [failed] at found
      cases found
    · exact later
  · exact Or.inr

theorem finishes_passing (passes : ¬Event.Endless raw) (ending : Timed (Option LinkFault)) :
    Finishes (⟨time, .event raw⟩ :: rest) ending ↔ rest.Finishes ending := by
  rw [finishes_cons, passes_event, Delivery.ends_event]
  simp [passes]

theorem finishes_endless (endless : Event.Endless raw) (ending : Timed (Option LinkFault)) :
    Finishes (⟨time, .event raw⟩ :: rest) ending ↔
      ending = ⟨time, some (.value .tooLarge)⟩ := by
  rw [finishes_cons, passes_event, Delivery.ends_event]
  cases ending
  simp [endless]

end Heads

section Front

variable (front : Feed) (time : Rat) (raw : Json) (back : Feed) (why : ValueFault)
variable (failed : Event.ofJson raw = .error why)

theorem brings_append (one other : Feed) (same : ∀ taken, Brings one taken ↔ Brings other taken)
    (taken : Timed Event) : Brings (front ++ one) taken ↔ Brings (front ++ other) taken := by
  induction front with
  | nil => exact same taken
  | cons head front ih => rw [List.cons_append, List.cons_append, brings_cons, brings_cons, ih]

include failed

theorem brings_malformed (passes : ¬Event.Endless raw) (taken : Timed Event) :
    Brings (front ++ ⟨time, .event raw⟩ :: back) taken ↔ Brings (front ++ back) taken := by
  apply brings_append
  intro taken
  rw [brings_unread time raw back why failed]
  exact and_iff_right passes

theorem brings_endless (endless : Event.Endless raw) (taken : Timed Event) :
    Brings (front ++ ⟨time, .event raw⟩ :: back) taken ↔ Brings front taken := by
  rw [← List.append_nil front, List.append_assoc]
  apply brings_append
  intro taken
  rw [List.nil_append, brings_unread time raw back why failed]
  simp [endless, not_brings_nil]

end Front

end Feed

end TradeWire
