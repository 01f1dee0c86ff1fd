import TradeWire.Proofs.Collection
/-! What is merged by time keeps the order of each sequence, and what relays bring comes in the
order of time. -/

namespace TradeWire

/-- Several sequences as one, each in its own order. -/
inductive Interleaves {α : Type} : List (List α) → List α → Prop where
  | nil (sequences : List (List α)) (empty : ∀ sequence ∈ sequences, sequence = []) :
      Interleaves sequences []
  | cons (front back : List (List α)) (item : α) (rest items : List α)
      (others : Interleaves (front ++ rest :: back) items) :
      Interleaves (front ++ (item :: rest) :: back) (item :: items)

namespace Interleaves

variable {α : Type}

theorem empty_first (sequences : List (List α)) (items : List α)
    (interleaves : Interleaves sequences items) : Interleaves ([] :: sequences) items := by
  induction interleaves with
  | nil sequences empty => exact .nil _ (List.forall_mem_cons.mpr ⟨rfl, empty⟩)
  | cons front back item rest items _ ih => exact .cons ([] :: front) back item rest items ih

/-- An item can be put in front of its sequence wherever nothing of that comes earlier. -/
theorem put_first (first : List α) (others : List (List α)) (item : α) (before after : List α)
    (foreign : ∀ earlier ∈ before, earlier ∉ first)
    (interleaves : Interleaves (first :: others) (before ++ after)) :
    Interleaves ((item :: first) :: others) (before ++ item :: after) := by
  induction before generalizing others with
  | nil => exact .cons [] others item first after interleaves
  | cons earlier before ih =>
      rw [List.forall_mem_cons] at foreign
      generalize whole : first :: others = sequences at interleaves
      cases interleaves with
      | cons front back _ rest _ later =>
          cases front with
          | nil =>
              cases whole
              exact absurd List.mem_cons_self foreign.1
          | cons _ front =>
              cases whole
              exact .cons ((item :: first) :: front) back earlier rest _ (ih _ foreign.2 later)

end Interleaves

namespace Timed

variable {α : Type}

def Sorted (sequence : List (Timed α)) : Prop := sequence.Pairwise fun a b => a.time ≤ b.time

theorem interleaves_merge (sequences : List (List (Timed α)))
    (sorted : ∀ sequence ∈ sequences, Sorted sequence) :
    Interleaves sequences (merge sequences) := by
  have trans : ∀ a b c : Timed α, decide (a.time ≤ b.time) → decide (b.time ≤ c.time) →
      decide (a.time ≤ c.time) := by simpa using fun a b c => Rat.le_trans
  have total : ∀ a b : Timed α, decide (a.time ≤ b.time) || decide (b.time ≤ a.time) := by
    simpa using fun a b => Rat.le_total
  induction sequences with
  | nil =>
      have none : merge ([] : List (List (Timed α))) = [] := by simp [merge]
      rw [none]
      exact .nil [] (List.forall_mem_nil _)
  | cons first others ih =>
      rw [List.forall_mem_cons] at sorted
      obtain ⟨ordered, othersSorted⟩ := sorted
      induction first with
      | nil => exact (ih othersSorted).empty_first
      | cons item first ihFirst =>
          rw [Sorted, List.pairwise_cons] at ordered
          obtain ⟨before, after, whole, rest, above⟩ :=
            List.mergeSort_cons trans total item (first ++ others.flatten)
          have merged : merge ((item :: first) :: others) = before ++ item :: after := whole
          have interleaves : Interleaves (first :: others) (before ++ after) := by
            rw [← rest]
            exact ihFirst ordered.2
          rw [merged]
          apply interleaves.put_first
          intro earlier member inFirst
          have later := above earlier member
          simp [ordered.1 earlier inFirst] at later

theorem le_later (early time : Rat) : early ≤ later early time := by
  rw [later]
  split
  · assumption
  · exact Rat.le_refl

theorem inOrder_sorted (earliest : Rat) (sequence : List (Timed α)) :
    Sorted (inOrder earliest sequence) ∧
      ∀ item ∈ inOrder earliest sequence, earliest ≤ item.time := by
  induction sequence generalizing earliest with
  | nil => exact ⟨List.Pairwise.nil, List.forall_mem_nil _⟩
  | cons first rest ih =>
      have later := le_later earliest first.time
      obtain ⟨sorted, after⟩ := ih (Timed.later earliest first.time)
      refine ⟨List.pairwise_cons.mpr ⟨after, sorted⟩, List.forall_mem_cons.mpr ⟨later, ?_⟩⟩
      intro item member
      exact Rat.le_trans later (after item member)

theorem Sorted.of_sublist {β : Type} {sequence : List (Timed α)} {part : List (Timed β)}
    (sorted : Sorted sequence)
    (sublist : (part.map (·.time)).Sublist (sequence.map (·.time))) : Sorted part := by
  rw [Sorted, ← List.pairwise_map (f := Timed.time) (R := (· ≤ ·))] at sorted ⊢
  exact sorted.sublist sublist

section Waiting

variable (waits : Rat → Bool) (steady : ∀ early late, early ≤ late → waits late → waits early)
include steady

theorem Sorted.takeWhile_append (front back : List (Timed α)) (item : Timed α)
    (sorted : Sorted (front ++ item :: back)) (soon : waits item.time) :
    (front ++ item :: back).takeWhile (fun item => waits item.time) =
      front ++ item :: back.takeWhile fun item => waits item.time := by
  have early : ∀ earlier ∈ front, waits earlier.time := by
    intro earlier member
    have order := (List.pairwise_append.mp sorted).2.2 earlier member item List.mem_cons_self
    exact steady _ _ order soon
  rw [List.takeWhile_append_of_pos early]
  exact congrArg (front ++ ·) (List.takeWhile_cons_of_pos soon)

theorem Sorted.mem_takeWhile (sequence : List (Timed α)) (sorted : Sorted sequence)
    (item : Timed α) :
    item ∈ sequence.takeWhile (fun item => waits item.time) ↔
      item ∈ sequence ∧ waits item.time := by
  let soon (item : Timed α) : Bool := waits item.time
  constructor
  · intro member
    have held : soon item := List.mem_takeWhile_imp member
    exact ⟨(List.takeWhile_sublist _).subset member, held⟩
  · rintro ⟨member, soon⟩
    obtain ⟨front, back, rfl⟩ := List.append_of_mem member
    rw [sorted.takeWhile_append waits steady _ _ _ soon]
    simp

end Waiting

end Timed

namespace Feed

theorem times_ofFrames (url id : String) (closeWhenDrained : Bool) (room : Option Nat)
    (frames : List (Timed Frame)) :
    ((ofFrames url id closeWhenDrained room frames).map (·.time)).Sublist
      (frames.map (·.time)) := by
  have final (time : Rat) (rest : List Rat) : [time].Sublist (time :: rest) :=
    (List.nil_sublist rest).cons_cons time
  fun_induction ofFrames url id closeWhenDrained room frames with
  | case1 => exact List.Sublist.refl []
  | case2 time frame rest silent ih => exact ih.cons time
  | case3 time frame rest fields event ih => exact ih.cons_cons time
  | case4 time frame rest unpaired ih => exact ih.cons_cons time
  | case5 time frame rest drained => exact final time _
  | case6 time frame rest drained _ ih => exact ih.cons time
  | case7 time frame rest closed => exact final time _
  | case8 time frame rest fault failed => exact final time _

theorem closes_ofFrames (url id : String) (closeWhenDrained : Bool) (room : Option Nat)
    (frames : List (Timed Frame)) :
    (ofFrames url id closeWhenDrained room frames).Pairwise fun a _ => a.item.closes = false := by
  fun_induction ofFrames url id closeWhenDrained room frames with
  | case1 => exact List.Pairwise.nil
  | case2 time frame rest silent ih => exact ih
  | case3 time frame rest fields event ih => exact List.pairwise_cons.mpr ⟨fun _ _ => rfl, ih⟩
  | case4 time frame rest unpaired ih => exact List.pairwise_cons.mpr ⟨fun _ _ => rfl, ih⟩
  | case5 time frame rest drained => exact List.pairwise_singleton _ _
  | case6 time frame rest drained _ ih => exact ih
  | case7 time frame rest closed => exact List.pairwise_singleton _ _
  | case8 time frame rest fault failed => exact List.pairwise_singleton _ _

theorem le_closedAfter (seconds : Rat) (positive : 0 ≤ seconds) (delivery : Timed Delivery) :
    delivery.time ≤
      (if delivery.item.closes then { delivery with time := delivery.time + seconds }
        else delivery).time := by
  split
  · simpa using add_le_add_right positive delivery.time
  · exact Rat.le_refl

theorem sorted_closedAfter (seconds : Rat) (positive : 0 ≤ seconds) (feed : Feed)
    (sorted : Timed.Sorted feed) (last : feed.Pairwise fun a _ => a.item.closes = false) :
    Timed.Sorted (feed.closedAfter seconds) := by
  rw [closedAfter, Timed.Sorted, List.pairwise_map]
  refine (sorted.and last).imp ?_
  rintro one other ⟨order, stays⟩
  rw [stays, if_neg Bool.false_ne_true]
  exact Rat.le_trans order (le_closedAfter seconds positive other)

end Feed

theorem Haul.times_ofFeed (feed : Feed) :
    ((ofFeed feed).events.map (·.time)).Sublist (feed.map (·.time)) := by
  fun_induction ofFeed feed with
  | case1 => exact List.Sublist.refl []
  | case2 | case3 | case4 | case5 | case8 => exact List.nil_sublist _
  | case6 time raw rest event read ih => exact ih.cons_cons time
  | case7 time raw rest fault failed content _ ih => exact ih.cons time

theorem Connection.sorted_subscribe (connection : Connection) (url id : String) (filters : Fields)
    (closeWhenDrained : Bool) :
    Timed.Sorted (connection.subscribe url id filters closeWhenDrained).outcome := by
  unfold subscribe
  split
  · exact List.pairwise_singleton _ _
  · apply Feed.sorted_closedAfter
    · exact Timed.le_later 0 connection.closing
    · have taken : Timed.Sorted connection.taken := (Timed.inOrder_sorted _ _).1
      exact taken.of_sublist (Feed.times_ofFrames _ _ _ _ _)
    · exact Feed.closes_ofFrames _ _ _ _ _

theorem Relay.sorted_subscribe (relay : Relay) (filters : Fields) (closeWhenDrained : Bool)
    (supply : Supply) :
    Timed.Sorted (relay.subscribe filters closeWhenDrained supply).1.1.outcome := by
  rcases relay with ⟨url, link, traffic⟩
  cases link with
  | direct feeds publications => exact (Timed.inOrder_sorted 0 _).1
  | socket connections => exact Connection.sorted_subscribe _ url _ filters closeWhenDrained

namespace Network

theorem sorted_subscribeEach (filters : Fields) (closeWhenDrained : Bool) (relays : List Relay)
    (supply : Supply) :
    ∀ subscribed ∈ (subscribeEach filters closeWhenDrained relays supply).1,
      Timed.Sorted subscribed.1.outcome := by
  induction relays generalizing supply with
  | nil => exact List.forall_mem_nil _
  | cons relay relays ih =>
      rw [subscribeEach_cons]
      exact List.forall_mem_cons.mpr ⟨relay.sorted_subscribe filters closeWhenDrained supply, ih _⟩

def feedsInTime (network : Network) (filters : Fields) (limit : Number.Double) : List Feed :=
  (network.subscribe filters true).1.map fun call => call.outcome.inTime limit.seconds

theorem hauls_eq (network : Network) (filters : Fields) (limit : Number.Double) :
    (network.hauls filters limit).map (·.2.events) =
      (network.feedsInTime filters limit).map fun feed => (Haul.ofFeed feed).events := by
  simp only [hauls, feedsInTime, subscribe_fst, List.map_map]
  rfl

theorem sorted_hauls (network : Network) (filters : Fields) (limit : Number.Double) :
    ∀ events ∈ (network.hauls filters limit).map (·.2.events), Timed.Sorted events := by
  rw [hauls, List.map_map, List.forall_mem_map]
  intro subscribed member
  have sorted := sorted_subscribeEach filters true network.relays network.supply subscribed member
  have inTime : Timed.Sorted (subscribed.1.outcome.inTime limit.seconds) :=
    sorted.sublist (List.takeWhile_sublist _)
  exact inTime.of_sublist (Haul.times_ofFeed _)

end Network

end TradeWire
