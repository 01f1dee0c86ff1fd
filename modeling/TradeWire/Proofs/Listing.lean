import TradeWire.Client.Listing
import TradeWire.Proofs.Collection
import TradeWire.Proofs.Order.Book
/-! A list of orders depends on which events are brought, and not on when, by which relays or how
often. -/

namespace TradeWire

namespace Order

theorem ofEvent?_createdAt (event : Event) (order : Order) (found : ofEvent? event = some order) :
    order.createdAt = some event.createdAt := by
  rw [ofEvent?] at found
  split at found
  · split at found
    · cases found
      rfl
    · cases found
  · cases found

/-- No two different events are versions of one order with one time. -/
def Apart (among : Event → Prop) : Prop :=
  ∀ a b one two, among a → among b → ofEvent? a = some one → ofEvent? b = some two →
    one.id = two.id → one.createdAt = two.createdAt → a = b

theorem mem_list (query : Query) (events : List Event) (order : Order)
    (listed : order ∈ list query events) : ∃ event ∈ events, ofEvent? event = some order := by
  rw [list, latestFirst, List.mem_mergeSort] at listed
  have version := mem_of_newest id time _ order (List.mem_of_mem_filter listed)
  exact List.mem_filterMap.mp version

/-- The orders of the same events are listed with the same times at the same places. -/
theorem list_congr (query : Query) (first second : List Event)
    (same : ∀ event, event ∈ first ↔ event ∈ second) (apart : Apart (· ∈ first)) :
    (list query first).Perm (list query second) ∧
      (list query first).map (·.createdAt) = (list query second).map (·.createdAt) := by
  have versions (order : Order) :
      order ∈ first.filterMap ofEvent? ↔ order ∈ second.filterMap ofEvent? := by
    simp only [List.mem_filterMap, same]
  have single : TradeWire.Apart id time (first.filterMap ofEvent?) := by
    intro one memberOne two memberTwo ids times
    rcases List.mem_filterMap.mp memberOne with ⟨a, memberA, ofA⟩
    rcases List.mem_filterMap.mp memberTwo with ⟨b, memberB, ofB⟩
    have createdA := ofEvent?_createdAt a one ofA
    have createdB := ofEvent?_createdAt b two ofB
    have created : one.createdAt = two.createdAt := by
      rw [time, time, createdA, createdB] at times
      rw [createdA, createdB]
      exact congrArg some times
    have equal := apart a b one two memberA memberB ofA ofB ids created
    subst equal
    rw [ofA] at ofB
    exact Option.some.inj ofB
  have newestPerm := newest_perm id time _ _ versions single
  have sorted := latestFirst_perm time _ _ (newestPerm.filter query.accepts)
  have known (events : List Event) : (list query events).map (·.createdAt) =
      ((list query events).map time).map some := by
    rw [List.map_map]
    apply List.map_congr_left
    intro order listed
    rcases mem_list query events order listed with ⟨event, _, found⟩
    have created := ofEvent?_createdAt event order found
    simp [time, created]
  refine ⟨sorted.1, ?_⟩
  rw [known, known]
  exact congrArg (List.map some) sorted.2

end Order

namespace Network

theorem brings_of_mem_events (network : Network) (filters : Fields) (limit : Number.Double)
    (event : Event) (member : event ∈ (network.hauls filters limit).events) :
    network.Brings filters limit event := by
  rw [Catch.events, latestFirst, List.mem_mergeSort, mem_distinctEvents] at member
  rcases member with ⟨before, after, merged, _⟩
  have inside : event ∈ before ++ event :: after := List.mem_append_right _ List.mem_cons_self
  rw [← merged, List.mem_map] at inside
  rcases inside with ⟨taken, found, same⟩
  rcases (Timed.mem_merge _ taken).mp found with ⟨sequence, source, brought⟩
  rcases List.mem_map.mp source with ⟨haul, hauled, rfl⟩
  exact (brings_iff_hauls network filters limit event).mpr ⟨haul, hauled, taken, brought, same⟩

def SingleIds (network : Network) (filters : Fields) (limit : Number.Double) : Prop :=
  ∀ a b, network.Brings filters limit a → network.Brings filters limit b → a.id = b.id → a = b

theorem mem_events (network : Network) (filters : Fields) (limit : Number.Double)
    (single : network.SingleIds filters limit) (event : Event) :
    event ∈ (network.hauls filters limit).events ↔ network.Brings filters limit event := by
  constructor
  · exact brings_of_mem_events network filters limit event
  · intro brought
    rcases (ids_hauls network filters limit event.id).mpr ⟨event, brought, rfl⟩ with
      ⟨kept, member, same⟩
    have alsoBrought := brings_of_mem_events network filters limit kept member
    exact single kept event alsoBrought brought same ▸ member

theorem fetch_ok (network : Network) (listing : Listing) (params : Filter.Params)
    (limit : Number.Double) (filters : Fields) (asked : Filter.build listing params = .ok filters)
    (events : List Event) (fetched : (fetch listing params limit network).1 = .ok events) :
    events = (network.hauls filters limit).events := by
  simp only [fetch, asked] at fetched
  exact fetched_events network filters limit events fetched

/-- Two networks that bring the same events, whenever, from whichever relays and however often, are
listed with the same orders, and with the same times at the same places. -/
theorem list_of_same_events (first second : Network) (author : String) (query : Order.Query)
    (firstLimit secondLimit : Number.Double) (firstEvents secondEvents : List Event)
    (firstFetched : (fetch .orders { author := author } firstLimit first).1 = .ok firstEvents)
    (secondFetched : (fetch .orders { author := author } secondLimit second).1 = .ok secondEvents)
    (filters : Fields) (asked : Filter.build .orders { author := author } = .ok filters)
    (same : ∀ event,
      first.Brings filters firstLimit event ↔ second.Brings filters secondLimit event)
    (single : first.SingleIds filters firstLimit)
    (apart : Order.Apart (first.Brings filters firstLimit)) :
    (Order.list query firstEvents).Perm (Order.list query secondEvents) ∧
      (Order.list query firstEvents).map (·.createdAt) =
        (Order.list query secondEvents).map (·.createdAt) := by
  have alsoSingle : second.SingleIds filters secondLimit := by
    intro a b broughtA broughtB
    exact single a b ((same a).mpr broughtA) ((same b).mpr broughtB)
  have members := mem_events first filters firstLimit single
  rw [fetch_ok first _ _ _ _ asked _ firstFetched, fetch_ok second _ _ _ _ asked _ secondFetched]
  apply Order.list_congr
  · intro event
    rw [members, mem_events second filters secondLimit alsoSingle, same]
  · simpa only [Order.Apart, members] using apart

def stored (events : List Event) : List Delivery :=
  events.map (fun event => .event event.toJson) ++ [.drained]

theorem brings_stored (events : List Event) (named : ∀ event ∈ events, event.id ≠ "")
    (taken : Timed Event) :
    (Feed.atOnce (stored events)).Brings taken ↔ taken.time = 0 ∧ taken.item ∈ events := by
  induction events with
  | nil => simp [stored, Feed.atOnce, Feed.not_brings_last]
  | cons event events ih =>
      rw [List.forall_mem_cons] at named
      have read : Event.ofJson event.toJson = .ok event := Event.ofFields_toFields event named.1
      have first := Feed.brings_read 0 _ (Feed.atOnce (stored events)) event read taken
      rw [ih named.2] at first
      rw [List.mem_cons, and_or_left]
      apply first.trans
      cases taken
      simp

def storing (offers : List (String × List Event)) : Network :=
  bringing (offers.map fun offer => (offer.1, stored offer.2))

theorem brings_storing (offers : List (String × List Event))
    (named : ∀ offer ∈ offers, ∀ event ∈ offer.2, event.id ≠ "") (filters : Fields)
    (limit : Number.Double) (event : Event) :
    (storing offers).Brings filters limit event ↔ ∃ offer ∈ offers, event ∈ offer.2 := by
  simp only [Brings, storing, outcomes_bringing, List.mem_map, exists_exists_and_eq_and,
    Feed.inTime_atOnce]
  apply exists_congr
  intro offer
  apply and_congr_right
  intro member
  simp [brings_stored offer.2 (named offer member)]

theorem ofFeed_stored (events : List Event) (named : ∀ event ∈ events, event.id ≠ "") :
    Haul.ofFeed (Feed.atOnce (stored events)) =
      { events := events.map fun event => ⟨0, event⟩, answered := true,
        ending := some ⟨0, none⟩ } := by
  induction events with
  | nil => rfl
  | cons event events ih =>
      rw [List.forall_mem_cons] at named
      exact (ofFeed_toJson event named.1 (stored events)).trans (by rw [ih named.2]; rfl)

theorem events_stored (offers : List (String × List Event))
    (named : ∀ offer ∈ offers, ∀ event ∈ offer.2, event.id ≠ "") :
    Catch.events (offers.map fun offer =>
        (offer.1, Haul.ofFeed (Feed.atOnce (stored offer.2)))) =
      latestFirst Event.createdAt (distinctEvents (offers.flatMap (·.2))) := by
  have hauled : (offers.map fun offer => (offer.1, Haul.ofFeed (Feed.atOnce (stored offer.2)))).map
      (·.2.events) = (offers.map (·.2)).map fun events => events.map fun event => ⟨0, event⟩ := by
    rw [List.map_map, List.map_map]
    apply List.map_congr_left
    intro offer member
    exact congrArg Haul.events (ofFeed_stored offer.2 (named offer member))
  rw [Catch.events, hauled, Timed.merge_atOnce]
  rfl

theorem fetchFilter_storing (offers : List (String × List Event)) (stocked : offers ≠ [])
    (named : ∀ offer ∈ offers, ∀ event ∈ offer.2, event.id ≠ "") (filters : Fields)
    (limit : Number.Double) :
    (fetchFilter filters limit (storing offers)).1 =
      .ok (latestFirst Event.createdAt (distinctEvents (offers.flatMap (·.2)))) := by
  have hauled : ∀ offer ∈ offers, Haul.ofFeed (Feed.atOnce (stored offer.2)) =
      { events := offer.2.map fun event => ⟨0, event⟩, answered := true,
        ending := some ⟨0, none⟩ } :=
    fun offer member => ofFeed_stored offer.2 (named offer member)
  have fetched := fetchFilter_bringing (offers.map fun offer => (offer.1, stored offer.2)) filters
    limit (List.forall_mem_map.mpr fun offer member => by rw [hauled offer member]; rfl)
    (List.forall_mem_map.mpr fun offer member => by rw [hauled offer member]; nofun) (by
      rcases List.exists_mem_of_ne_nil offers stocked with ⟨offer, member⟩
      exact ⟨_, List.mem_map_of_mem member, by rw [hauled offer member]; rfl⟩)
  rw [List.map_map] at fetched
  exact fetched.trans (congrArg Except.ok (events_stored offers named))

def offerOf (id orderId : String) (createdAt : Int) : Event where
  id := id
  pubkey := "daemon"
  createdAt := createdAt
  kind := Event.orderKind
  tags := [["d", orderId], ["k", "sell"], ["f", "EUR"], ["pm", "cash"]]
  content := ""

def oldOffer : Event := offerOf "c" "x" 1
def newOffer : Event := offerOf "a" "x" 2
def otherOffer : Event := offerOf "b" "y" 2

/-- Two orders of one time, one of them with an older version, from one relay and from two. -/
theorem list_of_same_events_ties :
    (fetch .orders { author := "daemon" } (.finite false 15 0)
      (storing [("one", [newOffer, otherOffer, oldOffer])])).1 =
        .ok [newOffer, otherOffer, oldOffer] ∧
    (fetch .orders { author := "daemon" } (.finite false 15 0)
      (storing [("one", [otherOffer]), ("two", [newOffer, oldOffer])])).1 =
        .ok [otherOffer, newOffer, oldOffer] ∧
    (Order.list {} [newOffer, otherOffer, oldOffer]).Perm
        (Order.list {} [otherOffer, newOffer, oldOffer]) ∧
      (Order.list {} [newOffer, otherOffer, oldOffer]).map (·.createdAt) =
        (Order.list {} [otherOffer, newOffer, oldOffer]).map (·.createdAt) := by
  have one (filters : Fields) (limit : Number.Double) (event : Event) :
      (storing [("one", [newOffer, otherOffer, oldOffer])]).Brings filters limit event ↔
        event ∈ [newOffer, otherOffer, oldOffer] := by
    rw [brings_storing _ (by decide)]
    simp
  have two (filters : Fields) (limit : Number.Double) (event : Event) :
      (storing [("one", [otherOffer]), ("two", [newOffer, oldOffer])]).Brings filters limit event ↔
        event ∈ [otherOffer, newOffer, oldOffer] := by
    rw [brings_storing _ (by decide)]
    simp
  have ids : ∀ a ∈ [newOffer, otherOffer, oldOffer], ∀ b ∈ [newOffer, otherOffer, oldOffer],
      a.id = b.id → a = b := by decide
  have versions : ∀ a ∈ [newOffer, otherOffer, oldOffer],
      ∀ b ∈ [newOffer, otherOffer, oldOffer],
        (Order.ofEvent? a).map (·.id) = (Order.ofEvent? b).map (·.id) →
          a.createdAt = b.createdAt → a = b := by decide +kernel
  have fetchedOnce : (fetch .orders { author := "daemon" } (.finite false 15 0)
      (storing [("one", [newOffer, otherOffer, oldOffer])])).1 =
        .ok [newOffer, otherOffer, oldOffer] :=
    (fetchFilter_storing _ (by decide) (by decide) _ _).trans
      (congrArg Except.ok (List.mergeSort_of_pairwise (by decide)))
  have fetchedTwice : (fetch .orders { author := "daemon" } (.finite false 15 0)
      (storing [("one", [otherOffer]), ("two", [newOffer, oldOffer])])).1 =
        .ok [otherOffer, newOffer, oldOffer] :=
    (fetchFilter_storing _ (by decide) (by decide) _ _).trans
      (congrArg Except.ok (List.mergeSort_of_pairwise (by decide)))
  refine ⟨fetchedOnce, fetchedTwice, list_of_same_events _ _ "daemon" {} _ _ _ _ fetchedOnce
    fetchedTwice _ rfl ?_ ?_ ?_⟩
  · intro event
    rw [one, two]
    exact (List.Perm.swap otherOffer newOffer [oldOffer]).mem_iff
  · intro a b broughtA broughtB
    exact ids a ((one _ _ a).mp broughtA) b ((one _ _ b).mp broughtB)
  · intro a b first second broughtA broughtB ofA ofB sameId times
    rw [Order.ofEvent?_createdAt a first ofA, Order.ofEvent?_createdAt b second ofB] at times
    apply versions a ((one _ _ a).mp broughtA) b ((one _ _ b).mp broughtB)
    · rw [ofA, ofB, Option.map_some, Option.map_some, sameId]
    · exact Option.some.inj times

end Network

end TradeWire
