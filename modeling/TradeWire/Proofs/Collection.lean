import TradeWire.Proofs.Fetch
import TradeWire.Proofs.Inbox
/-! What a fetch collects: an object that cannot be read costs itself only, but for one with an
infinite number, which costs all that its relay brings behind it. -/

namespace TradeWire

theorem Timed.mem_merge {α : Type} (sequences : List (List (Timed α))) (item : Timed α) :
    item ∈ merge sequences ↔ ∃ sequence ∈ sequences, item ∈ sequence := by
  rw [merge, List.mem_mergeSort, List.mem_flatten]

theorem Timed.merge_sorted {α : Type} (sequences : List (List (Timed α))) :
    (merge sequences).Pairwise fun a b => a.time ≤ b.time := by
  have sorted := @List.pairwise_mergeSort _ (fun a b : Timed α => decide (a.time ≤ b.time))
    (by simpa using fun a b c => Rat.le_trans) (by simpa using fun a b => Rat.le_total)
    sequences.flatten
  simpa [merge] using sorted

theorem Timed.merge_atOnce {α : Type} (sequences : List (List α)) :
    (merge (sequences.map fun items => items.map fun item => ⟨0, item⟩)).map (·.item) =
      sequences.flatten := by
  have start : (sequences.map fun items => items.map fun item => Timed.mk 0 item).flatten =
      sequences.flatten.map fun item => ⟨0, item⟩ := by
    rw [List.map_flatten]
  rw [merge, start]
  generalize sequences.flatten = items
  rw [List.mergeSort_of_pairwise]
  · rw [List.map_map]
    exact List.map_id items
  · rw [List.pairwise_map]
    exact List.pairwise_of_forall fun _ _ => by simp

theorem Catch.ids_events (hauls : Catch) (id : String) :
    (∃ event ∈ hauls.events, event.id = id) ↔
      ∃ haul ∈ hauls, ∃ taken ∈ haul.2.events, taken.item.id = id := by
  simp only [events, latestFirst, List.mem_mergeSort, distinctEvents_ids, List.mem_map,
    Timed.mem_merge]
  constructor
  · intro collected
    rcases collected with ⟨_, ⟨taken, ⟨_, ⟨haul, member, rfl⟩, brought⟩, rfl⟩, same⟩
    exact ⟨haul, member, taken, brought, same⟩
  · intro found
    rcases found with ⟨haul, member, taken, brought, same⟩
    exact ⟨taken.item, ⟨taken, ⟨_, ⟨haul, member, rfl⟩, brought⟩, rfl⟩, same⟩

namespace Feed

theorem breaks_iff_finishes (feed : Feed) (fault : LinkFault) :
    feed.Breaks fault ↔ ∃ time, feed.Finishes ⟨time, some fault⟩ := by
  rw [← Haul.fault_ofFeed, Haul.fault?, Option.bind_eq_some_iff]
  constructor
  · intro found
    rcases found with ⟨⟨time, item⟩, ended, same⟩
    cases same
    exact ⟨time, (Haul.ending_ofFeed feed _).mp ended⟩
  · intro found
    rcases found with ⟨time, finished⟩
    exact ⟨_, (Haul.ending_ofFeed feed _).mpr finished, rfl⟩

/-- A feed with nothing that no value can hold breaks where it fails, or at an endless object. -/
theorem exists_breaks (feed : Feed) (held : ¬feed.Breaks (.value .unpaired)) :
    (∃ fault, feed.Breaks fault) ↔
      (∃ time fault, feed.Reaches ⟨time, .failed fault⟩) ∨
        ∃ time raw, feed.Reaches ⟨time, .event raw⟩ ∧ Event.Endless raw := by
  simp only [breaks_iff_finishes] at held ⊢
  constructor
  · intro found
    rcases found with ⟨fault, time, last, reached, ends⟩
    cases ends with
    | failed => exact Or.inl ⟨time, fault, reached⟩
    | unpaired => exact absurd ⟨time, _, reached, .unpaired⟩ held
    | endless raw endless => exact Or.inr ⟨time, raw, reached, endless⟩
  · intro either
    rcases either with ⟨time, fault, reached⟩ | ⟨time, raw, reached, endless⟩
    · exact ⟨fault, time, _, reached, .failed fault⟩
    · exact ⟨_, time, _, reached, .endless raw endless⟩

end Feed

namespace Network

def Brings (network : Network) (filters : Fields) (limit : Number.Double) (event : Event) : Prop :=
  ∃ feed ∈ (network.subscribe filters true).1.map (·.outcome), ∃ time,
    (feed.inTime limit.seconds).Brings ⟨time, event⟩

theorem brings_iff_hauls (network : Network) (filters : Fields) (limit : Number.Double)
    (event : Event) :
    network.Brings filters limit event ↔
      ∃ haul ∈ network.hauls filters limit, ∃ taken ∈ haul.2.events, taken.item = event := by
  simp only [Brings, subscribe_fst, hauls, List.mem_map, exists_exists_and_eq_and,
    Haul.mem_events_ofFeed]
  apply exists_congr
  intro pair
  apply and_congr_right
  intro _
  constructor
  · intro found
    rcases found with ⟨time, brought⟩
    exact ⟨⟨time, event⟩, brought, rfl⟩
  · intro found
    rcases found with ⟨⟨time, _⟩, brought, rfl⟩
    exact ⟨time, brought⟩

theorem ids_hauls (network : Network) (filters : Fields) (limit : Number.Double) (id : String) :
    (∃ event ∈ (network.hauls filters limit).events, event.id = id) ↔
      ∃ event, network.Brings filters limit event ∧ event.id = id := by
  simp only [Catch.ids_events, brings_iff_hauls]
  constructor
  · intro collected
    rcases collected with ⟨haul, member, taken, brought, same⟩
    exact ⟨taken.item, ⟨haul, member, taken, brought, rfl⟩, same⟩
  · intro found
    rcases found with ⟨_, ⟨haul, member, taken, brought, rfl⟩, same⟩
    exact ⟨haul, member, taken, brought, same⟩

theorem fetchFilter_cases (network : Network) (filters : Fields) (limit : Number.Double)
    (held : network.Held filters limit) (ends : network.Ends filters limit) :
    (fetchFilter filters limit network).1 = .ok (network.hauls filters limit).events ∨
      ∃ outage, (fetchFilter filters limit network).1 = .error (.outage outage) := by
  by_cases unreachable : network.Unreachable filters limit
  · exact Or.inr ⟨_, fetchFilter_of_unreachable network filters limit held ends unreachable⟩
  · exact Or.inl (fetchFilter_of_reachable network filters limit held ends unreachable)

theorem fetched_events (network : Network) (filters : Fields) (limit : Number.Double)
    (events : List Event) (fetched : (fetchFilter filters limit network).1 = .ok events) :
    events = (network.hauls filters limit).events := by
  by_cases held : network.Held filters limit
  · by_cases ends : network.Ends filters limit
    · rcases fetchFilter_cases network filters limit held ends with ok | ⟨outage, failed⟩
      · exact Except.ok.inj (fetched.symm.trans ok)
      · cases fetched.symm.trans failed
    · cases fetched.symm.trans (fetchFilter_endless network filters limit held ends)
  · cases fetched.symm.trans (fetchFilter_unpaired network filters limit held)

/-- A fetch that comes to its end ends with an outage or with what it has collected. Collected are
the ids of all events that are brought; an object that cannot be read costs itself only, unless it
is endless, and then all that its relay brings behind it, and the relay fails. What comes of a fetch
that brings what no value can hold is left open. -/
theorem fetch_collects (network : Network) (filters : Fields) (limit : Number.Double) :
    (¬network.Held filters limit →
      (fetchFilter filters limit network).1 = .error (.value .unpaired)) ∧
    (network.Held filters limit →
      (network.Ends filters limit →
        (fetchFilter filters limit network).1 = .ok (network.hauls filters limit).events ∨
          ∃ outage, (fetchFilter filters limit network).1 = .error (.outage outage)) ∧
      (¬network.Ends filters limit → (fetchFilter filters limit network).1 = .error .endless) ∧
      (∀ call ∈ (network.subscribe filters true).1, call.outcome.FailsBy limit.seconds ↔
        call.outcome.inTime limit.seconds = [] ∨
          (∃ time fault, (call.outcome.inTime limit.seconds).Reaches ⟨time, .failed fault⟩) ∨
            ∃ time raw, (call.outcome.inTime limit.seconds).Reaches ⟨time, .event raw⟩ ∧
              Event.Endless raw)) ∧
    (∀ id, (∃ event ∈ (network.hauls filters limit).events, event.id = id) ↔
      ∃ event, network.Brings filters limit event ∧ event.id = id) ∧
    ∀ (front : Feed) (time : Rat) (raw : Json) (back : Feed) (why : ValueFault),
      Event.ofJson raw = .error why → ∀ taken,
        (¬Event.Endless raw → ((front ++ ⟨time, .event raw⟩ :: back).Brings taken ↔
          (front ++ back).Brings taken)) ∧
        (Event.Endless raw → ((front ++ ⟨time, .event raw⟩ :: back).Brings taken ↔
          front.Brings taken)) := by
  refine ⟨fetchFilter_unpaired network filters limit, ?_, ids_hauls network filters limit, ?_⟩
  · intro held
    refine ⟨fetchFilter_cases network filters limit held,
      fetchFilter_endless network filters limit held, ?_⟩
    intro call member
    rw [Feed.FailsBy, Feed.exists_breaks _ (held call member), or_comm]
  · intro front time raw back why failed taken
    exact ⟨fun passes => Feed.brings_malformed front time raw back why failed passes taken,
      fun endless => Feed.brings_endless front time raw back why failed endless taken⟩

end Network

def Feed.atOnce (items : List Delivery) : Feed := items.map fun item => ⟨0, item⟩

theorem Feed.inOrder_atOnce (items : List Delivery) :
    Timed.inOrder 0 (atOnce items) = atOnce items := by
  induction items with
  | nil => rfl
  | cons item items ih => exact congrArg (⟨0, item⟩ :: ·) ih

theorem Feed.inTime_atOnce (limit : Limit) (items : List Delivery) :
    (atOnce items).inTime limit = atOnce items := by
  apply List.takeWhile_eq_self_iff.mpr
  intro delivery member
  rcases List.mem_map.mp member with ⟨item, _, rfl⟩
  simp [Limit.inTime]

def Relay.bringing (url : String) (items : List Delivery) : Relay :=
  { url, link := .direct [Feed.atOnce items] [] }

namespace Network

theorem subscribe_bringing (filters : Fields) (closeWhenDrained : Bool)
    (offers : List (String × List Delivery)) (supply : Supply) :
    ((subscribeEach filters closeWhenDrained
      (offers.map fun offer => Relay.bringing offer.1 offer.2) supply).1.map fun subscribed =>
        (subscribed.2.url, subscribed.1.outcome)) =
      offers.map fun offer => (offer.1, Feed.atOnce offer.2) := by
  induction offers with
  | nil => rfl
  | cons offer offers ih =>
      rw [List.map_cons, List.map_cons, subscribeEach, List.mapM_cons]
      exact congrArg₂ List.cons (congrArg _ (Feed.inOrder_atOnce offer.2)) ih

def bringing (offers : List (String × List Delivery)) : Network :=
  { relays := offers.map fun offer => Relay.bringing offer.1 offer.2 }

theorem hauls_bringing (offers : List (String × List Delivery)) (filters : Fields)
    (limit : Number.Double) :
    (bringing offers).hauls filters limit =
      offers.map fun offer => (offer.1, Haul.ofFeed (Feed.atOnce offer.2)) := by
  have brought := congrArg (List.map fun feed : String × Feed =>
    (feed.1, Haul.ofFeed (feed.2.inTime limit.seconds)))
      (subscribe_bringing filters true offers {})
  simpa only [hauls, bringing, List.map_map, Function.comp_def, Feed.inTime_atOnce] using brought

theorem fetchFilter_bringing (offers : List (String × List Delivery)) (filters : Fields)
    (limit : Number.Double)
    (ended : ∀ offer ∈ offers, (Haul.ofFeed (Feed.atOnce offer.2)).ending.isSome)
    (proper : ∀ offer ∈ offers,
      (Haul.ofFeed (Feed.atOnce offer.2)).fault? ≠ some (.value .unpaired))
    (peaceful : ∃ offer ∈ offers, (Haul.ofFeed (Feed.atOnce offer.2)).fault? = none) :
    (fetchFilter filters limit (bringing offers)).1 =
      .ok (Catch.events (offers.map fun offer =>
        (offer.1, Haul.ofFeed (Feed.atOnce offer.2)))) := by
  have brought := hauls_bringing offers filters limit
  have held : (bringing offers).Held filters limit := by
    rw [← isHeld_iff, brought, Catch.isHeld, List.all_eq_true, List.forall_mem_map]
    simpa using proper
  have ends : (bringing offers).Ends filters limit := by
    rw [← isSome_finish, Catch.isSome_finish, brought, List.forall_mem_map]
    exact .inr ended
  have reachable : ¬(bringing offers).Unreachable filters limit := by
    rw [unreachable_iff, brought, List.forall_mem_map]
    rintro ⟨all, _⟩
    obtain ⟨offer, member, peace⟩ := peaceful
    rcases all offer member with ⟨fault, failed⟩ | ⟨silent, _⟩
    · cases peace.symm.trans failed
    · have finished := ended offer member
      rw [silent] at finished
      cases finished
  rw [fetchFilter_of_reachable _ _ _ held ends reachable, brought]

theorem outcomes_bringing (offers : List (String × List Delivery)) (filters : Fields)
    (closeWhenDrained : Bool) :
    ((bringing offers).subscribe filters closeWhenDrained).1.map (·.outcome) =
      offers.map fun offer => Feed.atOnce offer.2 := by
  have feeds := congrArg (List.map Prod.snd) (subscribe_bringing filters closeWhenDrained offers {})
  simpa only [subscribe_fst, bringing, List.map_map, Function.comp_def] using feeds

def Delivers (network : Network) (filters : Fields) (limit : Number.Double) (raw : Json) : Prop :=
  ∃ feed ∈ (network.subscribe filters true).1.map (·.outcome),
    ∃ delivery ∈ feed.inTime limit.seconds, delivery.item = .event raw

theorem delivers_bringing (offers : List (String × List Delivery)) (filters : Fields)
    (limit : Number.Double) (raw : Json) :
    (bringing offers).Delivers filters limit raw ↔ ∃ offer ∈ offers, .event raw ∈ offer.2 := by
  simp only [Delivers, outcomes_bringing, List.mem_map, exists_exists_and_eq_and,
    Feed.inTime_atOnce]
  simp [Feed.atOnce]

def endlessObject : Json := .obj [("id", .str "endless"), ("created_at", .float (.infinite false))]

theorem ofJson_endlessObject : Event.ofJson endlessObject = .error .tooLarge :=
  Event.ofJson_endless _ ⟨_, rfl, ⟨"endless", rfl⟩, Or.inl ⟨false, rfl⟩⟩

theorem ofFeed_endlessObject (items : List Delivery) :
    Haul.ofFeed (Feed.atOnce (.event endlessObject :: items)) =
      { answered := true, ending := some ⟨0, some (.value .tooLarge)⟩ } := by
  have failed := ofJson_endlessObject
  simp [Feed.atOnce, Haul.ofFeed, failed, ValueFault.isContentOrShape, ValueFault.isContentOrType,
    ValueFault.isContent]

theorem ofFeed_toJson (event : Event) (named : event.id ≠ "") (items : List Delivery) :
    Haul.ofFeed (Feed.atOnce (.event event.toJson :: items)) =
      (Haul.ofFeed (Feed.atOnce items)).putFirst ⟨0, event⟩ := by
  have read : Event.ofJson event.toJson = .ok event := Event.ofFields_toFields event named
  simp [Feed.atOnce, Haul.ofFeed, read]

def besideDrained (items : List Delivery) : Network :=
  bringing [("one", items), ("other", [.drained])]

theorem fetchFilter_besideDrained (filters : Fields) (limit : Number.Double)
    (items : List Delivery) (haul : Haul) (brought : Haul.ofFeed (Feed.atOnce items) = haul)
    (ended : haul.ending.isSome) (proper : haul.fault? ≠ some (.value .unpaired)) :
    (fetchFilter filters limit (besideDrained items)).1 =
      .ok (Catch.events [("one", haul), ("other", Haul.ofFeed (Feed.atOnce [.drained]))]) := by
  subst brought
  apply fetchFilter_bringing
  · exact List.forall_mem_cons.mpr ⟨ended, List.forall_mem_singleton.mpr rfl⟩
  · exact List.forall_mem_cons.mpr ⟨proper, List.forall_mem_singleton.mpr nofun⟩
  · exact ⟨_, List.mem_cons_of_mem _ List.mem_cons_self, rfl⟩

/-- The order in which a relay delivers an endless object and an event decides on what is fetched,
even if another relay comes to its end. -/
theorem exists_lost_event (filters : Fields) (limit : Number.Double) (event : Event)
    (named : event.id ≠ "") :
    ∃ first second : Network,
      (∀ raw, first.Delivers filters limit raw ↔ second.Delivers filters limit raw) ∧
        (fetchFilter filters limit first).1 = .ok [] ∧
          (fetchFilter filters limit second).1 = .ok [event] := by
  have lost := ofFeed_endlessObject [.event event.toJson]
  have kept := ofFeed_toJson event named [.event endlessObject]
  rw [ofFeed_endlessObject] at kept
  refine ⟨besideDrained [.event endlessObject, .event event.toJson],
    besideDrained [.event event.toJson, .event endlessObject], ?_, ?_, ?_⟩
  · intro raw
    simp [besideDrained, delivers_bringing, or_comm]
  · rw [fetchFilter_besideDrained filters limit _ _ lost rfl (by simp [Haul.fault?])]
    simp [Feed.atOnce, Haul.ofFeed, Catch.events, Timed.merge, distinctEvents, latestFirst]
  · rw [fetchFilter_besideDrained filters limit _ _ kept rfl
      (by simp [Haul.fault?, Haul.putFirst])]
    simp [Feed.atOnce, Haul.ofFeed, Haul.putFirst, Catch.events, Timed.merge, distinctEvents,
      latestFirst]

end Network

end TradeWire
