import TradeWire.Proofs.Interleaving
/-! Relays are read side by side, in any order, and the reading can stop at any time: what is
collected is the first event of each id that has been read. -/

namespace TradeWire

namespace Feed

/-- A feed is read one delivery further, and perhaps an event is taken. Behind an end nothing more
is read. -/
inductive Turn : Feed → Option (Timed Event) → Feed → Prop where
  | read (time : Rat) (raw : Json) (rest : Feed) (event : Event)
      (read : Event.ofJson raw = .ok event) :
      Turn (⟨time, .event raw⟩ :: rest) (some ⟨time, event⟩) rest
  | drop (time : Rat) (raw : Json) (rest : Feed) (why : ValueFault)
      (failed : Event.ofJson raw = .error why) (passes : ¬Event.Endless raw) :
      Turn (⟨time, .event raw⟩ :: rest) none rest
  | stop (time : Rat) (last : Delivery) (rest : Feed) (fault : Option LinkFault)
      (ends : last.Ends fault) : Turn (⟨time, last⟩ :: rest) none []

theorem brings_turn (feed next : Feed) (taken : Option (Timed Event)) (turn : Turn feed taken next)
    (event : Timed Event) : feed.Brings event ↔ some event = taken ∨ next.Brings event := by
  cases turn with
  | read time raw _ found read =>
      rw [brings_read time raw next found read, Option.some.injEq]
  | drop time raw _ why failed passes =>
      rw [brings_unread time raw next why failed]
      simp [passes]
  | stop time last rest fault ends =>
      have none : ¬(some event = none ∨ Brings [] event) := by simp [not_brings_nil]
      refine iff_of_false ?_ none
      cases ends with
      | drained => exact not_brings_last time rest .drained (by simp) event
      | closed => exact not_brings_last time rest .closed (by simp) event
      | failed fault => exact not_brings_last time rest (.failed fault) (by simp) event
      | unpaired => exact not_brings_last time rest .unpaired (by simp) event
      | endless raw endless =>
          rw [brings_unread time raw rest _ (Event.ofJson_endless raw endless)]
          exact fun both => both.1 endless

theorem exists_turn (head : Timed Delivery) (rest : Feed) :
    ∃ taken next, Turn (head :: rest) taken next ∧ (next = [] ∨ next = rest) ∧
      (Haul.ofFeed (head :: rest)).events = taken.toList ++ (Haul.ofFeed next).events := by
  obtain ⟨time, item⟩ := head
  cases item with
  | drained => exact ⟨none, [], .stop time _ rest _ .drained, Or.inl rfl, rfl⟩
  | closed => exact ⟨none, [], .stop time _ rest _ .closed, Or.inl rfl, rfl⟩
  | failed fault => exact ⟨none, [], .stop time _ rest _ (.failed fault), Or.inl rfl, rfl⟩
  | unpaired => exact ⟨none, [], .stop time _ rest _ .unpaired, Or.inl rfl, rfl⟩
  | event raw =>
      cases found : Event.ofJson raw with
      | ok event =>
          refine ⟨some ⟨time, event⟩, rest, .read time raw rest event found, Or.inr rfl, ?_⟩
          simp [Haul.ofFeed, found, Haul.putFirst]
      | error why =>
          by_cases endless : Event.Endless raw
          · have grave := (Event.endless_iff_grave raw why found).mp endless
            refine ⟨none, [], .stop time _ rest _ (.endless raw endless), Or.inl rfl, ?_⟩
            simp [Haul.ofFeed, found, grave]
          · have light := mt (Event.endless_iff_grave raw why found).mpr endless
            rw [Bool.not_eq_false] at light
            refine ⟨none, rest, .drop time raw rest why found endless, Or.inr rfl, ?_⟩
            simp [Haul.ofFeed, found, light]

end Feed

/-- The reading of several relays at some moment: what each has yet to deliver, and what has been
collected. -/
structure Draining where
  feeds : List Feed
  collected : List Event

namespace Draining

def collect (collected : List Event) (event : Event) : List Event :=
  if ∃ kept ∈ collected, kept.id = event.id then collected else collected ++ [event]

inductive Step : Draining → Option (Timed Event) → Draining → Prop where
  | turn (front back : List Feed) (feed next : Feed) (taken : Option (Timed Event))
      (collected : List Event) (turn : feed.Turn taken next) :
      Step ⟨front ++ feed :: back, collected⟩ taken
        ⟨front ++ next :: back, (taken.toList.map (·.item)).foldl collect collected⟩

inductive Run : Draining → List (Timed Event) → Draining → Prop where
  | stop (state : Draining) : Run state [] state
  | step (start middle last : Draining) (taken : Option (Timed Event))
      (processed : List (Timed Event)) (step : Step start taken middle)
      (run : Run middle processed last) : Run start (taken.toList ++ processed) last

def Brings (state : Draining) (event : Timed Event) : Prop :=
  ∃ feed ∈ state.feeds, feed.Brings event

theorem Run.trans (start middle last : Draining) (first second : List (Timed Event))
    (one : Run start first middle) (other : Run middle second last) :
    Run start (first ++ second) last := by
  induction one with
  | stop => exact other
  | step start next _ taken processed step _ ih =>
      rw [List.append_assoc]
      exact .step start next last taken _ step (ih other)

theorem step_collected (start next : Draining) (taken : Option (Timed Event)) (seen : List Event)
    (step : Step start taken next) (kept : start.collected = distinctEvents seen) :
    next.collected = distinctEvents (seen ++ taken.toList.map (·.item)) := by
  cases step with
  | turn front back feed next taken collected turn =>
      cases taken with
      | none => simpa using kept
      | some event =>
          subst kept
          exact (distinctEvents_append seen event.item).symm

/-- Whatever the order is and whenever it stops, the first event of each id has been collected. -/
theorem run_collected (start last : Draining) (processed : List (Timed Event)) (seen : List Event)
    (run : Run start processed last) (kept : start.collected = distinctEvents seen) :
    last.collected = distinctEvents (seen ++ processed.map (·.item)) := by
  induction run generalizing seen with
  | stop => simpa using kept
  | step start middle last taken processed step _ ih =>
      have later := ih _ (step_collected start middle taken seen step kept)
      rw [later, List.map_append, List.append_assoc]

theorem brings_at (front back : List Feed) (feed : Feed) (collected : List Event)
    (event : Timed Event) :
    Brings ⟨front ++ feed :: back, collected⟩ event ↔
      feed.Brings event ∨ ∃ other ∈ front ++ back, other.Brings event := by
  simp only [Brings, List.mem_append, List.mem_cons, or_and_right, exists_or, exists_eq_left]
  exact or_left_comm

theorem step_brings (start next : Draining) (taken : Option (Timed Event))
    (step : Step start taken next) (event : Timed Event) :
    start.Brings event ↔ event ∈ taken.toList ∨ next.Brings event := by
  cases step with
  | turn front back feed next taken collected turn =>
      rw [brings_at, brings_at, Feed.brings_turn feed next taken turn event, Option.mem_toList,
        eq_comm, or_assoc]

/-- No event is lost: it has been processed, or is still to come. -/
theorem run_brings (start last : Draining) (processed : List (Timed Event))
    (run : Run start processed last) (event : Timed Event) :
    start.Brings event ↔ event ∈ processed ∨ last.Brings event := by
  induction run with
  | stop => simp
  | step start middle last taken processed step _ ih =>
      rw [step_brings start middle taken step event, ih, List.mem_append, or_assoc]

section Position

variable (front back : List Feed) (collected : List Event)

theorem exists_ready (feed : Feed) :
    ∃ next : Feed, Run ⟨front ++ feed :: back, collected⟩ [] ⟨front ++ next :: back, collected⟩ ∧
      (Haul.ofFeed next).events = (Haul.ofFeed feed).events ∧
        (next = [] ∨ ∃ event rest, next.Turn (some event) rest ∧
          (Haul.ofFeed next).events = event :: (Haul.ofFeed rest).events) := by
  induction feed with
  | nil => exact ⟨[], .stop _, rfl, Or.inl rfl⟩
  | cons head rest ih =>
      obtain ⟨taken, next, turn, left, events⟩ := Feed.exists_turn head rest
      cases taken with
      | some event => exact ⟨_, .stop _, rfl, Or.inr ⟨event, next, turn, events⟩⟩
      | none =>
          have step := Step.turn front back _ next none collected turn
          cases left with
          | inl ended =>
              subst ended
              exact ⟨[], .step _ _ _ none [] step (.stop _), events.symm, Or.inl rfl⟩
          | inr later =>
              subst later
              obtain ⟨ready, run, same, ends⟩ := ih
              exact ⟨ready, .step _ _ _ none [] step run, same.trans events.symm, ends⟩

theorem run_silent (feed : Feed) (silent : (Haul.ofFeed feed).events = []) :
    Run ⟨front ++ feed :: back, collected⟩ [] ⟨front ++ [] :: back, collected⟩ := by
  obtain ⟨next, run, same, ended | ⟨event, rest, _, events⟩⟩ :=
    exists_ready front back collected feed
  · exact ended ▸ run
  · rw [same, silent] at events
    cases events

theorem exists_read (feed : Feed) (event : Timed Event) (events : List (Timed Event))
    (brought : (Haul.ofFeed feed).events = event :: events) :
    ∃ rest : Feed, (Haul.ofFeed rest).events = events ∧
      Run ⟨front ++ feed :: back, collected⟩ [event]
        ⟨front ++ rest :: back, collect collected event.item⟩ := by
  obtain ⟨next, run, same, rfl | ⟨_, rest, turn, split⟩⟩ := exists_ready front back collected feed
  · rw [brought] at same
    cases same
  · rw [same, brought] at split
    cases split
    have step := Step.turn front back next rest (some event) collected turn
    exact ⟨rest, rfl, run.trans _ _ _ [] [event] (.step _ _ _ (some event) [] step (.stop _))⟩

end Position

theorem run_allSilent (front feeds : List Feed) (collected : List Event)
    (silent : ∀ feed ∈ feeds, (Haul.ofFeed feed).events = []) :
    Run ⟨front ++ feeds, collected⟩ [] ⟨front ++ feeds.map fun _ => [], collected⟩ := by
  induction feeds generalizing front with
  | nil => exact .stop _
  | cons feed feeds ih =>
      rw [List.forall_mem_cons] at silent
      have others := ih (front ++ [[]]) silent.2
      rw [List.append_assoc, List.append_assoc] at others
      exact (run_silent front feeds collected feed silent.1).trans _ _ _ [] [] others

/-- Every order of events in which each relay keeps its own can come about. -/
theorem exists_run (sequences : List (List (Timed Event))) (processed : List (Timed Event))
    (interleaves : Interleaves sequences processed) (feeds : List Feed) (collected : List Event)
    (brought : feeds.map (fun feed => (Haul.ofFeed feed).events) = sequences) :
    ∃ last, Run ⟨feeds, collected⟩ processed last ∧ ∀ feed ∈ last.feeds, feed = [] := by
  induction interleaves generalizing feeds collected with
  | nil sequences empty =>
      subst brought
      rw [List.forall_mem_map] at empty
      refine ⟨_, run_allSilent [] feeds collected empty, ?_⟩
      simp
  | cons front back event rest events _ ih =>
      obtain ⟨before, others, rfl, rfl, split⟩ := List.map_eq_append_iff.mp brought
      obtain ⟨feed, after, rfl, head, rfl⟩ := List.map_eq_cons_iff.mp split
      obtain ⟨next, left, run⟩ := exists_read before after collected feed event rest head
      obtain ⟨last, later, ends⟩ := ih (before ++ next :: after) (collect collected event.item)
        (by rw [List.map_append, List.map_cons, left])
      exact ⟨last, run.trans _ _ _ [event] events later, ends⟩

end Draining

/-- Of some events the first of each id, the latest first; those of one time stand as they came. -/
structure Merges (processed listed : List Event) : Prop where
  first : ∀ event, event ∈ listed ↔ IsFirst processed event
  single : (listed.map (·.id)).Nodup
  sorted : listed.Pairwise fun a b => b.createdAt < a.createdAt ∨ b.createdAt = a.createdAt ∧
    (processed.map (·.id)).idxOf a.id < (processed.map (·.id)).idxOf b.id

theorem merges_distinct (processed : List Event) :
    Merges processed (latestFirst Event.createdAt (distinctEvents processed)) := by
  have placed := firstOrder_distinctEvents processed
  have ordered := placed.ordered
  rw [List.pairwise_map] at ordered
  have perm : (latestFirst Event.createdAt (distinctEvents processed)).Perm
      (distinctEvents processed) := List.mergeSort_perm _ _
  refine ⟨?_, ?_, ?_⟩
  · intro event
    rw [perm.mem_iff, mem_distinctEvents]
  · exact (perm.map _).nodup_iff.mpr placed.nodup
  · exact latestFirst_stable Event.createdAt _ _ ordered

namespace Network

/-- What one fetch lists is what some reading of its relays to their ends within the limit has
collected: of the events that it took, in the order of their times, the first of each id. A reading
in any other order, or one that stops earlier, collects the first events of those that it took, and
loses none: what a relay brings is taken or is still to come, whether or not the relay fails or is
left later. -/
theorem fetch_merges (network : Network) (filters : Fields) (limit : Number.Double) :
    (∀ processed state, Draining.Run ⟨network.feedsInTime filters limit, []⟩ processed state →
      Merges (processed.map (·.item)) (latestFirst Event.createdAt state.collected) ∧
        ∀ event, (∃ feed ∈ network.feedsInTime filters limit, feed.Brings event) ↔
          event ∈ processed ∨ state.Brings event) ∧
    ∀ events, (fetchFilter filters limit network).1 = .ok events →
      ∃ processed state, Draining.Run ⟨network.feedsInTime filters limit, []⟩ processed state ∧
        (∀ feed ∈ state.feeds, feed = []) ∧ Timed.Sorted processed ∧
        events = latestFirst Event.createdAt state.collected ∧
        Merges (processed.map (·.item)) events ∧
        ∀ event, event ∈ processed.map (·.item) ↔ network.Brings filters limit event := by
  have collected (processed : List (Timed Event)) (state : Draining)
      (run : Draining.Run ⟨network.feedsInTime filters limit, []⟩ processed state) :
      state.collected = distinctEvents (processed.map (·.item)) :=
    Draining.run_collected _ state processed [] run rfl
  constructor
  · intro processed state run
    rw [collected processed state run]
    exact ⟨merges_distinct _, Draining.run_brings _ state processed run⟩
  · intro events fetched
    have listed := fetched_events network filters limit events fetched
    have interleaves := Timed.interleaves_merge _ (sorted_hauls network filters limit)
    obtain ⟨state, run, ends⟩ :=
      Draining.exists_run _ _ interleaves (network.feedsInTime filters limit) []
        (hauls_eq network filters limit).symm
    have same : events = latestFirst Event.createdAt state.collected := by
      rw [collected _ state run, listed]
      rfl
    refine ⟨_, state, run, ends, Timed.merge_sorted _, same, ?_, ?_⟩
    · rw [same, collected _ state run]
      exact merges_distinct _
    · intro event
      rw [brings_iff_hauls]
      simp only [List.mem_map, Timed.mem_merge, exists_exists_and_eq_and]
      constructor
      · rintro ⟨taken, ⟨haul, member, brought⟩, rfl⟩
        exact ⟨haul, member, taken, brought, rfl⟩
      · rintro ⟨haul, member, taken, brought, rfl⟩
        exact ⟨taken, ⟨haul, member, brought⟩, rfl⟩

def noteAt (id : String) (createdAt : Int) : Event where
  id := id
  pubkey := "author"
  createdAt := createdAt
  kind := 1
  tags := []
  content := ""

def overlapping : Network := bringing [
  ("one", [.event (noteAt "a" 2).toJson, .failed (.connection "gone")]),
  ("two", [.event (noteAt "a" 2).toJson, .event (noteAt "b" 1).toJson, .drained])]

theorem fetchFilter_overlapping (limit : Number.Double) :
    (fetchFilter [] limit overlapping).1 = .ok [noteAt "a" 2, noteAt "b" 1] := by
  have one :
      Haul.ofFeed (Feed.atOnce [.event (noteAt "a" 2).toJson, .failed (.connection "gone")]) =
      { events := [⟨0, noteAt "a" 2⟩], answered := true,
        ending := some ⟨0, some (.connection "gone")⟩ } := by
    rw [ofFeed_toJson _ (by decide)]
    rfl
  have two : Haul.ofFeed (Feed.atOnce
      [.event (noteAt "a" 2).toJson, .event (noteAt "b" 1).toJson, .drained]) =
      { events := [⟨0, noteAt "a" 2⟩, ⟨0, noteAt "b" 1⟩], answered := true,
        ending := some ⟨0, none⟩ } := by
    rw [ofFeed_toJson _ (by decide), ofFeed_toJson _ (by decide)]
    rfl
  rw [overlapping, fetchFilter_bringing]
  · have atOnce := Timed.merge_atOnce [[noteAt "a" 2], [noteAt "a" 2, noteAt "b" 1]]
    simp only [List.map_cons, List.map_nil] at atOnce
    simp only [Catch.events, List.map_cons, List.map_nil, one, two, atOnce]
    exact congrArg Except.ok (List.mergeSort_of_pairwise (by decide))
  · simp [one, two]
  · simp [one, two, Haul.fault?]
  · simp [one, two, Haul.fault?]

theorem fetch_merges_overlapping :
    (fetchFilter [] (.finite false 15 0) overlapping).1 = .ok [noteAt "a" 2, noteAt "b" 1] ∧
    ∃ processed state,
      Draining.Run ⟨overlapping.feedsInTime [] (.finite false 15 0), []⟩ processed state ∧
        (∀ feed ∈ state.feeds, feed = []) ∧
        latestFirst Event.createdAt state.collected = [noteAt "a" 2, noteAt "b" 1] ∧
        Merges (processed.map (·.item)) [noteAt "a" 2, noteAt "b" 1] ∧
        ∀ event, (∃ feed ∈ overlapping.feedsInTime [] (.finite false 15 0), feed.Brings event) ↔
          event ∈ processed ∨ state.Brings event := by
  have fetched := fetchFilter_overlapping (.finite false 15 0)
  obtain ⟨every, whole⟩ := fetch_merges overlapping [] (.finite false 15 0)
  obtain ⟨processed, state, run, read, _, same, merges, _⟩ := whole _ fetched
  exact ⟨fetched, processed, state, run, read, same.symm, merges, (every processed state run).2⟩

end Network

end TradeWire
