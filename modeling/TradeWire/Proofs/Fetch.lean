import Mathlib.Data.List.TakeWhile
import TradeWire.Fetch
import TradeWire.Proofs.Address
import TradeWire.Proofs.Feed
import TradeWire.Proofs.Limit
import TradeWire.Proofs.Outcome
/-! When a fetch ends, and when relays are told as unreachable: each of them has failed, and no two
share an address. -/

namespace TradeWire

namespace Feed

/-- Events bring a fault with which their reader ends: the relay fails behind them, or an event has
a fault that costs more than itself, or cannot be held. -/
inductive Breaks : Feed → LinkFault → Prop where
  | failed (time : Rat) (fault : LinkFault) (rest : Feed) :
      Breaks (⟨time, .failed fault⟩ :: rest) fault
  | unpaired (time : Rat) (rest : Feed) :
      Breaks (⟨time, .unpaired⟩ :: rest) (.value .unpaired)
  | unreadable (time : Rat) (raw : Json) (fault : ValueFault) (rest : Feed)
      (unread : Event.ofJson raw = .error fault) (grave : fault.isContentOrShape = false) :
      Breaks (⟨time, .event raw⟩ :: rest) (.value fault)
  | later (time : Rat) (raw : Json) (rest : Feed) (fault : LinkFault)
      (passes : ∀ why, Event.ofJson raw = .error why → why.isContentOrShape)
      (breaks : Breaks rest fault) : Breaks (⟨time, .event raw⟩ :: rest) fault

theorem breaks_failed (time : Rat) (other : LinkFault) (rest : Feed) (fault : LinkFault) :
    Breaks (⟨time, .failed other⟩ :: rest) fault ↔ other = fault := by
  constructor
  · intro breaks
    cases breaks
    rfl
  · intro same
    exact same ▸ .failed time other rest

theorem breaks_unpaired (time : Rat) (rest : Feed) (fault : LinkFault) :
    Breaks (⟨time, .unpaired⟩ :: rest) fault ↔ .value .unpaired = fault := by
  constructor
  · intro breaks
    cases breaks
    rfl
  · intro same
    exact same ▸ .unpaired time rest

theorem breaks_event (time : Rat) (raw : Json) (rest : Feed) (fault : LinkFault) :
    Breaks (⟨time, .event raw⟩ :: rest) fault ↔
      (∃ why, Event.ofJson raw = .error why ∧ why.isContentOrShape = false ∧
        fault = .value why) ∨
      (∀ why, Event.ofJson raw = .error why → why.isContentOrShape) ∧ Breaks rest fault := by
  constructor
  · intro breaks
    cases breaks with
    | unreadable _ _ why _ unread grave => exact Or.inl ⟨why, unread, grave, rfl⟩
    | later _ _ _ _ passes breaks => exact Or.inr ⟨passes, breaks⟩
  · intro either
    rcases either with ⟨why, unread, grave, rfl⟩ | ⟨passes, breaks⟩
    · exact .unreadable time raw why rest unread grave
    · exact .later time raw rest fault passes breaks

def inTime (limit : Limit) (feed : Feed) : Feed :=
  feed.takeWhile fun delivery => limit.inTime delivery.time

theorem inTime_endless (feed : Feed) : feed.inTime .endless = feed :=
  List.takeWhile_eq_self_iff.mpr fun _ _ => rfl

/-- A relay has failed by a limit: what it brings in time ends with a fault, or it brings nothing in
time, neither an event nor an end. -/
def FailsBy (limit : Limit) (feed : Feed) : Prop :=
  (∃ fault, (feed.inTime limit).Breaks fault) ∨ feed.inTime limit = []

end Feed

namespace Haul

/-- A relay that has ended with a fault, or has neither ended nor answered. -/
def Failed (haul : Haul) : Prop :=
  (∃ fault, haul.fault? = some fault) ∨ haul.ending = none ∧ haul.answered = false

theorem mem_events_ofFeed (feed : Feed) (taken : Timed Event) :
    taken ∈ (ofFeed feed).events ↔ feed.Brings taken := by
  fun_induction ofFeed feed with
  | case1 => simp [Feed.not_brings_nil]
  | case2 time rest => simp [Feed.not_brings_last]
  | case3 time rest => simp [Feed.not_brings_last]
  | case4 time fault rest => simp [Feed.not_brings_last]
  | case5 time rest => simp [Feed.not_brings_last]
  | case6 time raw rest event read ih =>
      rw [Feed.brings_read time raw rest event read, ← ih]
      exact List.mem_cons
  | case7 time raw rest fault failed content _ ih =>
      have passes := mt (Event.endless_iff_grave raw fault failed).mp (by simp [content])
      rw [Feed.brings_unread time raw rest fault failed, ← ih]
      exact (and_iff_right passes).symm
  | case8 time raw rest fault failed grave =>
      have endless := (Event.endless_iff_grave raw fault failed).mpr (by simpa using grave)
      rw [Feed.brings_unread time raw rest fault failed]
      simp [endless]

theorem ending_ofFeed (feed : Feed) (ending : Timed (Option LinkFault)) :
    (ofFeed feed).ending = some ending ↔ feed.Finishes ending := by
  fun_induction ofFeed feed with
  | case1 => simp [Feed.not_finishes_nil]
  | case2 time rest =>
      rw [Feed.finishes_last time rest .drained (by simp) none (by simp), Option.some.injEq,
        eq_comm]
  | case3 time rest =>
      rw [Feed.finishes_last time rest .closed (by simp) none (by simp), Option.some.injEq,
        eq_comm]
  | case4 time fault rest =>
      rw [Feed.finishes_last time rest (.failed fault) (by simp) (some fault) (by simp),
        Option.some.injEq, eq_comm]
  | case5 time rest =>
      rw [Feed.finishes_last time rest .unpaired (by simp) (some (.value .unpaired)) (by simp),
        Option.some.injEq, eq_comm]
  | case6 time raw rest event read ih =>
      have passes := Event.not_endless_of_ok raw event read
      rw [Feed.finishes_passing time raw rest passes, ← ih]
      rfl
  | case7 time raw rest fault failed content _ ih =>
      have passes := mt (Event.endless_iff_grave raw fault failed).mp (by simp [content])
      rw [Feed.finishes_passing time raw rest passes, ← ih]
  | case8 time raw rest fault failed grave =>
      have endless := (Event.endless_iff_grave raw fault failed).mpr (by simpa using grave)
      rw [Event.ofJson_endless raw endless] at failed
      cases failed
      rw [Feed.finishes_endless time raw rest endless, Option.some.injEq, eq_comm]

theorem fault_ofFeed (feed : Feed) (fault : LinkFault) :
    (ofFeed feed).fault? = some fault ↔ feed.Breaks fault := by
  have peaceful (feed : Feed) (ends : ∀ fault, ¬feed.Breaks fault) :
      (none : Option LinkFault) = some fault ↔ feed.Breaks fault := by
    simp [ends fault]
  fun_induction ofFeed feed with
  | case1 => exact peaceful [] fun _ breaks => nomatch breaks
  | case2 time rest => exact peaceful _ fun _ breaks => nomatch breaks
  | case3 time rest => exact peaceful _ fun _ breaks => nomatch breaks
  | case4 time other rest => rw [Feed.breaks_failed, fault?, Option.bind_some, Option.some.injEq]
  | case5 time rest => rw [Feed.breaks_unpaired, fault?, Option.bind_some, Option.some.injEq]
  | case6 time raw rest event read ih =>
      rw [Feed.breaks_event]
      show (ofFeed rest).fault? = some fault ↔ _
      simp [read, ih]
  | case7 time raw rest other unread content _ ih =>
      rw [Feed.breaks_event]
      show (ofFeed rest).fault? = some fault ↔ _
      simp [unread, content, ih]
  | case8 time raw rest other unread grave =>
      rw [Feed.breaks_event, fault?, Option.bind_some, Option.some.injEq, eq_comm]
      simp [unread, grave]

theorem quiet_ofFeed (feed : Feed) :
    (ofFeed feed).ending = none ∧ (ofFeed feed).answered = false ↔ feed = [] := by
  fun_induction ofFeed feed with
  | case1 => simp
  | case2 => simp
  | case3 => simp
  | case4 => simp
  | case5 => simp
  | case6 => simp [putFirst]
  | case7 => simp
  | case8 => simp

theorem failed_ofFeed (limit : Limit) (feed : Feed) :
    (ofFeed (feed.inTime limit)).Failed ↔ feed.FailsBy limit := by
  simp only [Failed, Feed.FailsBy, fault_ofFeed, quiet_ofFeed]

end Haul

namespace Catch

theorem answeredAt_eq_false (hauls : Catch) (url : String) :
    hauls.answeredAt url = false ↔ ∀ haul, (url, haul) ∈ hauls → haul.answered = false := by
  simp only [answeredAt, List.any_eq_false, Bool.and_eq_true, beq_iff_eq, not_and,
    Bool.not_eq_true, Prod.forall]
  constructor
  · intro quiet haul member
    exact quiet url haul member rfl
  · intro quiet other haul member same
    exact quiet haul (same ▸ member)

theorem mem_urls (hauls : Catch) (fault? : String → Haul → Option LinkFault) (url : String) :
    url ∈ (hauls.filterMap fun (url, haul) => (fault? url haul).map fun fault =>
      (url, fault)).map (·.1) ↔
      ∃ haul, (url, haul) ∈ hauls ∧ ∃ fault, fault? url haul = some fault := by
  simp only [List.mem_map, List.mem_filterMap, Option.map_eq_some_iff, Prod.exists]
  constructor
  · intro found
    rcases found with ⟨_, _, ⟨_, haul, member, fault, faulty, same⟩, rfl⟩
    cases same
    exact ⟨haul, member, _, faulty⟩
  · intro found
    rcases found with ⟨haul, member, fault, faulty⟩
    exact ⟨url, fault, ⟨url, haul, member, fault, faulty, rfl⟩, rfl⟩

theorem silence_eq_some (hauls : Catch) (limit : Number.Double) (url : String) (haul : Haul) :
    (∃ fault, silence? hauls limit url haul = some fault) ↔
      haul.ending = none ∧ hauls.answeredAt url = false := by
  simp [silence?]

/-- A relay has ended with a fault, or has not ended where no relay has answered. -/
def Faulty (hauls : Catch) (haul : String × Haul) : Prop :=
  (∃ fault, haul.2.fault? = some fault) ∨
    haul.2.ending = none ∧ hauls.answeredAt haul.1 = false

theorem mem_faults (hauls : Catch) (limit : Number.Double) (url : String) :
    url ∈ ((hauls.faults limit).map (·.1)).toFinset ↔
      ∃ haul ∈ hauls, hauls.Faulty haul ∧ haul.1 = url := by
  rw [faults, (ByUrl.urls_ofList _).2, List.mem_toFinset, List.map_append, List.mem_append,
    mem_urls hauls (fun _ haul => haul.fault?), mem_urls hauls (silence? hauls limit)]
  simp only [silence_eq_some, Faulty, Prod.exists]
  constructor
  · intro either
    rcases either with ⟨haul, member, ended⟩ | ⟨haul, member, unended⟩
    · exact ⟨url, haul, member, Or.inl ended, rfl⟩
    · exact ⟨url, haul, member, Or.inr unended, rfl⟩
  · intro found
    rcases found with ⟨_, haul, member, ended | unended, rfl⟩
    · exact Or.inl ⟨haul, member, ended⟩
    · exact Or.inr ⟨haul, member, unended⟩

theorem length_faults (hauls : Catch) (limit : Number.Double) :
    (hauls.faults limit).length = ((hauls.faults limit).map (·.1)).toFinset.card := by
  rw [faults, ByUrl.length_ofList, (ByUrl.urls_ofList _).2]

/-- Where no two relays share an address, the faulty ones are those that have failed. -/
theorem faulty_iff_failed (hauls : Catch) (single : (hauls.map (·.1)).Nodup)
    (haul : String × Haul) (member : haul ∈ hauls) : hauls.Faulty haul ↔ haul.2.Failed := by
  have alone : hauls.answeredAt haul.1 = false ↔ haul.2.answered = false := by
    rw [answeredAt_eq_false]
    constructor
    · intro quiet
      exact quiet haul.2 member
    · intro quiet other inside
      have same := List.inj_on_of_nodup_map single inside member rfl
      rw [← same] at quiet
      exact quiet
  rw [Faulty, Haul.Failed, alone]

/-- There are as many addresses with a fault as relays exactly if each relay has failed, and no two
share an address. -/
theorem length_faults_eq (hauls : Catch) (limit : Number.Double) :
    (hauls.faults limit).length = hauls.length ↔
      (∀ haul ∈ hauls, haul.2.Failed) ∧ (hauls.map (·.1)).Nodup := by
  rw [length_faults, ByUrl.card_eq_length hauls hauls.Faulty _ (mem_faults hauls limit), and_comm]
  apply and_congr_left
  intro single
  exact forall₂_congr (faulty_iff_failed hauls single)

theorem outcome_of_failed (hauls : Catch) (limit : Number.Double)
    (failed : ∀ haul ∈ hauls, haul.2.Failed) (single : (hauls.map (·.1)).Nodup) :
    hauls.outcome limit = .error (hauls.faults limit) := by
  have all := (length_faults_eq hauls limit).mpr ⟨failed, single⟩
  exact if_pos all

theorem outcome_of_other (hauls : Catch) (limit : Number.Double)
    (other : ¬((∀ haul ∈ hauls, haul.2.Failed) ∧ (hauls.map (·.1)).Nodup)) :
    hauls.outcome limit = .ok hauls.events := by
  rw [← length_faults_eq hauls limit] at other
  exact if_neg other

theorem isSome_finish (hauls : Catch) (limit : Number.Double) :
    (hauls.finish? limit).isSome ↔
      limit.seconds ≠ .endless ∨ ∀ haul ∈ hauls, haul.2.ending.isSome := by
  have ended := Option.isSome_mapM
    (fun haul : String × Haul => haul.2.ending.map Timed.time) hauls
  simp only [Option.isSome_map] at ended
  rw [finish?, ← ended]
  split
  · rename_i times found
    simp [found]
  · rename_i none
    simp [none, Limit.isSome_finish]

end Catch

theorem Relay.url_subscribe (relay : Relay) (filters : Fields) (closeWhenDrained : Bool)
    (supply : Supply) : (relay.subscribe filters closeWhenDrained supply).1.2.url = relay.url := by
  unfold subscribe
  cases relay.link <;> rfl

namespace Network

theorem subscribeEach_cons (filters : Fields) (closeWhenDrained : Bool) (relay : Relay)
    (relays : List Relay) (supply : Supply) :
    (subscribeEach filters closeWhenDrained (relay :: relays) supply).1 =
      (relay.subscribe filters closeWhenDrained supply).1 ::
        (subscribeEach filters closeWhenDrained relays
          (relay.subscribe filters closeWhenDrained supply).2).1 := by
  rw [subscribeEach, List.mapM_cons]
  rfl

theorem map_subscribeEach {α : Type} (filters : Fields) (closeWhenDrained : Bool)
    (ofPair : Call Feed × Relay → α) (ofRelay : Relay → α)
    (same : ∀ relay supply,
      ofPair (relay.subscribe filters closeWhenDrained supply).1 = ofRelay relay)
    (relays : List Relay) (supply : Supply) :
    (subscribeEach filters closeWhenDrained relays supply).1.map ofPair = relays.map ofRelay := by
  induction relays generalizing supply with
  | nil => rfl
  | cons relay relays ih =>
      rw [subscribeEach_cons, List.map_cons, List.map_cons, ih, same]

theorem urls_subscribeEach (filters : Fields) (closeWhenDrained : Bool) (relays : List Relay)
    (supply : Supply) :
    (subscribeEach filters closeWhenDrained relays supply).1.map (·.2.url) =
      relays.map (·.url) :=
  map_subscribeEach filters closeWhenDrained _ _
    (fun relay => relay.url_subscribe filters closeWhenDrained) relays supply

def hauls (network : Network) (filters : Fields) (limit : Number.Double) : Catch :=
  (subscribeEach filters true network.relays network.supply).1.map fun subscribed =>
    (subscribed.2.url, Haul.ofFeed (subscribed.1.outcome.inTime limit.seconds))

def Ends (network : Network) (filters : Fields) (limit : Number.Double) : Prop :=
  limit.seconds ≠ .endless ∨
    ∀ call ∈ (network.subscribe filters true).1, ∃ ending, call.outcome.Finishes ending

theorem subscribe_fst (network : Network) (filters : Fields) (closeWhenDrained : Bool) :
    (network.subscribe filters closeWhenDrained).1 =
      (subscribeEach filters closeWhenDrained network.relays network.supply).1.map (·.1) := rfl

theorem isSome_finish (network : Network) (filters : Fields) (limit : Number.Double) :
    ((network.hauls filters limit).finish? limit).isSome ↔ network.Ends filters limit := by
  rw [Catch.isSome_finish, Ends]
  apply or_congr_right'
  intro unlimited
  rw [not_not] at unlimited
  simp only [hauls, subscribe_fst, List.forall_mem_map, unlimited, Feed.inTime_endless,
    Option.isSome_iff_exists, Haul.ending_ofFeed]

/-- No relay brings in time what no value can hold. -/
def Held (network : Network) (filters : Fields) (limit : Number.Double) : Prop :=
  ∀ call ∈ (network.subscribe filters true).1,
    ¬(call.outcome.inTime limit.seconds).Breaks (.value .unpaired)

theorem isHeld_iff (network : Network) (filters : Fields) (limit : Number.Double) :
    (network.hauls filters limit).isHeld ↔ network.Held filters limit := by
  simp only [Catch.isHeld, Held, hauls, subscribe_fst, List.all_eq_true, List.forall_mem_map,
    bne_iff_ne, ne_eq, Haul.fault_ofFeed]

theorem fetchFilter_fst (network : Network) (filters : Fields) (limit : Number.Double) :
    (fetchFilter filters limit network).1 =
      if (network.hauls filters limit).isHeld then
        Fault.ofEnd (((network.hauls filters limit).finish? limit).map fun time =>
          ⟨time, ((network.hauls filters limit).outcome limit).mapError .outage⟩)
      else .error (.value .unpaired) := by
  have brought : Catch.ofCalls (network.subscribe filters true).2.relays
      ((network.subscribe filters true).1.map fun call => call.during limit.seconds.inTime) =
        network.hauls filters limit := by
    have relays : (network.subscribe filters true).2.relays =
        (subscribeEach filters true network.relays network.supply).1.map (·.2) := rfl
    rw [Catch.ofCalls, relays, subscribe_fst, List.map_map, List.zipWith_map, List.zipWith_self]
    rfl
  rw [← brought]
  rfl

theorem fetchFilter_unpaired (network : Network) (filters : Fields) (limit : Number.Double)
    (unheld : ¬network.Held filters limit) :
    (fetchFilter filters limit network).1 = .error (.value .unpaired) := by
  rw [← isHeld_iff] at unheld
  rw [fetchFilter_fst, if_neg unheld]

theorem fetchFilter_of_ends (network : Network) (filters : Fields) (limit : Number.Double)
    (held : network.Held filters limit) (ends : network.Ends filters limit) :
    (fetchFilter filters limit network).1 =
      ((network.hauls filters limit).outcome limit).mapError .outage := by
  rw [← isSome_finish, Option.isSome_iff_exists] at ends
  obtain ⟨time, finish⟩ := ends
  rw [fetchFilter_fst, if_pos ((isHeld_iff network filters limit).mpr held), finish]
  rfl

/-- A relay that never ends keeps a fetch without a limit from its end. -/
theorem fetchFilter_endless (network : Network) (filters : Fields) (limit : Number.Double)
    (held : network.Held filters limit) (goesOn : ¬network.Ends filters limit) :
    (fetchFilter filters limit network).1 = .error .endless := by
  rw [← isSome_finish, Option.not_isSome_iff_eq_none] at goesOn
  rw [fetchFilter_fst, if_pos ((isHeld_iff network filters limit).mpr held), goesOn]
  rfl

theorem urls_hauls (network : Network) (filters : Fields) (limit : Number.Double) :
    (network.hauls filters limit).map (·.1) = network.relays.map (·.url) := by
  rw [hauls, List.map_map]
  exact urls_subscribeEach filters true network.relays network.supply

def Unreachable (network : Network) (filters : Fields) (limit : Number.Double) : Prop :=
  (∀ call ∈ (network.subscribe filters true).1, call.outcome.FailsBy limit.seconds) ∧
    (network.relays.map (·.url)).Nodup

theorem unreachable_iff (network : Network) (filters : Fields) (limit : Number.Double) :
    network.Unreachable filters limit ↔
      (∀ haul ∈ network.hauls filters limit, haul.2.Failed) ∧
        ((network.hauls filters limit).map (·.1)).Nodup := by
  rw [Unreachable, urls_hauls]
  simp only [hauls, subscribe_fst, List.forall_mem_map, Haul.failed_ofFeed]

theorem fetchFilter_of_unreachable (network : Network) (filters : Fields) (limit : Number.Double)
    (held : network.Held filters limit) (ends : network.Ends filters limit)
    (unreachable : network.Unreachable filters limit) :
    (fetchFilter filters limit network).1 =
      .error (.outage ((network.hauls filters limit).faults limit)) := by
  obtain ⟨failed, single⟩ := (unreachable_iff network filters limit).mp unreachable
  rw [fetchFilter_of_ends network filters limit held ends,
    Catch.outcome_of_failed _ limit failed single]
  rfl

theorem fetchFilter_of_reachable (network : Network) (filters : Fields) (limit : Number.Double)
    (held : network.Held filters limit) (ends : network.Ends filters limit)
    (reachable : ¬network.Unreachable filters limit) :
    (fetchFilter filters limit network).1 = .ok (network.hauls filters limit).events := by
  rw [unreachable_iff] at reachable
  rw [fetchFilter_of_ends network filters limit held ends,
    Catch.outcome_of_other _ limit reachable]
  rfl

/-- A fetch that comes to its end ends with an outage exactly if every relay has failed, and no two
relays share an address, and else with a list. One that does not is a fetch without a limit. What
comes of a fetch that brings what no value can hold is left open. -/
theorem fetchFilter_outage_iff (network : Network) (filters : Fields) (limit : Number.Double) :
    ((fetchFilter filters limit network).1 = .error (.value .unpaired) ↔
      ¬network.Held filters limit) ∧
    (network.Held filters limit →
      ((∃ outage, (fetchFilter filters limit network).1 = .error (.outage outage)) ↔
        network.Ends filters limit ∧
          (∀ call ∈ (network.subscribe filters true).1, call.outcome.FailsBy limit.seconds) ∧
            (network.relays.map (·.url)).Nodup) ∧
      ((∃ events, (fetchFilter filters limit network).1 = .ok events) ↔
        network.Ends filters limit ∧
          ¬((∀ call ∈ (network.subscribe filters true).1, call.outcome.FailsBy limit.seconds) ∧
            (network.relays.map (·.url)).Nodup)) ∧
      ((fetchFilter filters limit network).1 = .error .endless ↔ ¬network.Ends filters limit)) := by
  change _ ∧ (_ → (_ ↔ _ ∧ network.Unreachable filters limit) ∧
    (_ ↔ _ ∧ ¬network.Unreachable filters limit) ∧ _)
  by_cases held : network.Held filters limit
  · by_cases ends : network.Ends filters limit
    · by_cases unreachable : network.Unreachable filters limit
      · have outage := fetchFilter_of_unreachable network filters limit held ends unreachable
        simp [outage, held, ends, unreachable]
      · have listed := fetchFilter_of_reachable network filters limit held ends unreachable
        simp [listed, held, ends, unreachable]
    · have endless := fetchFilter_endless network filters limit held ends
      simp [endless, held, ends]
  · have unpaired := fetchFilter_unpaired network filters limit held
    simp [unpaired, held]

def silentAt (url : String) : Relay := { url, link := .direct [] [] }

/-- Two relays at one address that both stay silent are not told as an outage. -/
theorem exists_silent_twins (url : String) (filters : Fields) (limit : Number.Double)
    (limited : limit.seconds ≠ .endless) :
    ∃ network : Network, network.relays.length = 2 ∧
      (∀ call ∈ (network.subscribe filters true).1, call.outcome.FailsBy limit.seconds) ∧
        (fetchFilter filters limit network).1 = .ok [] := by
  refine ⟨{ relays := [silentAt url, silentAt url] }, rfl, ?_, ?_⟩
  · intro call member
    right
    rcases List.mem_pair.mp member with rfl | rfl <;> rfl
  · have nothing : Catch.events (hauls { relays := [silentAt url, silentAt url] } filters limit) =
        [] := by
      have brought : hauls { relays := [silentAt url, silentAt url] } filters limit =
          [(url, {}), (url, {})] := rfl
      simp [brought, Catch.events, Timed.merge, distinctEvents, latestFirst]
    have held : Held { relays := [silentAt url, silentAt url] } filters limit := by
      rw [← isHeld_iff]
      rfl
    rw [fetchFilter_of_reachable _ _ _ held (.inl limited), nothing]
    simp [Unreachable, silentAt]

end Network

end TradeWire
