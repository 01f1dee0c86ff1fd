import TradeWire.Proofs.Await
import TradeWire.Proofs.Interleaving
/-! What one hears who waits for a reply: the events that the subscriptions bring, how each of them
ends, and how the publication ends. -/

namespace TradeWire

theorem Feed.finishes_unique (feed : Feed) (one other : Timed (Option LinkFault))
    (first : feed.Finishes one) (second : feed.Finishes other) : one = other := by
  rw [← Haul.ending_ofFeed] at first second
  exact Option.some.inj (first.symm.trans second)

namespace Tiding

/-- How an end is told. Of one with a fault of a value nothing is told, unless no value can hold
what has come. -/
def ofEnding (url : String) : Timed (Option LinkFault) → List (Timed Tiding)
  | ⟨time, some (.value .unpaired)⟩ => [⟨time, .unpaired⟩]
  | ⟨_, some (.value _)⟩ => []
  | ⟨time, fault⟩ => [⟨time, .ended url fault⟩]

theorem ofEnding_value (url : String) (time : Rat) (why : ValueFault) (held : why ≠ .unpaired) :
    ofEnding url ⟨time, some (.value why)⟩ = [] := by
  cases why with
  | unpaired => exact absurd rfl held
  | _ => rfl

/-- One who listens reads a feed as one who fetches does. -/
theorem ofFeed_eq (url : String) (feed : Feed) :
    ofFeed url feed =
      (Haul.ofFeed feed).events.map (fun taken => ⟨taken.time, .event taken.item⟩) ++
        (Haul.ofFeed feed).ending.toList.flatMap (ofEnding url) := by
  fun_induction ofFeed url feed with
  | case1 => rfl
  | case2 => rfl
  | case3 => rfl
  | case4 => rfl
  | case5 => rfl
  | case6 time why rest held =>
      have silent := ofEnding_value url time why held
      simp [Haul.ofFeed, silent]
  | case7 time fault rest held proper =>
      cases fault with
      | value why => exact absurd rfl (proper why)
      | connection _ | silent _ => rfl
  | case8 time raw rest event read ih => simp [Haul.ofFeed, read, Haul.putFirst, ih]
  | case9 time raw rest fault failed content ih => simp [Haul.ofFeed, failed, content, ih]
  | case10 time raw rest fault failed grave =>
      have endless := (Event.endless_iff_grave raw fault failed).mpr (by simpa using grave)
      have large := (Event.ofJson_endless raw endless).symm.trans failed
      cases large
      simp [Haul.ofFeed, failed, grave, ofEnding]

theorem times_ofFeed (url : String) (feed : Feed) :
    ((ofFeed url feed).map (·.time)).Sublist (feed.map (·.time)) := by
  have final (time : Rat) (rest : List Rat) : [time].Sublist (time :: rest) :=
    (List.nil_sublist rest).cons_cons time
  fun_induction ofFeed url feed with
  | case1 => exact List.Sublist.refl []
  | case2 | case3 | case4 | case5 | case7 => exact final _ _
  | case6 | case10 => exact List.nil_sublist _
  | case8 time raw rest event read ih => exact ih.cons_cons time
  | case9 time raw rest fault failed content ih => exact ih.cons time

def Untold (fault : Option LinkFault) : Prop := ∃ why, fault = some (.value why)

theorem mem_ofEnding (url : String) (ending : Timed (Option LinkFault)) (tiding : Timed Tiding) :
    tiding ∈ ofEnding url ending ↔
      ¬Untold ending.item ∧ ⟨ending.time, .ended url ending.item⟩ = tiding ∨
        ending.item = some (.value .unpaired) ∧ ⟨ending.time, .unpaired⟩ = tiding := by
  rcases ending with ⟨time, _ | fault⟩
  · simp [ofEnding, Untold, eq_comm]
  · cases fault with
    | value why => cases why <;> simp [ofEnding, Untold, eq_comm]
    | connection _ | silent _ => simp [ofEnding, Untold, eq_comm]

theorem mem_ofFeed (url : String) (feed : Feed) (tiding : Timed Tiding) :
    tiding ∈ ofFeed url feed ↔
      (∃ taken, feed.Brings taken ∧ ⟨taken.time, .event taken.item⟩ = tiding) ∨
        ∃ ending, feed.Finishes ending ∧
          (¬Untold ending.item ∧ ⟨ending.time, .ended url ending.item⟩ = tiding ∨
            ending.item = some (.value .unpaired) ∧ ⟨ending.time, .unpaired⟩ = tiding) := by
  simp only [ofFeed_eq, List.mem_append, List.mem_map, Haul.mem_events_ofFeed, List.mem_flatMap,
    Option.mem_toList, Haul.ending_ofFeed, mem_ofEnding]

end Tiding

namespace Await

theorem mem_inTime (limit : Number.Double) (tidings : List (Timed Tiding))
    (sorted : tidings.Pairwise fun a b => a.time ≤ b.time) (tiding : Timed Tiding) :
    tiding ∈ inTime limit tidings ↔ tiding ∈ tidings ∧ limit.seconds.reaches tiding.time :=
  Timed.Sorted.mem_takeWhile limit.seconds.reaches
    (fun _ _ order => limit.seconds.reaches_of_le order) tidings sorted tiding

def endedUrls (tidings : List (Timed Tiding)) : Finset String :=
  ((endings (tidings.map (·.item))).map (·.1)).toFinset

theorem mem_endedUrls (tidings : List (Timed Tiding)) (url : String) :
    url ∈ endedUrls tidings ↔ ∃ time fault, ⟨time, .ended url fault⟩ ∈ tidings := by
  simp only [endedUrls, endings, List.mem_toFinset, List.mem_map, List.mem_filterMap]
  constructor
  · rintro ⟨pair, ⟨_, ⟨⟨time, item⟩, member, rfl⟩, found⟩, rfl⟩
    cases item with
    | event _ | unpaired | published _ => cases found
    | ended told fault =>
        cases found
        exact ⟨time, fault, member⟩
  · rintro ⟨time, fault, member⟩
    exact ⟨(url, fault), ⟨_, ⟨_, member, rfl⟩, rfl⟩, rfl⟩

theorem endedUrls_subset (part whole : List (Timed Tiding)) (within : part ⊆ whole) :
    endedUrls part ⊆ endedUrls whole := by
  intro url
  rw [mem_endedUrls, mem_endedUrls]
  rintro ⟨time, fault, member⟩
  exact ⟨time, fault, within member⟩

end Await

theorem Relay.url_publish (relay : Relay) (event : Fields) (limit : Limit) :
    (relay.publish event limit).2.url = relay.url := by
  unfold Relay.publish
  cases relay.link <;> rfl

theorem Publications.outage_settle (publications : Publications) (url : String) (status : Report)
    (accepted : (url, .ok status) ∈ publications) :
    Publications.outage? publications.settle = none := by
  have some : publications.statuses ≠ [] := by
    rw [Publications.statuses, ne_eq, ByUrl.ofList_eq_nil, List.filterMap_eq_nil_iff]
    intro none
    cases none _ accepted
  rw [Publications.settle, if_neg (by simpa using some)]
  rfl

namespace Network

variable (network : Network) (keys : Keys) (request : Event) (wanted : Correlation)
variable (sender : Option String) (limit : Number.Double)

def waiter : Await := { keys, wanted, sender, listeners := network.relays.length }

def subscribed : List (Call Feed × Relay) :=
  (subscribeEach (Filter.newWraps keys.publicKey) false network.relays network.supply).1

def listeners : List (String × Feed) :=
  (network.subscribed keys).map fun pair => (pair.2.url, pair.1.outcome)

def publications : List (Call (Option Publication)) :=
  ((network.subscribe (Filter.newWraps keys.publicKey) false).2.publish request limit.seconds).1

def asked : Network :=
  ((network.subscribe (Filter.newWraps keys.publicKey) false).2.publish request limit.seconds).2

def announced : Option (Timed (Except Outage (ByUrl Report))) :=
  (network.asked keys request limit).settled (network.publications keys request limit)

def published : List (Timed Tiding) :=
  ((network.announced keys request limit).map fun ending =>
    (⟨ending.time, .published (Publications.outage? ending.item)⟩ : Timed Tiding)).toList

theorem mem_published (tiding : Timed Tiding) :
    tiding ∈ network.published keys request limit ↔
      ∃ ending, network.announced keys request limit = some ending ∧
        ⟨ending.time, .published (Publications.outage? ending.item)⟩ = tiding := by
  rw [published, Option.mem_toList, Option.map_eq_some_iff]

def tidings : List (Timed Tiding) :=
  Timed.merge <|
    (network.listeners keys).map (fun listener => Tiding.ofFeed listener.1 listener.2) ++
      [network.published keys request limit]

theorem urls_listeners : (network.listeners keys).map (·.1) = network.relays.map (·.url) := by
  rw [listeners, List.map_map]
  exact urls_subscribeEach _ false network.relays network.supply

theorem length_listeners : (network.listeners keys).length = network.relays.length := by
  have same := congrArg List.length (network.urls_listeners keys)
  simpa using same

theorem relays_subscribe :
    (network.subscribe (Filter.newWraps keys.publicKey) false).2.relays =
      (network.subscribed keys).map (·.2) := rfl

theorem relays_asked : (network.asked keys request limit).relays =
    (network.subscribed keys).map fun pair =>
      (pair.2.publish request.toFields limit.seconds).2 := by
  simp only [asked, publish, relays_subscribe, List.map_map, Function.comp_def]

theorem publications_eq : network.publications keys request limit =
    (network.subscribed keys).map fun pair =>
      (pair.2.publish request.toFields limit.seconds).1 := by
  simp only [publications, publish, relays_subscribe, List.map_map, Function.comp_def]

theorem length_asked :
    (network.asked keys request limit).relays.length = network.relays.length := by
  rw [relays_asked, List.length_map, ← length_listeners network keys, listeners, List.length_map]

theorem heard_asked : List.zipWith
    (fun relay (call : Call Feed) => Tiding.ofFeed relay.url call.outcome)
      (network.asked keys request limit).relays
      (network.subscribe (Filter.newWraps keys.publicKey) false).1 =
    (network.listeners keys).map fun listener => Tiding.ofFeed listener.1 listener.2 := by
  have calls : (network.subscribe (Filter.newWraps keys.publicKey) false).1 =
      (network.subscribed keys).map (·.1) := rfl
  rw [relays_asked, calls, listeners, List.zipWith_map, List.zipWith_self, List.map_map]
  simp only [Relay.url_publish, Function.comp_def]

def left (finish : Option Rat) : Network :=
  (((network.asked keys request limit).keep
    ((network.subscribed keys).map (·.1.handedBy finish))).keep
      ((network.publications keys request limit).map (·.handedBy finish))).after finish

theorem unknown_iff : (wanted.orderId.isNone && wanted.requestId.isNone) = true ↔
    ¬(wanted.orderId.isSome ∨ wanted.requestId.isSome) := by
  simp

theorem ask_unknown (unknown : ¬(wanted.orderId.isSome ∨ wanted.requestId.isSome)) :
    ask keys request wanted sender limit network = (.error (.refuse .noCorrelation), network) := by
  unfold ask
  rw [if_pos ((unknown_iff wanted).mpr unknown)]

theorem ask_late (known : wanted.orderId.isSome ∨ wanted.requestId.isSome)
    (late : limit.seconds.isOver) :
    ask keys request wanted sender limit network = (.error (.wait (.timeout limit)), network) := by
  have named := mt (unknown_iff wanted).mp (not_not_intro known)
  unfold ask
  rw [if_neg named, if_pos late]

def ending : Option (Timed Await.Outcome) :=
  (network.waiter keys wanted sender).run limit (network.tidings keys request limit)

theorem ask_run (known : wanted.orderId.isSome ∨ wanted.requestId.isSome)
    (time : limit.seconds.isOver = false) :
    ask keys request wanted sender limit network =
      let ending := network.ending keys request wanted sender limit
      (Fault.ofEnd ending, network.left keys request limit (ending.map (·.time))) := by
  have named := mt (unknown_iff wanted).mp (not_not_intro known)
  -- Publishing changes neither how many relays there are nor their addresses.
  have length := network.length_asked keys request limit
  have heard := network.heard_asked keys request limit
  have handed (finish : Option Rat) :
      (network.subscribe (Filter.newWraps keys.publicKey) false).1.map (·.handedBy finish) =
        (network.subscribed keys).map (·.1.handedBy finish) := List.map_map
  unfold ask
  rw [if_neg named, if_neg (by simp [time])]
  simp only [left, ending, tidings, ← heard, waiter, ← length, ← handed]
  rfl

theorem ask_eq (known : wanted.orderId.isSome ∨ wanted.requestId.isSome)
    (time : limit.seconds.isOver = false) :
    (ask keys request wanted sender limit network).1 =
        Fault.ofEnd (network.ending keys request wanted sender limit) ∧
      (ask keys request wanted sender limit network).2.elapsed = network.elapsed +
        ((network.ending keys request wanted sender limit).map (·.time)).getD 0 := by
  rw [ask_run network keys request wanted sender limit known time]
  exact ⟨rfl, rfl⟩

/-- Where some relay has told a status, the end of the publications tells no outage. -/
theorem outage_announced
    (accepted : ∃ call ∈ network.publications keys request limit, ∃ time status,
      call.outcome = some ⟨time, .ok status⟩)
    (ending : Timed (Except Outage (ByUrl Report)))
    (ended : network.announced keys request limit = some ending) :
    Publications.outage? ending.item = none := by
  rcases accepted with ⟨call, member, time, status, ok⟩
  rw [announced, settled, Option.map_eq_some_iff] at ended
  rcases ended with ⟨found, outcomes, rfl⟩
  rw [Option.mapM_eq_some] at outcomes
  rw [publications_eq, List.map_map] at outcomes
  rw [publications_eq, List.mem_map] at member
  rcases member with ⟨pair, inside, rfl⟩
  apply Publications.outage_settle _ pair.2.url status
  -- The publications stand in the order of the relays.
  obtain ⟨place, standing⟩ := List.mem_iff_getElem?.mp inside
  have same := congrArg (·[place]?) outcomes
  simp only [List.getElem?_map, standing, Option.map_some, Function.comp_apply, ok] at same
  obtain ⟨publication, told, accepted⟩ := Option.map_eq_some_iff.mp same.symm
  cases accepted
  rw [relays_asked]
  refine List.mem_iff_getElem?.mpr ⟨place, ?_⟩
  simp [List.getElem?_zipWith, standing, told, Relay.url_publish]

theorem mem_tidings (tiding : Timed Tiding) :
    tiding ∈ network.tidings keys request limit ↔
      (∃ listener ∈ network.listeners keys, tiding ∈ Tiding.ofFeed listener.1 listener.2) ∨
        tiding ∈ network.published keys request limit := by
  simp only [tidings, Timed.mem_merge, List.mem_append, List.mem_map, List.mem_singleton,
    or_and_right, exists_or, exists_eq_left, exists_exists_and_eq_and]

def heard : List (Timed Tiding) := Await.inTime limit (network.tidings keys request limit)

theorem ending_eq : network.ending keys request wanted sender limit =
    ((network.waiter keys wanted sender).decided? {} (network.heard keys request limit)).or
      (limit.seconds.finish?.map fun time => ⟨time, .error (.wait (.timeout limit))⟩) := rfl

theorem mem_heard (tiding : Timed Tiding) :
    tiding ∈ network.heard keys request limit ↔
      tiding ∈ network.tidings keys request limit ∧ limit.seconds.reaches tiding.time :=
  Await.mem_inTime limit _ (Timed.merge_sorted _) tiding

theorem mem_heard_ended (time : Rat) (url : String) (fault : Option LinkFault) :
    ⟨time, .ended url fault⟩ ∈ network.heard keys request limit ↔
      ∃ listener ∈ network.listeners keys, listener.1 = url ∧
        listener.2.Finishes ⟨time, fault⟩ ∧ ¬Tiding.Untold fault ∧
          limit.seconds.reaches time := by
  rw [mem_heard, mem_tidings]
  constructor
  · rintro ⟨⟨listener, member, told⟩ | announced, soon⟩
    · rcases (Tiding.mem_ofFeed _ _ _).mp told with
        ⟨taken, _, same⟩ | ⟨ending, ends, ⟨untold, same⟩ | ⟨_, same⟩⟩
      · cases same
      · cases same
        exact ⟨listener, member, rfl, ends, untold, soon⟩
      · cases same
    · obtain ⟨_, _, same⟩ := (network.mem_published keys request limit _).mp announced
      cases same
  · rintro ⟨listener, member, rfl, ends, untold, soon⟩
    have told := (Tiding.mem_ofFeed listener.1 listener.2 _).mpr
      (.inr ⟨_, ends, .inl ⟨untold, rfl⟩⟩)
    exact ⟨.inl ⟨listener, member, told⟩, soon⟩

theorem brings_of_mem_heard (time : Rat) (event : Event)
    (member : ⟨time, .event event⟩ ∈ network.heard keys request limit) :
    ∃ listener ∈ network.listeners keys, listener.2.Brings ⟨time, event⟩ := by
  rw [mem_heard, mem_tidings] at member
  rcases member with ⟨⟨listener, member, told⟩ | announced, _⟩
  · rcases (Tiding.mem_ofFeed _ _ _).mp told with
      ⟨taken, brought, same⟩ | ⟨_, _, ⟨_, same⟩ | ⟨_, same⟩⟩
    · cases same
      exact ⟨listener, member, brought⟩
    · cases same
    · cases same
  · obtain ⟨_, _, same⟩ := (network.mem_published keys request limit _).mp announced
    cases same

end Network

def Network.alone (url : String) (feeds : List Feed) (traffic : List Traffic) (supply : Supply)
    (elapsed : Rat) : Network :=
  { relays := [{ url, link := .direct feeds [], traffic }], supply, elapsed }

namespace Network

variable (url : String) (feeds : List Feed) (traffic : List Traffic) (supply : Supply)
variable (elapsed : Rat) (keys : Keys) (request : Event) (wanted : Correlation)
variable (sender : Option String) (limit : Number.Double)

theorem heard_alone (time : limit.seconds.isOver = false) (items : List Delivery)
    (offered : feeds.headD [] = Feed.atOnce items) :
    (alone url feeds traffic supply elapsed).heard keys request limit =
      Tiding.ofFeed url (Feed.atOnce items) ++ [⟨0, .published none⟩] := by
  have listened : (alone url feeds traffic supply elapsed).listeners keys =
      [(url, Timed.inOrder 0 (Supply.draw [] feeds).1)] := rfl
  have published : (alone url feeds traffic supply elapsed).published keys request limit =
      [⟨0, .published none⟩] := rfl
  have start : ∀ tiding ∈ Tiding.ofFeed url (Feed.atOnce items) ++ [⟨0, .published none⟩],
      tiding.time = 0 := by
    intro tiding member
    rcases List.mem_append.mp member with told | told
    · have times := (Tiding.times_ofFeed url (Feed.atOnce items)).subset (List.mem_map_of_mem told)
      obtain ⟨delivery, brought, time⟩ := List.mem_map.mp times
      obtain ⟨item, _, rfl⟩ := List.mem_map.mp brought
      exact time.symm
    · rw [List.mem_singleton.mp told]
  have merged : (alone url feeds traffic supply elapsed).tidings keys request limit =
      Tiding.ofFeed url (Feed.atOnce items) ++ [⟨0, .published none⟩] := by
    rw [tidings, listened, published, Supply.draw_eq, offered, Feed.inOrder_atOnce, Timed.merge]
    simp only [List.map_cons, List.map_nil, List.cons_append, List.nil_append, List.flatten_cons,
      List.flatten_nil, List.append_nil]
    apply List.mergeSort_of_pairwise
    apply List.pairwise_of_forall_mem_list
    intro a first b second
    rw [start a first, start b second]
    decide
  rw [heard, merged]
  apply List.takeWhile_eq_self_iff.mpr
  intro tiding member
  rw [start tiding member]
  exact limit.seconds.reaches_start time

/-- One relay that stays silent leaves one waiting until the limit, and stays as it is. -/
theorem ask_silent (known : wanted.orderId.isSome ∨ wanted.requestId.isSome)
    (time : limit.seconds.isOver = false) (seconds : Rat)
    (finish : limit.seconds.finish? = some seconds) :
    ∃ kept, ask keys request wanted sender limit (alone url [] traffic supply elapsed) =
      (.error (.wait (.timeout limit)), alone url [] kept supply (elapsed + seconds)) := by
  have heard := heard_alone url [] traffic supply elapsed keys request limit time [] rfl
  rw [ask_run _ keys request wanted sender limit known time, ending_eq, heard, finish]
  exact ⟨_, rfl⟩

/-- One relay that brings an event at once ends the waiting with what that event decides. -/
theorem ask_answered (known : wanted.orderId.isSome ∨ wanted.requestId.isSome)
    (time : limit.seconds.isOver = false) (event : Event) (named : event.id ≠ "")
    (outcome : Await.Outcome)
    (judged : ({ keys, wanted, sender, listeners := 1 } : Await).judge event = some outcome) :
    (ask keys request wanted sender limit
      (alone url [Feed.atOnce [.event event.toJson]] traffic supply elapsed)).1 = outcome := by
  have heard := heard_alone url [Feed.atOnce [.event event.toJson]] traffic supply elapsed keys
    request limit time [.event event.toJson] rfl
  have read : Event.ofJson event.toJson = .ok event := Event.ofFields_toFields event named
  have told : Tiding.ofFeed url (Feed.atOnce [.event event.toJson]) = [⟨0, .event event⟩] := by
    simp [Feed.atOnce, Tiding.ofFeed, read]
  have decided : (waiter (alone url [Feed.atOnce [.event event.toJson]] traffic supply elapsed)
      keys wanted sender).decided? {} [⟨0, .event event⟩, ⟨0, .published none⟩] =
        some ⟨0, outcome⟩ := by
    simp [waiter, Await.decided?, Await.hear, alone, judged]
  rw [ask_run _ keys request wanted sender limit known time, ending_eq, heard, told,
    List.singleton_append, decided]
  rfl

end Network
end TradeWire
