import TradeWire.Proofs.Drawing
import TradeWire.Proofs.Listening
/-! What relays are sent. One who waits for a reply sends the request to each relay that opens
before the waiting ends, once, and sends nothing else. -/

namespace TradeWire

def Traffic.event? : Traffic → Option Fields
  | .publication event => some event
  | .frame (.arr [.str "EVENT", .obj event]) => some event
  | .frame _ | .subscription _ _ => none

/-- Whether something happens before one leaves, who may never leave. -/
def isBefore (time : Rat) (finish : Option Rat) : Bool :=
  finish.all fun last => decide (time ≤ last)

namespace Call

variable {α : Type} (call : Call α) (finish : Option Rat)

def sent : List Fields := (call.handedBy finish).filterMap Traffic.event?

theorem sent_eq_nil
    (none : ∀ traffic ∈ call.handed ++ call.closing.toList, traffic.item.event? = none) :
    call.sent finish = [] := by
  rw [sent, List.filterMap_eq_nil_iff, handedBy, List.forall_mem_map]
  exact fun traffic member => none traffic (List.mem_of_mem_filter member)

theorem sent_once (outcome : α) (time : Rat) (traffic : Traffic) (event : Fields)
    (carries : traffic.event? = some event) :
    sent { outcome, handed := [⟨time, traffic⟩] } finish =
      List.replicate (isBefore time finish).toNat event := by
  cases early : isBefore time finish with
  | true =>
      have kept : (finish.all fun last => decide (time ≤ last)) = true := early
      simp [sent, handedBy, kept, carries]
  | false =>
      have left : (finish.all fun last => decide (time ≤ last)) = false := early
      simp [sent, handedBy, left]

end Call

namespace Connection

variable (connection : Connection) (url : String)

def sendingAt? : Option Rat :=
  if connection.refusal?.isSome then none else some connection.opensAt

theorem sent_subscribe (id : String) (filters : Fields) (closeWhenDrained : Bool)
    (finish : Option Rat) :
    (connection.subscribe url id filters closeWhenDrained).sent finish = [] := by
  apply Call.sent_eq_nil
  unfold subscribe
  split
  · exact List.forall_mem_nil _
  · refine List.forall_mem_cons.mpr ⟨rfl, ?_⟩
    intro traffic member
    obtain ⟨time, -, rfl⟩ := Option.mem_map.mp (Option.mem_toList.mp member)
    rfl

theorem sent_publish (event : Fields) (limit : Limit) (finish : Option Rat) :
    (connection.publish url event limit).sent finish =
      List.replicate (connection.sendingAt?.any (isBefore · finish)).toNat event := by
  unfold publish sendingAt?
  cases connection.refusal? with
  | some reason => rfl
  | none => exact Call.sent_once finish _ connection.opensAt (.frame (eventFrame event)) event rfl

theorem subscribe_from (id : String) (filters : Fields) (closeWhenDrained : Bool) :
    ∀ delivery ∈ (connection.subscribe url id filters closeWhenDrained).outcome,
      0 ≤ delivery.time := by
  have opens : 0 ≤ connection.opensAt := Timed.le_later 0 connection.opening
  unfold subscribe
  split
  · exact List.forall_mem_singleton.mpr opens
  · dsimp only [Feed.closedAfter]
    rw [List.forall_mem_map]
    intro delivery member
    have times := (Feed.times_ofFrames url id closeWhenDrained connection.room
      connection.taken).subset (List.mem_map_of_mem member)
    obtain ⟨frame, among, time⟩ := List.mem_map.mp times
    have taken := (Timed.inOrder_sorted connection.opensAt connection.frames).2 frame among
    have told := Feed.le_closedAfter connection.closingTime
      (Timed.le_later 0 connection.closing) delivery
    rw [time] at taken
    exact Rat.le_trans opens (Rat.le_trans taken told)

end Connection

namespace Relay

variable (relay : Relay)

def sent : List Fields := relay.traffic.filterMap Traffic.event?

def sendingAt? : Option Rat :=
  match relay.link with
  | .direct _ _ => some 0
  | .socket connections => (connections.tail.headD {}).sendingAt?

def isReached (finish : Option Rat) : Bool := relay.sendingAt?.any (isBefore · finish)

theorem sent_keep (traffic : List Traffic) :
    (relay.keep traffic).sent = relay.sent ++ traffic.filterMap Traffic.event? :=
  List.filterMap_append

variable (filters : Fields) (closeWhenDrained : Bool) (supply : Supply)

theorem subscribe_from :
    ∀ delivery ∈ (relay.subscribe filters closeWhenDrained supply).1.1.outcome,
      0 ≤ delivery.time := by
  rcases relay with ⟨url, link, traffic⟩
  cases link with
  | direct feeds publications => exact (Timed.inOrder_sorted 0 _).2
  | socket connections => exact Connection.subscribe_from _ url _ filters closeWhenDrained

theorem sent_subscribe (finish : Option Rat) :
    (relay.subscribe filters closeWhenDrained supply).1.1.sent finish = [] := by
  rcases relay with ⟨url, link, traffic⟩
  cases link with
  | direct feeds publications =>
      exact Call.sent_eq_nil _ finish (List.forall_mem_singleton.mpr rfl)
  | socket connections => exact Connection.sent_subscribe _ url _ filters closeWhenDrained finish

variable (event : Fields) (limit : Limit)

theorem sent_publish (finish : Option Rat) :
    ((relay.subscribe filters closeWhenDrained supply).1.2.publish event limit).1.sent finish =
      List.replicate (relay.isReached finish).toNat event := by
  rcases relay with ⟨url, link, traffic⟩
  cases link with
  | direct feeds publications =>
      exact Call.sent_once finish _ 0 (.publication event) event rfl
  | socket connections =>
      have second : connections.tail.headD {} =
          (Supply.draw {} (Supply.draw {} connections).2).1 := by
        rw [Supply.draw_eq, Supply.draw_eq]
      simp only [isReached, sendingAt?, second]
      exact Connection.sent_publish _ url event limit finish

theorem traffic_publish :
    ((relay.subscribe filters closeWhenDrained supply).1.2.publish event limit).2.traffic =
      relay.traffic := by
  rcases relay with ⟨url, link, traffic⟩
  cases link <;> rfl

end Relay

theorem Timed.le_foldl_later (times : List Rat) (start : Rat) :
    start ≤ times.foldl later start := by
  induction times generalizing start with
  | nil => exact Rat.le_refl
  | cons time times ih => exact Rat.le_trans (le_later start time) (ih (later start time))

theorem Await.run_from (await : Await) (limit : Number.Double) (tidings : List (Timed Tiding))
    (start : ∀ tiding ∈ tidings, 0 ≤ tiding.time) :
    ∀ ending ∈ await.run limit tidings, 0 ≤ ending.time := by
  intro ending ends
  rw [Option.mem_def, run_eq, Option.or_eq_some_iff] at ends
  obtain decided | ⟨-, late⟩ := ends
  · obtain ⟨_, tiding, _, rfl, _, _, _, time⟩ :=
      (decided?_inTime await limit tidings ending).mp decided
    rw [time]
    exact start tiding (by simp)
  · obtain ⟨time, finish, rfl⟩ := Option.map_eq_some_iff.mp late
    exact limit.seconds.finish_from time finish

namespace Network

variable (network : Network) (keys : Keys) (request : Event) (wanted : Correlation)
variable (sender : Option String) (limit : Number.Double)

theorem subscribed_from : ∀ pair ∈ network.subscribed keys,
    ∀ delivery ∈ pair.1.outcome, 0 ≤ delivery.time := by
  suffices start : ∀ (relays : List Relay) (supply : Supply),
      ∀ pair ∈ (subscribeEach (Filter.newWraps keys.publicKey) false relays supply).1,
        ∀ delivery ∈ pair.1.outcome, 0 ≤ delivery.time from start network.relays network.supply
  intro relays
  induction relays with
  | nil => exact fun _ => List.forall_mem_nil _
  | cons relay relays ih =>
      intro supply
      rw [subscribeEach_cons]
      exact List.forall_mem_cons.mpr ⟨relay.subscribe_from _ _ supply, ih _⟩

theorem tidings_from : ∀ tiding ∈ network.tidings keys request limit, 0 ≤ tiding.time := by
  intro tiding member
  obtain ⟨listener, among, told⟩ | told := (network.mem_tidings keys request limit tiding).mp member
  · obtain ⟨pair, inside, rfl⟩ := List.mem_map.mp among
    have times := (Tiding.times_ofFeed _ _).subset (List.mem_map_of_mem told)
    obtain ⟨delivery, brought, time⟩ := List.mem_map.mp times
    exact time ▸ network.subscribed_from keys pair inside delivery brought
  · obtain ⟨ending, ended, rfl⟩ := (network.mem_published keys request limit tiding).mp told
    obtain ⟨found, -, rfl⟩ := Option.map_eq_some_iff.mp ended
    exact Timed.le_foldl_later _ 0

def finish : Option Rat := (network.ending keys request wanted sender limit).map (·.time)

/-- Each relay has been sent an event as often as is told of its place, and nothing else. -/
def Repeats (event : Event) (times : Nat → Nat) (before after : Network) : Prop :=
  ∀ place, (after.relays[place]?).map (·.sent) = (before.relays[place]?).map fun relay =>
    relay.sent ++ List.replicate (times place) event.toFields

theorem repeats_zero (event : Event) : Repeats event (fun _ => 0) network network := by
  intro place
  simp

theorem Repeats.trans {event : Event} {some more : Nat → Nat} {before middle after : Network}
    (first : Repeats event some before middle) (second : Repeats event more middle after) :
    Repeats event (fun place => some place + more place) before after := by
  intro place
  have sent := congrArg (Option.map (· ++ List.replicate (more place) event.toFields)) (first place)
  rw [Option.map_map, Option.map_map] at sent
  rw [second place]
  refine sent.trans (congrArg (Option.map · _) (funext fun relay => ?_))
  rw [Function.comp_apply, List.append_assoc, List.replicate_append_replicate]

def isReached (place : Nat) (finish : Option Rat) : Bool :=
  (network.relays[place]?).any (·.isReached finish)

/-- The request is sent once to each relay that is reached before one leaves, which is not before
the start. -/
structure Sends (event : Event) (finish : Option Rat) (before after : Network) : Prop where
  start : ∀ seconds, finish = some seconds → 0 ≤ seconds
  elapsed : after.elapsed = before.elapsed + finish.getD 0
  sent : Repeats event (fun place => (before.isReached place finish).toNat) before after

theorem relays_left (finish : Option Rat) :
    (network.left keys request limit finish).relays =
      (network.subscribed keys).map fun pair =>
        ((pair.2.publish request.toFields limit.seconds).2.keep (pair.1.handedBy finish)).keep
          ((pair.2.publish request.toFields limit.seconds).1.handedBy finish) := by
  simp only [left, after, keep, relays_asked, publications_eq, List.map_map, List.zipWith_map,
    List.zipWith_self, Function.comp_def]

theorem sent_left (finish : Option Rat) :
    (network.left keys request limit finish).relays.map (·.sent) =
      network.relays.map fun relay =>
        relay.sent ++ List.replicate (relay.isReached finish).toNat request.toFields := by
  rw [relays_left, List.map_map]
  apply map_subscribeEach
  intro relay supply
  have none := relay.sent_subscribe (Filter.newWraps keys.publicKey) false supply finish
  have once := relay.sent_publish (Filter.newWraps keys.publicKey) false supply
    request.toFields limit.seconds finish
  rw [Call.sent] at none once
  rw [Function.comp_apply, Relay.sent_keep, Relay.sent_keep, none, once, List.append_nil,
    Relay.sent, Relay.traffic_publish]
  rfl

theorem repeats_left (finish : Option Rat) :
    Repeats request (fun place => (network.isReached place finish).toNat) network
      (network.left keys request limit finish) := by
  intro place
  have sent := congrArg (·[place]?) (network.sent_left keys request limit finish)
  simp only [List.getElem?_map] at sent
  dsimp only [isReached]
  rw [sent]
  cases network.relays[place]? <;> rfl

/-- Something is given to know the reply by, and there is time to wait for it. -/
def Waits (wanted : Correlation) (limit : Number.Double) : Prop :=
  (wanted.orderId.isSome ∨ wanted.requestId.isSome) ∧ limit.seconds.isOver = false

instance : Decidable (Waits wanted limit) := inferInstanceAs (Decidable (_ ∧ _))

theorem sends_ask (waits : Waits wanted limit) :
    Sends request (network.finish keys request wanted sender limit) network
      (ask keys request wanted sender limit network).2 := by
  rw [ask_run network keys request wanted sender limit waits.1 waits.2]
  refine ⟨?_, rfl, network.repeats_left keys request limit _⟩
  intro seconds ended
  obtain ⟨ending, ends, rfl⟩ := Option.map_eq_some_iff.mp ended
  exact Await.run_from _ limit _ (network.tidings_from keys request limit) ending ends

theorem ask_idle (idle : ¬Waits wanted limit) :
    (ask keys request wanted sender limit network).2 = network := by
  by_cases known : wanted.orderId.isSome ∨ wanted.requestId.isSome
  · cases time : limit.seconds.isOver with
    | true => rw [ask_late network keys request wanted sender limit known time]
    | false => exact absurd ⟨known, time⟩ idle
  · rw [ask_unknown network keys request wanted sender limit known]

end Network

end TradeWire
