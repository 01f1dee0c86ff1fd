import TradeWire.Proofs.Envelope.RoundTrip
import TradeWire.Proofs.Listening
/-! Waiting while subscriptions end. It ends with the last of them, unless two relays share an
address or an end is not told. -/

namespace TradeWire

namespace Await

theorem endedUrls_append (before : List (Timed Tiding)) (time : Rat) (url : String)
    (fault : Option LinkFault) :
    endedUrls (before ++ [⟨time, .ended url fault⟩]) =
      ((endings (before.map (·.item)) ++ [(url, fault)]).map (·.1)).toFinset := by
  simp [endedUrls, endings]

theorem decided?_ended (await : Await) (before : List (Timed Tiding)) (time : Rat) (url : String)
    (fault : Option LinkFault)
    (all : (endedUrls (before ++ [⟨time, .ended url fault⟩])).card = await.listeners) :
    ∃ decision, await.decided? (await.hearAll {} before) [⟨time, .ended url fault⟩] =
      some decision := by
  rw [endedUrls_append] at all
  have follows := hearAll_follows await {} [] follows_nil before
  have heard := (hear_decides await _ _ follows _ _).mpr (.allEnded url fault all)
  rcases hearing : await.hear (await.hearAll {} before) (.ended url fault) with ⟨outcome, after⟩
  rw [hearing] at heard
  cases heard
  rw [decided?, hearing]
  exact ⟨_, rfl⟩

/-- Once an end has been told from as many addresses as there are listeners, there is a decision:
the last of these addresses decides if nothing before it has. -/
theorem exists_decided (await : Await) (tidings : List (Timed Tiding))
    (listened : 0 < await.listeners) (all : (endedUrls tidings).card = await.listeners) :
    ∃ decision, await.decided? {} tidings = some decision := by
  -- The last tiding is taken off: without it there are fewer addresses, or as many and a decision.
  induction tidings using List.reverseRecOn with
  | nil =>
      rw [← all] at listened
      cases listened
  | append_singleton tidings last ih =>
      rw [decided?_append]
      cases earlier : await.decided? {} tidings with
      | some decision => exact ⟨decision, rfl⟩
      | none =>
          have fewer : (endedUrls tidings).card ≠ await.listeners := by
            intro same
            rcases ih same with ⟨decision, decided⟩
            rw [earlier] at decided
            cases decided
          rcases last with ⟨time, item⟩
          cases item with
          | event _ | unpaired | published _ =>
              apply absurd _ fewer
              simpa [endedUrls, endings] using all
          | ended url fault => exact decided?_ended await tidings time url fault all

inductive Unanswered (await : Await) : Tiding → Prop where
  | event (event : Event) (other : ∀ direct, await.judge event ≠ some (.ok direct)) :
      Unanswered await (.event event)
  | ended (url : String) (fault : Option LinkFault) : Unanswered await (.ended url fault)
  | published : Unanswered await (.published none)

theorem decision_of_unanswered (await : Await) (tidings : List (Timed Tiding))
    (unanswered : ∀ tiding ∈ tidings, await.Unanswered tiding.item) (decision : Timed Outcome)
    (decided : await.decided? {} tidings = some decision) :
    (∃ front url fault back, tidings = front ++ ⟨decision.time, .ended url fault⟩ :: back ∧
      (endedUrls (front ++ [⟨decision.time, .ended url fault⟩])).card = await.listeners ∧
      ∃ outage, decision.item = .error (.wait (.allEnded outage))) ∨
    ∃ event fault, ⟨decision.time, .event event⟩ ∈ tidings ∧
      await.judge event = some (.error fault) ∧ decision.item = .error fault := by
  rcases (decided?_eq_some await {} [] follows_nil tidings decision).mp decided with
    ⟨front, ⟨time, item⟩, back, rfl, -, decides, rfl⟩
  have heard := unanswered ⟨_, item⟩ (List.mem_append_right _ List.mem_cons_self)
  rcases decision with ⟨time, outcome⟩
  cases decides with
  | notPublished outage => cases heard
  | unpaired => cases heard
  | allEnded url fault all =>
      left
      refine ⟨front, url, fault, back, rfl, ?_, _, rfl⟩
      rw [endedUrls_append]
      exact all
  | fault event fault fresh failed proper =>
      right
      exact ⟨event, fault, List.mem_append_right _ List.mem_cons_self,
        (judge_error await event fault).mpr ⟨failed, proper⟩, rfl⟩
  | reply event direct fresh read known accepted =>
      cases heard with
      | event _ other =>
          exact absurd ((judge_ok await event direct).mpr ⟨read, known, accepted⟩) (other direct)

end Await

def Feed.TellsBy (limit : Limit) (feed : Feed) : Prop :=
  ∃ ending, feed.Finishes ending ∧ ¬Tiding.Untold ending.item ∧ limit.reaches ending.time

def Await.inVain (limit : Number.Double) : Await.Outcome :=
  if limit.seconds = .endless then .error .endless else .error (.wait (.timeout limit))

theorem Await.ofEnd_inVain (limit : Number.Double) :
    Fault.ofEnd (limit.seconds.finish?.map fun time =>
      ⟨time, .error (.wait (.timeout limit))⟩) = Await.inVain limit := by
  rw [Await.inVain]
  cases limit.seconds <;> rfl

namespace Network

variable (network : Network) (keys : Keys) (request : Event) (wanted : Correlation)
variable (sender : Option String) (limit : Number.Double)

/-- All subscriptions end in time, no reply comes, and the publication does not fail everywhere. -/
structure Lost : Prop where
  ended : ∀ listener ∈ network.listeners keys, ∃ ending, listener.2.Finishes ending ∧
    limit.seconds.reaches ending.time
  held : ∀ listener ∈ network.listeners keys, ∀ time,
    ¬listener.2.Finishes ⟨time, some (.value .unpaired)⟩
  unanswered : ∀ listener ∈ network.listeners keys, ∀ taken, listener.2.Brings taken →
    ∀ direct, (network.waiter keys wanted sender).judge taken.item ≠ some (.ok direct)
  accepted : ∃ call ∈ network.publications keys request limit, ∃ time status,
    call.outcome = some ⟨time, .ok status⟩

/-- Every end is told, under an address of its own. -/
def TellsAll : Prop :=
  (network.relays.map (·.url)).Nodup ∧
    ∀ listener ∈ network.listeners keys, ∀ ending, listener.2.Finishes ending →
      ¬Tiding.Untold ending.item

variable {network keys request wanted sender limit}

theorem unanswered_heard (lost : network.Lost keys request wanted sender limit) :
    ∀ tiding ∈ network.heard keys request limit,
      (network.waiter keys wanted sender).Unanswered tiding.item := by
  rintro ⟨time, item⟩ member
  cases item with
  | event event =>
      rcases brings_of_mem_heard network keys request limit time event member with
        ⟨listener, listening, brought⟩
      exact .event event (lost.unanswered listener listening _ brought)
  | ended url fault => exact .ended url fault
  | unpaired =>
      rcases (mem_tidings network keys request limit _).mp
        ((mem_heard network keys request limit _).mp member).1 with ⟨listener, inside, told⟩ | told
      · rcases (Tiding.mem_ofFeed _ _ _).mp told with
          ⟨_, _, other⟩ | ⟨⟨_, fault⟩, ends, ⟨_, other⟩ | ⟨unheld, _⟩⟩
        · cases other
        · cases other
        · cases unheld
          exact absurd ends (lost.held listener inside _)
      · obtain ⟨_, _, other⟩ := (mem_published network keys request limit _).mp told
        cases other
  | published outage =>
      rcases (mem_tidings network keys request limit _).mp
        ((mem_heard network keys request limit _).mp member).1 with ⟨listener, _, told⟩ | told
      · rcases (Tiding.mem_ofFeed _ _ _).mp told with
          ⟨_, _, other⟩ | ⟨_, _, ⟨_, other⟩ | ⟨_, other⟩⟩
        · cases other
        · cases other
        · cases other
      · obtain ⟨ending, announced, same⟩ := (mem_published network keys request limit _).mp told
        cases same
        rw [outage_announced network keys request limit lost.accepted ending announced]
        exact .published

variable (network keys request limit) in
theorem mem_endedUrls_heard (url : String) :
    url ∈ Await.endedUrls (network.heard keys request limit) ↔
      ∃ listener ∈ network.listeners keys, listener.2.TellsBy limit.seconds ∧ listener.1 = url := by
  rw [Await.mem_endedUrls]
  simp only [mem_heard_ended]
  constructor
  · rintro ⟨time, fault, listener, member, rfl, told⟩
    exact ⟨listener, member, ⟨_, told⟩, rfl⟩
  · rintro ⟨listener, member, ⟨ending, told⟩, rfl⟩
    exact ⟨ending.time, ending.item, listener, member, rfl, told⟩

theorem card_heard (lost : network.Lost keys request wanted sender limit) :
    (Await.endedUrls (network.heard keys request limit)).card = network.relays.length ↔
      network.TellsAll keys := by
  rw [← length_listeners network keys, TellsAll, ← urls_listeners network keys,
    ByUrl.card_eq_length _ _ _ (mem_endedUrls_heard network keys request limit)]
  refine and_congr_right fun _ => forall₂_congr fun listener member => ?_
  rcases lost.ended listener member with ⟨ending, ends, soon⟩
  constructor
  · rintro ⟨told, toldEnds, untold, _⟩ other otherEnds
    rw [listener.2.finishes_unique other told otherEnds toldEnds]
    exact untold
  · intro tells
    exact ⟨ending, ends, tells ending ends, soon⟩

theorem card_part (lost : network.Lost keys request wanted sender limit)
    (part : List (Timed Tiding)) (within : part ⊆ network.heard keys request limit)
    (all : (Await.endedUrls part).card = network.relays.length) :
    network.TellsAll keys ∧
      Await.endedUrls part = Await.endedUrls (network.heard keys request limit) := by
  have inside := Await.endedUrls_subset part _ within
  have most := ByUrl.card_le_length _ _ _ (mem_endedUrls_heard network keys request limit)
  rw [length_listeners, ← all] at most
  have equal := Finset.eq_of_subset_of_card_le inside most
  refine ⟨(card_heard lost).mp ?_, equal⟩
  rw [← equal, all]

theorem subset_heard (front : List (Timed Tiding)) (last : Timed Tiding)
    (back : List (Timed Tiding))
    (split : network.heard keys request limit = front ++ last :: back) :
    front ++ [last] ⊆ network.heard keys request limit := by
  rw [split, show front ++ last :: back = (front ++ [last]) ++ back from List.append_cons _ _ _]
  exact List.subset_append_left _ _

theorem ending_le (lost : network.Lost keys request wanted sender limit)
    (front : List (Timed Tiding)) (last : Timed Tiding) (back : List (Timed Tiding))
    (split : network.heard keys request limit = front ++ last :: back)
    (all : (Await.endedUrls (front ++ [last])).card = network.relays.length)
    (listener : String × Feed) (member : listener ∈ network.listeners keys)
    (ending : Timed (Option LinkFault)) (ends : listener.2.Finishes ending) :
    ending.time ≤ last.time := by
  have within := subset_heard front last back split
  rcases card_part lost _ within all with ⟨tells, equal⟩
  have inside : listener.1 ∈ Await.endedUrls (front ++ [last]) := by
    rw [equal, mem_endedUrls_heard]
    rcases lost.ended listener member with ⟨other, otherEnds, soon⟩
    exact ⟨listener, member, ⟨other, otherEnds, tells.2 _ member _ otherEnds, soon⟩, rfl⟩
  -- An end from this address has been told, and where no two share it, it is this end.
  rcases (Await.mem_endedUrls _ _).mp inside with ⟨time, fault, told⟩
  rcases (mem_heard_ended network keys request limit _ _ _).mp (within told) with
    ⟨other, otherMember, same, otherEnds, _⟩
  have single := tells.1
  rw [← urls_listeners network keys] at single
  have equalListeners := List.inj_on_of_nodup_map single otherMember member same
  subst equalListeners
  rw [other.2.finishes_unique ending ⟨time, fault⟩ ends otherEnds]
  have sorted : (front ++ last :: back).Pairwise fun a b => a.time ≤ b.time := by
    rw [← split]
    exact (Timed.merge_sorted _).sublist (List.takeWhile_sublist _)
  rcases List.mem_append.mp told with earlier | latest
  · exact (List.pairwise_append.mp sorted).2.2 _ earlier last List.mem_cons_self
  · have final := List.mem_singleton.mp latest
    exact final ▸ Rat.le_refl

variable (network keys) in
structure AllEnded (decision : Timed Await.Outcome) : Prop where
  tells : network.TellsAll keys
  lost : ∃ outage, decision.item = .error (.wait (.allEnded outage))
  last : ∃ listener ∈ network.listeners keys, ∃ ending, listener.2.Finishes ending ∧
    decision.time = ending.time
  latest : ∀ listener ∈ network.listeners keys, ∀ ending, listener.2.Finishes ending →
    ending.time ≤ decision.time

/-- What decides is the last end, or an event with a fault. -/
theorem decision_of_lost (lost : network.Lost keys request wanted sender limit)
    (decision : Timed Await.Outcome)
    (found : (network.waiter keys wanted sender).decided? {} (network.heard keys request limit) =
      some decision) :
    network.AllEnded keys decision ∨
      ∃ listener ∈ network.listeners keys, ∃ taken fault, listener.2.Brings taken ∧
        (network.waiter keys wanted sender).judge taken.item = some (.error fault) ∧
          decision.item = .error fault := by
  rcases Await.decision_of_unanswered _ _ (unanswered_heard lost) decision found with
    ⟨front, url, fault, back, split, all, outage⟩ | ⟨event, fault, member, judged, same⟩
  · left
    have within := subset_heard front _ back split
    have told := within (List.mem_append_right front List.mem_cons_self)
    rcases (mem_heard_ended network keys request limit _ _ _).mp told with
      ⟨listener, member, _, ends, _⟩
    exact {
      tells := (card_part lost _ within all).1
      lost := outage
      last := ⟨listener, member, _, ends, rfl⟩
      latest := ending_le lost front _ back split all }
  · right
    rcases brings_of_mem_heard network keys request limit _ _ member with
      ⟨listener, listening, brought⟩
    exact ⟨listener, listening, _, fault, brought, judged, same⟩

theorem exists_decision_of_lost (lost : network.Lost keys request wanted sender limit)
    (relayed : network.relays ≠ []) (tells : network.TellsAll keys) :
    ∃ decision, (network.waiter keys wanted sender).decided? {} (network.heard keys request limit) =
      some decision :=
  Await.exists_decided (network.waiter keys wanted sender) _ (List.length_pos_iff.mpr relayed)
    ((card_heard lost).mpr tells)

/-- Once all subscriptions have ended without a reply, the waiting ends with the last of them, if
every end is told under an address of its own, and else only at the limit, or never if that is
endless. An event that cannot be read may end it with a fault of its own. -/
theorem ask_lost (relayed : network.relays ≠ [])
    (known : wanted.orderId.isSome ∨ wanted.requestId.isSome)
    (time : limit.seconds.isOver = false)
    (lost : network.Lost keys request wanted sender limit)
    (outcome : Await.Outcome) (after : Network)
    (asked : ask keys request wanted sender limit network = (outcome, after)) :
    ((∀ listener ∈ network.listeners keys, ∀ taken, listener.2.Brings taken →
        (network.waiter keys wanted sender).judge taken.item = none) →
      (network.TellsAll keys →
        (∃ outage, outcome = .error (.wait (.allEnded outage))) ∧
        (∃ listener ∈ network.listeners keys, ∃ ending, listener.2.Finishes ending ∧
          after.elapsed = network.elapsed + ending.time) ∧
        ∀ listener ∈ network.listeners keys, ∀ ending, listener.2.Finishes ending →
          network.elapsed + ending.time ≤ after.elapsed) ∧
      (¬network.TellsAll keys → outcome = Await.inVain limit)) ∧
    ((∃ outage, outcome = .error (.wait (.allEnded outage))) ∨
      outcome = Await.inVain limit ∨
      ∃ listener ∈ network.listeners keys, ∃ taken fault, listener.2.Brings taken ∧
        (network.waiter keys wanted sender).judge taken.item = some (.error fault) ∧
          outcome = .error fault) := by
  rcases ask_eq network keys request wanted sender limit known time with ⟨item, elapsed⟩
  rw [asked, ending_eq] at item elapsed
  cases found : (network.waiter keys wanted sender).decided? {}
    (network.heard keys request limit) with
  | none =>
      -- Nothing has decided, so some end has not been told, or not from an address of its own.
      rw [found, Option.none_or, Await.ofEnd_inVain] at item
      refine ⟨fun _ => ⟨fun tells => ?_, fun _ => item⟩, .inr (.inl item)⟩
      rcases exists_decision_of_lost lost relayed tells with ⟨decision, decided⟩
      rw [found] at decided
      cases decided
  | some decision =>
      rw [found] at item elapsed
      rcases decision_of_lost lost decision found with
        ended | ⟨listener, member, taken, fault, brought, judged, same⟩
      · rcases ended.lost with ⟨outage, same⟩
        have told : ∃ outage, outcome = .error (.wait (.allEnded outage)) :=
          ⟨outage, item.trans same⟩
        refine ⟨fun _ => ⟨fun _ => ⟨told, ?_, ?_⟩, absurd ended.tells⟩, .inl told⟩
        · rcases ended.last with ⟨listener, member, ending, ends, time⟩
          exact ⟨listener, member, ending, ends, time ▸ elapsed⟩
        · intro listener member ending ends
          rw [elapsed]
          exact Rat.add_le_add_left.mpr (ended.latest listener member ending ends)
      · refine ⟨fun quiet => ?_, .inr (.inr ⟨listener, member, taken, fault, brought, judged,
          item.trans same⟩)⟩
        rw [quiet listener member taken brought] at judged
        cases judged

def closing (urls : List String) : Network := bringing (urls.map fun url => (url, [.closed]))

theorem listeners_closing (keys : Keys) (urls : List String) :
    (closing urls).listeners keys = urls.map fun url => (url, Feed.atOnce [.closed]) := by
  have listened := subscribe_bringing (Filter.newWraps keys.publicKey) false
    (urls.map fun url => (url, [.closed])) {}
  simpa only [listeners, subscribed, closing, bringing, List.map_map, Function.comp_def]
    using listened

theorem finishes_closed (ending : Timed (Option LinkFault)) :
    (Feed.atOnce [.closed]).Finishes ending ↔ ending = ⟨0, none⟩ :=
  Feed.finishes_last 0 [] .closed (by simp) none (by simp) ending

theorem tellsAll_closing (keys : Keys) (urls : List String) :
    (closing urls).TellsAll keys ↔ urls.Nodup := by
  have addresses : (closing urls).relays.map (·.url) = urls := by
    rw [← urls_listeners _ keys, listeners_closing, List.map_map]
    exact List.map_id urls
  rw [TellsAll, addresses, listeners_closing]
  simp [finishes_closed, Tiding.Untold]

theorem quiet_closing (keys : Keys) (urls : List String) :
    ∀ listener ∈ (closing urls).listeners keys, ∀ taken, ¬listener.2.Brings taken := by
  rw [listeners_closing, List.forall_mem_map]
  intro url _
  exact Feed.not_brings_last 0 [] .closed (by simp)

def question : Event where
  id := "question"
  pubkey := "someone"
  createdAt := 0
  kind := Event.giftWrapKind
  tags := []
  content := ""

theorem lost_closing (keys : Keys) (wanted : Correlation) (sender : Option String)
    (urls : List String) (relayed : urls ≠ []) :
    (closing urls).Lost keys question wanted sender (.finite false 15 0) where
  ended := by
    rw [listeners_closing, List.forall_mem_map]
    intro url _
    exact ⟨⟨0, none⟩, (finishes_closed _).mpr rfl, by decide +kernel⟩
  held := by
    rw [listeners_closing, List.forall_mem_map]
    intro url _ time ends
    cases (finishes_closed _).mp ends
  unanswered := by
    intro listener member taken brought
    exact absurd brought (quiet_closing keys urls listener member taken)
  accepted := by
    cases urls with
    | nil => exact absurd rfl relayed
    | cons url urls =>
        rw [publications_eq, subscribed, closing, bringing, List.map_cons, List.map_cons,
          subscribeEach_cons]
        exact ⟨_, List.mem_cons_self, _, some "accepted", rfl⟩

/-- Two relays that close all subscriptions at once are told of at once, unless they share an
address. -/
theorem ask_lost_closing :
    (∃ outage, (ask .keysOne question { orderId := some "x", requestId := none } none
      (.finite false 15 0) (closing ["one", "two"])).1 = .error (.wait (.allEnded outage))) ∧
    (ask .keysOne question { orderId := some "x", requestId := none } none
      (.finite false 15 0) (closing ["one", "one"])).1 =
        .error (.wait (.timeout (.finite false 15 0))) := by
  have silent (urls : List String) : ∀ listener ∈ (closing urls).listeners .keysOne, ∀ taken,
      listener.2.Brings taken →
        ((closing urls).waiter .keysOne { orderId := some "x", requestId := none } none).judge
          taken.item = none := by
    intro listener member taken brought
    exact absurd brought (quiet_closing _ urls listener member taken)
  have apart := (ask_lost (by decide) (.inl rfl) (by decide +kernel)
    (lost_closing .keysOne { orderId := some "x", requestId := none } none ["one", "two"]
      (by decide)) _ _ rfl).1 (silent _)
  have twins := (ask_lost (by decide) (.inl rfl) (by decide +kernel)
    (lost_closing .keysOne { orderId := some "x", requestId := none } none ["one", "one"]
      (by decide)) _ _ rfl).1 (silent _)
  exact ⟨(apart.1 ((tellsAll_closing _ _).mpr (by decide))).1,
    twins.2 (mt (tellsAll_closing _ _).mp (by decide))⟩

end Network

end TradeWire
