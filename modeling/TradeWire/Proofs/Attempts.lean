import TradeWire.Proofs.Envelope.RoundTrip
import TradeWire.Proofs.Exchange
import TradeWire.Proofs.Sending
/-! A request is asked until an attempt is not silent, at most as often as allowed, and what it
comes to is told by the last attempt. Each attempt sends the same event. -/

namespace TradeWire

section Persisting

variable {σ α : Type} (ask : StateM σ (Except Fault α)) (start : σ)

def stateAfter (number : Nat) : σ := Nat.iterate (fun state => (ask state).2) number start

def outcomeAfter (number : Nat) : Except Fault α := (ask (stateAfter ask start number)).1

def IsSilence (outcome : Except Fault α) : Prop :=
  ∃ limit, outcome = .error (.wait (.timeout limit))

inductive Told : Except Fault α → Except Fault α → Prop where
  | reply (a : α) : Told (.ok a) (.ok a)
  | notSent (why : WaitFault) (answered : ∀ limit, why ≠ .timeout limit) :
      Told (.error (.wait why)) (.error (.request (.notSent why)))
  | fault (fault : Fault) (other : ∀ why, fault ≠ .wait why) : Told (.error fault) (.error fault)

/-- Asking at most some times ends with the first attempt that is not silent, and behind that
nothing is asked. -/
structure Persists (limit : Number.Double) (count : Nat) (ended : Except Fault α × σ) : Prop where
  first : ∀ number < count, (∀ earlier < number, IsSilence (outcomeAfter ask start earlier)) →
    ¬IsSilence (outcomeAfter ask start number) →
      Told (outcomeAfter ask start number) ended.1 ∧ ended.2 = stateAfter ask start (number + 1)
  silent : (∀ number < count, IsSilence (outcomeAfter ask start number)) →
    ended = (.error (.request (.noResponse limit)), stateAfter ask start count)

theorem stateAfter_succ (number : Nat) :
    stateAfter ask start (number + 1) = (ask (stateAfter ask start number)).2 :=
  Function.iterate_succ_apply' _ number start

theorem exists_told (outcome : Except Fault α) (answered : ¬IsSilence outcome) :
    ∃ told, Told outcome told := by
  cases outcome with
  | ok a => exact ⟨_, .reply a⟩
  | error fault =>
      cases fault with
      | wait why =>
          refine ⟨_, .notSent why ?_⟩
          intro limit same
          subst same
          exact answered ⟨limit, rfl⟩
      | value _ | decode _ | parse _ _ | link _ | outage _ | request _ | endless =>
          exact ⟨_, .fault _ fun _ same => nomatch same⟩

variable (limit : Number.Double)

theorem persist_of_silence (left : Nat) (silence : IsSilence (ask start).1) :
    persist ask limit (left + 1) start = persist ask limit left (ask start).2 := by
  obtain ⟨waited, silence⟩ := silence
  rcases asked : ask start with ⟨outcome, next⟩
  rw [asked] at silence
  cases silence
  simp only [persist, bind, StateT.bind, asked]

theorem persist_of_told (left : Nat) (told : Except Fault α) (tells : Told (ask start).1 told) :
    persist ask limit (left + 1) start = (told, (ask start).2) := by
  rcases asked : ask start with ⟨outcome, next⟩
  rw [asked] at tells
  simp only [persist, bind, StateT.bind, asked]
  cases tells with
  | reply a => rfl
  | notSent why answered =>
      cases why with
      | timeout waited => exact absurd rfl (answered waited)
      | notPublished _ | allEnded _ => rfl
  | fault fault other =>
      cases fault with
      | wait why => exact absurd rfl (other why)
      | value _ | decode _ | parse _ _ | link _ | outage _ | request _ | endless => rfl

theorem persist_after (number left : Nat)
    (silent : ∀ earlier < number, IsSilence (outcomeAfter ask start earlier)) :
    persist ask limit (number + left) start =
      persist ask limit left (stateAfter ask start number) := by
  induction number generalizing left with
  | zero =>
      rw [Nat.zero_add]
      rfl
  | succ number ih =>
      have earlier := ih (left + 1) fun before less => silent before (Nat.lt_succ_of_lt less)
      have last := persist_of_silence ask (stateAfter ask start number) limit left
        (silent number (Nat.lt_succ_self number))
      rw [Nat.succ_add_eq_add_succ, earlier, last, stateAfter_succ]

theorem persists (count : Nat) :
    Persists ask start limit count (persist ask limit count start) where
  first number less silent answered := by
    obtain ⟨told, tells⟩ := exists_told _ answered
    obtain ⟨left, rfl⟩ := Nat.exists_eq_add_of_lt less
    have ended := persist_of_told ask (stateAfter ask start number) limit left told tells
    rw [Nat.add_assoc, persist_after ask start limit number (left + 1) silent, ended]
    exact ⟨tells, (stateAfter_succ ask start number).symm⟩
  silent silent := persist_after ask start limit count 0 silent

theorem silent_or_first (count : Nat) :
    (∀ number < count, IsSilence (outcomeAfter ask start number)) ∨
      ∃ number < count, (∀ earlier < number, IsSilence (outcomeAfter ask start earlier)) ∧
        ¬IsSilence (outcomeAfter ask start number) := by
  induction count with
  | zero => exact .inl fun number less => absurd less (Nat.not_lt_zero number)
  | succ count ih =>
      obtain silent | ⟨number, less, first⟩ := ih
      · by_cases last : IsSilence (outcomeAfter ask start count)
        · exact .inl (Nat.forall_lt_succ_right.mpr ⟨silent, last⟩)
        · exact .inr ⟨count, Nat.lt_succ_self count, silent, last⟩
      · exact .inr ⟨number, Nat.lt_succ_of_lt less, first⟩

theorem Persists.noResponse_iff (count : Nat) (ended : Except Fault α × σ)
    (persists : Persists ask start limit count ended)
    (own : ∀ state told, (ask state).1 ≠ .error (.request (.noResponse told))) :
    (∃ told, ended.1 = .error (.request (.noResponse told))) ↔
      ∀ number < count, IsSilence (outcomeAfter ask start number) := by
  constructor
  · rintro ⟨waited, same⟩
    obtain silent | ⟨number, less, silent, answered⟩ := silent_or_first ask start count
    · exact silent
    · obtain ⟨tells, -⟩ := persists.first number less silent answered
      rw [same] at tells
      generalize asked : outcomeAfter ask start number = outcome at tells
      cases tells with
      | fault _ _ => exact absurd asked (own _ waited)
  · intro silent
    exact ⟨limit, congrArg Prod.fst (persists.silent silent)⟩

/-- How many attempts are made: all that are silent up to the first that is not, if so many are
allowed. -/
structure Makes (count made : Nat) : Prop where
  most : made ≤ count
  silent : ∀ earlier, earlier + 1 < made → IsSilence (outcomeAfter ask start earlier)
  last : made = count ∨ ∃ number, made = number + 1 ∧ ¬IsSilence (outcomeAfter ask start number)

theorem Persists.makes (count : Nat) (ended : Except Fault α × σ)
    (persists : Persists ask start limit count ended) :
    ∃ made, Makes ask start count made ∧ ended.2 = stateAfter ask start made := by
  obtain silent | ⟨number, less, silent, answered⟩ := silent_or_first ask start count
  · refine ⟨count, ⟨Nat.le_refl count, ?_, .inl rfl⟩, congrArg Prod.snd (persists.silent silent)⟩
    exact fun earlier before => silent earlier (Nat.lt_of_succ_lt before)
  · refine ⟨number + 1, ⟨less, ?_, .inr ⟨number, rfl, answered⟩⟩,
      (persists.first number less silent answered).2⟩
    exact fun earlier before => silent earlier (Nat.lt_of_succ_lt_succ before)

end Persisting

namespace Network

variable (network : Network) (keys : Keys) (request : Event) (wanted : Correlation)
variable (sender : Option String) (limit : Number.Double)

def afterAttempts (number : Nat) : Network :=
  stateAfter (ask keys request wanted sender limit) network number

def finishAfter (number : Nat) : Option Rat :=
  (network.afterAttempts keys request wanted sender limit number).finish
    keys request wanted sender limit

/-- How often the relay at a place is sent the request: in each attempt that waits and reaches it.
-/
def timesSent (made place : Nat) : Nat :=
  (List.range made).countP fun number => decide (Waits wanted limit) &&
    (network.afterAttempts keys request wanted sender limit number).isReached place
      (network.finishAfter keys request wanted sender limit number)

theorem afterAttempts_succ (number : Nat) :
    network.afterAttempts keys request wanted sender limit (number + 1) =
      (ask keys request wanted sender limit
        (network.afterAttempts keys request wanted sender limit number)).2 :=
  stateAfter_succ _ network number

theorem sends_attempt (waits : Waits wanted limit) (number : Nat) :
    Sends request (network.finishAfter keys request wanted sender limit number)
      (network.afterAttempts keys request wanted sender limit number)
      (network.afterAttempts keys request wanted sender limit (number + 1)) := by
  rw [afterAttempts_succ]
  exact sends_ask _ keys request wanted sender limit waits

theorem afterAttempts_idle (idle : ¬Waits wanted limit) (number : Nat) :
    network.afterAttempts keys request wanted sender limit number = network := by
  induction number with
  | zero => rfl
  | succ number ih => rw [afterAttempts_succ, ih, ask_idle _ _ _ _ _ _ idle]

theorem timesSent_succ (waits : Waits wanted limit) (made place : Nat) :
    network.timesSent keys request wanted sender limit (made + 1) place =
      network.timesSent keys request wanted sender limit made place +
        ((network.afterAttempts keys request wanted sender limit made).isReached place
          (network.finishAfter keys request wanted sender limit made)).toNat := by
  rw [timesSent, List.range_succ, List.countP_append, List.countP_singleton, ← timesSent,
    Bool.toNat, Bool.cond_eq_ite]
  simp only [waits, decide_true, Bool.true_and]

theorem repeats_attempts (made : Nat) :
    Repeats request (network.timesSent keys request wanted sender limit made) network
      (network.afterAttempts keys request wanted sender limit made) := by
  by_cases waits : Waits wanted limit
  · induction made with
    | zero => exact network.repeats_zero request
    | succ made ih =>
        have sent := (network.sends_attempt keys request wanted sender limit waits made).sent
        intro place
        rw [ih.trans sent place]
        simp only [timesSent_succ network keys request wanted sender limit waits]
  · intro place
    rw [afterAttempts_idle network keys request wanted sender limit waits made]
    simp [timesSent, waits]

/-- What comes of a request that is asked at most some times. -/
structure Settles (count : Nat) (outcome : Await.Outcome) (last : Network) : Prop where
  persists : Persists (ask keys request wanted sender limit) network limit count (outcome, last)
  noResponse : (∃ told, outcome = .error (.request (.noResponse told))) ↔
    ∀ number < count, IsSilence (outcomeAfter (ask keys request wanted sender limit) network number)
  sends : Waits wanted limit → ∀ number,
    Sends request (network.finishAfter keys request wanted sender limit number)
      (network.afterAttempts keys request wanted sender limit number)
      (network.afterAttempts keys request wanted sender limit (number + 1))
  idle : ¬Waits wanted limit → last = network
  repeats : ∃ made, Makes (ask keys request wanted sender limit) network count made ∧
    last = network.afterAttempts keys request wanted sender limit made ∧
    Repeats request (network.timesSent keys request wanted sender limit made) network last

theorem ne_noResponse_ask (told : Number.Double) :
    (ask keys request wanted sender limit network).1 ≠ .error (.request (.noResponse told)) := by
  intro same
  have heeded := heeded_ask keys request wanted sender limit network
  rw [same] at heeded
  cases heeded

theorem settles_persist (count : Nat) :
    network.Settles keys request wanted sender limit count
      (persist (ask keys request wanted sender limit) limit count network).1
      (persist (ask keys request wanted sender limit) limit count network).2 := by
  have persists := persists (ask keys request wanted sender limit) network limit count
  obtain ⟨made, makes, last⟩ := persists.makes
  refine ⟨persists, ?_, network.sends_attempt keys request wanted sender limit, ?_, ?_⟩
  · exact persists.noResponse_iff _ _ limit count _
      fun state => state.ne_noResponse_ask keys request wanted sender limit
  · intro idle
    exact last.trans (network.afterAttempts_idle keys request wanted sender limit idle made)
  · refine ⟨made, makes, last, ?_⟩
    rw [last]
    exact network.repeats_attempts keys request wanted sender limit made

end Network

namespace Acting

/-- A request that cannot be signed is never sent. Any other is asked at least once, and it settles
with the first attempt that is not silent. -/
theorem exchange_settles (message : Message) (wanted : Correlation) (keys : Keys)
    (limit : Option Number.Double) (attempts : Int) (client : Client) :
    (attemptCount attempts : Int) = (if attempts ≤ 0 then 1 else attempts) ∧
    ((∃ why supply,
      (keys.wrapMessage client.daemonKey message none).run.run client.network.supply =
        (.error why, supply) ∧
      (exchange message wanted keys limit attempts).run.run client =
        (.error (.value why), { client with network := { client.network with supply } })) ∨
    ∃ request supply outcome last,
      (keys.wrapMessage client.daemonKey message none).run.run client.network.supply =
        (.ok request, supply) ∧
      (exchange message wanted keys limit attempts).run.run client =
        (outcome, { client with network := last }) ∧
      Network.Settles { client.network with supply } keys request wanted (some client.daemonKey)
        (limit.getD client.limit) (attemptCount attempts) outcome last) := by
  have count : (attemptCount attempts : Int) = if attempts ≤ 0 then 1 else attempts := by
    unfold attemptCount
    omega
  refine ⟨count, ?_⟩
  rcases signed : (keys.wrapMessage client.daemonKey message none).run.run
    client.network.supply with ⟨why | request, supply⟩
  · exact .inl ⟨why, supply, rfl,
      run_exchange_unsigned message wanted keys limit attempts client supply why signed⟩
  · exact .inr ⟨request, supply, _, _, rfl,
      run_exchange_signed message wanted keys limit attempts client supply request signed,
      Network.settles_persist _ _ _ _ _ _ _⟩

end Acting

namespace Network

variable (url : String) (supply : Supply) (keys : Keys) (request : Event) (wanted : Correlation)
variable (sender : Option String) (limit : Number.Double)

theorem silent_attempts (waits : Waits wanted limit) (seconds : Rat)
    (finish : limit.seconds.finish? = some seconds) (number : Nat) : ∃ kept,
      (alone url [] [] supply 0).afterAttempts keys request wanted sender limit number =
        alone url [] kept supply (number * seconds) := by
  induction number with
  | zero => exact ⟨[], by simp [afterAttempts, stateAfter]⟩
  | succ number ih =>
      obtain ⟨kept, ih⟩ := ih
      obtain ⟨more, asked⟩ := ask_silent url kept supply (number * seconds) keys request wanted
        sender limit waits.1 waits.2 seconds finish
      refine ⟨more, ?_⟩
      rw [afterAttempts_succ, ih, asked, Nat.cast_add_one, add_one_mul]

theorem outcome_silent (waits : Waits wanted limit) (seconds : Rat)
    (finish : limit.seconds.finish? = some seconds) (number : Nat) :
    outcomeAfter (ask keys request wanted sender limit) (alone url [] [] supply 0) number =
      .error (.wait (.timeout limit)) := by
  obtain ⟨kept, same⟩ :=
    silent_attempts url supply keys request wanted sender limit waits seconds finish number
  obtain ⟨_, asked⟩ := ask_silent url kept supply (number * seconds) keys request wanted
    sender limit waits.1 waits.2 seconds finish
  rw [outcomeAfter, ← afterAttempts, same, asked]

theorem timesSent_silent (waits : Waits wanted limit) (seconds : Rat)
    (finish : limit.seconds.finish? = some seconds) (made : Nat) :
    (alone url [] [] supply 0).timesSent keys request wanted sender limit made 0 = made := by
  refine (List.countP_eq_length.mpr ?_).trans List.length_range
  intro number _
  obtain ⟨kept, same⟩ :=
    silent_attempts url supply keys request wanted sender limit waits seconds finish number
  have start := (sends_attempt (alone url [] [] supply 0) keys request wanted sender limit waits
    number).start
  have reached : isBefore 0
      ((alone url [] [] supply 0).finishAfter keys request wanted sender limit number) := by
    cases ended :
      (alone url [] [] supply 0).finishAfter keys request wanted sender limit number with
    | none => rfl
    | some last => exact decide_eq_true (start last ended)
  rw [same, Bool.and_eq_true]
  exact ⟨decide_eq_true waits, reached⟩

theorem settled_silent (waits : Waits wanted limit) (seconds : Rat)
    (finish : limit.seconds.finish? = some seconds) (count : Nat) (outcome : Await.Outcome)
    (last : Network) (settles : (alone url [] [] supply 0).Settles keys request wanted sender limit
      count outcome last) :
    outcome = .error (.request (.noResponse limit)) ∧
      last.relays.map (·.sent) = [List.replicate count request.toFields] ∧
      last.elapsed = count * seconds := by
  have silence (number : Nat) : IsSilence (outcomeAfter (ask keys request wanted sender limit)
      (alone url [] [] supply 0) number) :=
    ⟨_, outcome_silent url supply keys request wanted sender limit waits seconds finish number⟩
  obtain ⟨told, _⟩ := Prod.mk.inj (settles.persists.silent fun number _ => silence number)
  obtain ⟨made, makes, same, repeats⟩ := settles.repeats
  have all : made = count := by
    rcases makes.last with all | ⟨number, -, answered⟩
    · exact all
    · exact absurd (silence number) answered
  obtain ⟨kept, left⟩ :=
    silent_attempts url supply keys request wanted sender limit waits seconds finish made
  have sent := repeats 0
  rw [timesSent_silent url supply keys request wanted sender limit waits seconds finish made,
    same, left, all] at sent
  rw [same, left, all]
  exact ⟨told, congrArg ([·]) (Option.some.inj sent), rfl⟩

end Network

namespace Acting

def unheard : Client where
  keys := .keysOne
  daemonKey := Keys.keysTwo.publicKey
  limit := .finite false 15 0
  network := Network.alone "wss://a.test" [] [] Keys.cancelSupply 0

theorem exchange_settles_unheard : ∃ request supply last,
    (Keys.keysOne.wrapMessage unheard.daemonKey Keys.cancelRequest none).run.run Keys.cancelSupply =
      (.ok request, supply) ∧
    (exchange Keys.cancelRequest { orderId := some "3f", requestId := some 7 } .keysOne none
      2).run.run unheard =
        (.error (.request (.noResponse unheard.limit)), { unheard with network := last }) ∧
    last.relays.map (·.sent) = [[request.toFields, request.toFields]] ∧ last.elapsed = 30 := by
  have waits : Network.Waits { orderId := some "3f", requestId := some 7 } unheard.limit :=
    ⟨.inl rfl, by decide +kernel⟩
  have finish : unheard.limit.seconds.finish? = some 15 := by decide +kernel
  obtain ⟨wrapped, after, built⟩ := Keys.exists_wrapped Keys.cancelRequest none
    (Number.fits_of_lt _ (by decide)) Keys.writable_cancelRequest (by decide +kernel)
  obtain ⟨_, ⟨why, supply, failed, _⟩ | ⟨request, supply, outcome, last, signed, ran, settles⟩⟩ :=
    exchange_settles Keys.cancelRequest { orderId := some "3f", requestId := some 7 } .keysOne none
      2 unheard
  · cases built.symm.trans failed
  have quiet : (Network.alone "wss://a.test" [] [] supply 0).Settles .keysOne request
      { orderId := some "3f", requestId := some 7 } (some unheard.daemonKey) unheard.limit 2
        outcome last := settles
  obtain ⟨rfl, sent, elapsed⟩ := Network.settled_silent _ supply _ request _ _ _ waits 15 finish 2
    outcome last quiet
  refine ⟨request, supply, last, signed, ran, sent, elapsed.trans ?_⟩
  norm_num

end Acting

end TradeWire
