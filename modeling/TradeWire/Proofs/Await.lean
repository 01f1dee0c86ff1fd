import Mathlib.Data.List.TakeWhile
import TradeWire.Await
import TradeWire.Proofs.Address
import TradeWire.Proofs.Inbox
import TradeWire.Proofs.Limit
/-! Waiting ends with the first tiding that decides, and what decides nothing can be left out. -/

namespace TradeWire

namespace Await

def takenIds (tidings : List Tiding) : List String :=
  tidings.filterMap fun
    | .event event => some event.id
    | _ => none

def endings (tidings : List Tiding) : ByUrl (Option LinkFault) :=
  tidings.filterMap fun
    | .ended url fault => some (url, fault)
    | _ => none

/-- What a tiding decides behind others. If that is `unpaired`, it is open how the waiting goes
on. -/
inductive Decides (await : Await) (before : List Tiding) : Tiding → Outcome → Prop where
  | notPublished (outage : Outage) :
      Decides await before (.published (some outage)) (.error (.wait (.notPublished outage)))
  | unpaired : Decides await before .unpaired (.error (.value .unpaired))
  | allEnded (url : String) (fault : Option LinkFault)
      (all : ((endings before ++ [(url, fault)]).map (·.1)).toFinset.card = await.listeners) :
      Decides await before (.ended url fault)
        (.error (.wait (.allEnded (lost (ByUrl.ofList (endings before ++ [(url, fault)]))))))
  | fault (event : Event) (fault : Fault) (fresh : event.id ∉ takenIds before)
      (failed : await.keys.readDirect event await.room = .error fault)
      (proper : ∀ id why, fault ≠ .parse id why) :
      Decides await before (.event event) (.error fault)
  | reply (event : Event) (direct : DirectMessage) (fresh : event.id ∉ takenIds before)
      (read : await.keys.readDirect event await.room = .ok direct) (known : await.isFrom direct)
      (accepted : await.wanted.accepts direct.message) :
      Decides await before (.event event) (.ok direct)

structure Heard.Follows (heard : Heard) (before : List Tiding) : Prop where
  seen : ∀ id, id ∈ heard.seen ↔ id ∈ takenIds before
  ended : heard.ended = ByUrl.ofList (endings before)

theorem follows_nil : Heard.Follows {} [] := by
  constructor
  · simp [takenIds]
  · rfl

theorem judge_ok (await : Await) (event : Event) (direct : DirectMessage) :
    await.judge event = some (.ok direct) ↔
      await.keys.readDirect event await.room = .ok direct ∧ await.isFrom direct ∧
        await.wanted.accepts direct.message := by
  unfold judge Keys.readDirect? accepts
  cases read : await.keys.readDirect event await.room with
  | ok message =>
      simp only [Option.ite_none_right_eq_some, Bool.and_eq_true, Option.some.injEq,
        Except.ok.injEq]
      constructor
      · intro decided
        exact ⟨decided.2, decided.2 ▸ decided.1⟩
      · intro decided
        exact ⟨decided.1 ▸ decided.2, decided.1⟩
  | error fault => cases fault <;> simp

theorem judge_error (await : Await) (event : Event) (fault : Fault) :
    await.judge event = some (.error fault) ↔
      await.keys.readDirect event await.room = .error fault ∧ ∀ id why, fault ≠ .parse id why := by
  unfold judge Keys.readDirect?
  cases read : await.keys.readDirect event await.room with
  | ok message => simp
  | error other =>
      cases other with
      | parse id why =>
          simp only [reduceCtorEq, Except.error.injEq, false_iff]
          intro impossible
          exact impossible.2 id why impossible.1.symm
      | value _ | decode _ | link _ | outage _ | wait _ | request _ | endless =>
          simp only [Option.some.injEq, Except.error.injEq]
          constructor
          · intro same
            subst same
            simp
          · intro same
            exact same.1

theorem Heard.Follows.put {heard : Heard} {before : List Tiding} (follows : heard.Follows before)
    (url : String) (fault : Option LinkFault) :
    heard.ended.put url fault = ByUrl.ofList (endings before ++ [(url, fault)]) := by
  rw [follows.ended, ByUrl.ofList_append]

theorem hear_event (await : Await) (heard : Heard) (before : List Tiding)
    (follows : heard.Follows before) (event : Event) (outcome : Outcome) :
    (await.hear heard (.event event)).1 = some outcome ↔
      event.id ∉ takenIds before ∧ await.judge event = some outcome := by
  rw [hear, ← follows.seen]
  split
  · rename_i seen
    simp [seen]
  · rename_i unseen
    simp [unseen]

theorem hear_decides (await : Await) (heard : Heard) (before : List Tiding)
    (follows : heard.Follows before) (tiding : Tiding) (outcome : Outcome) :
    (await.hear heard tiding).1 = some outcome ↔ await.Decides before tiding outcome := by
  cases tiding with
  | published outage =>
      constructor
      · intro decided
        rcases Option.map_eq_some_iff.mp decided with ⟨why, present, same⟩
        subst present same
        exact .notPublished why
      · intro decides
        cases decides
        rfl
  | unpaired =>
      constructor
      · intro decided
        cases decided
        exact .unpaired
      · intro decides
        cases decides
        rfl
  | ended url fault =>
      have count := ByUrl.length_ofList (endings before ++ [(url, fault)])
      simp only [hear, follows.put, count]
      constructor
      · intro decided
        split at decided
        · rename_i all
          cases decided
          exact .allEnded url fault all
        · cases decided
      · intro decides
        cases decides with
        | allEnded _ _ all => rw [if_pos all]
  | event event =>
      rw [hear_event await heard before follows]
      constructor
      · intro decided
        obtain ⟨fresh, judged⟩ := decided
        cases outcome with
        | ok direct =>
            obtain ⟨read, known, accepted⟩ := (judge_ok await event direct).mp judged
            exact .reply event direct fresh read known accepted
        | error fault =>
            obtain ⟨failed, proper⟩ := (judge_error await event fault).mp judged
            exact .fault event fault fresh failed proper
      · intro decides
        cases decides with
        | fault _ fault fresh failed proper =>
            exact ⟨fresh, (judge_error await event fault).mpr ⟨failed, proper⟩⟩
        | reply _ direct fresh read known accepted =>
            exact ⟨fresh, (judge_ok await event direct).mpr ⟨read, known, accepted⟩⟩

theorem hear_follows (await : Await) (heard : Heard) (before : List Tiding)
    (follows : heard.Follows before) (tiding : Tiding) :
    (await.hear heard tiding).2.Follows (before ++ [tiding]) := by
  cases tiding with
  | published outage =>
      constructor
      · simpa [hear, takenIds] using follows.seen
      · simpa [hear, endings] using follows.ended
  | unpaired =>
      constructor
      · simpa [hear, takenIds] using follows.seen
      · simpa [hear, endings] using follows.ended
  | ended url fault =>
      constructor
      · simpa [hear, takenIds] using follows.seen
      · simpa [hear, endings] using follows.put url fault
  | event event =>
      have ids : takenIds (before ++ [.event event]) = takenIds before ++ [event.id] := by
        simp [takenIds]
      have same : endings (before ++ [.event event]) = endings before := by simp [endings]
      by_cases known : event.id ∈ heard.seen
      · constructor
        · intro id
          have taken := (follows.seen event.id).mp known
          rw [ids, List.mem_append, List.mem_singleton, hear, if_pos known, follows.seen id]
          constructor
          · exact Or.inl
          · intro either
            rcases either with old | new
            · exact old
            · exact new ▸ taken
        · rw [same, hear, if_pos known]
          exact follows.ended
      · constructor
        · intro id
          rw [ids, List.mem_append, List.mem_singleton, hear, if_neg known, List.mem_cons,
            follows.seen id, or_comm]
        · rw [same, hear, if_neg known]
          exact follows.ended

def Quiet (await : Await) (before front : List Tiding) : Prop :=
  ∀ early tiding late, front = early ++ tiding :: late →
    ∀ outcome, ¬await.Decides (before ++ early) tiding outcome

theorem quiet_nil (await : Await) (before : List Tiding) : await.Quiet before [] := by
  intro early tiding late same
  simp at same

theorem quiet_cons (await : Await) (before : List Tiding) (tiding : Tiding)
    (front : List Tiding) :
    await.Quiet before (tiding :: front) ↔
      (∀ outcome, ¬await.Decides before tiding outcome) ∧
        await.Quiet (before ++ [tiding]) front := by
  constructor
  · intro quiet
    constructor
    · intro outcome decides
      exact quiet [] tiding front rfl outcome (by simpa using decides)
    · intro early item late same outcome decides
      exact quiet (tiding :: early) item late (by rw [same]; rfl) outcome (by simpa using decides)
  · intro both early item late same outcome decides
    cases early with
    | nil =>
        cases same
        exact both.1 outcome (by simpa using decides)
    | cons first early =>
        cases same
        exact both.2 early item late rfl outcome (by simpa using decides)

def DecidesFirst (await : Await) (before : List Tiding) (tidings : List (Timed Tiding))
    (decision : Timed Outcome) : Prop :=
  ∃ front tiding back, tidings = front ++ tiding :: back ∧
    await.Quiet before (front.map (·.item)) ∧
    await.Decides (before ++ front.map (·.item)) tiding.item decision.item ∧
    decision.time = tiding.time

theorem not_decidesFirst_nil (await : Await) (before : List Tiding) (decision : Timed Outcome) :
    ¬await.DecidesFirst before [] decision := by
  intro first
  obtain ⟨front, tiding, back, same, _⟩ := first
  simp at same

theorem decidesFirst_cons (await : Await) (before : List Tiding) (head : Timed Tiding)
    (tidings : List (Timed Tiding)) (decision : Timed Outcome) :
    await.DecidesFirst before (head :: tidings) decision ↔
      await.Decides before head.item decision.item ∧ decision.time = head.time ∨
      (∀ outcome, ¬await.Decides before head.item outcome) ∧
        await.DecidesFirst (before ++ [head.item]) tidings decision := by
  constructor
  · intro first
    obtain ⟨front, tiding, back, same, quiet, decides, time⟩ := first
    cases front with
    | nil =>
        cases same
        exact .inl ⟨by simpa using decides, time⟩
    | cons earliest front =>
        cases same
        have both := (quiet_cons _ _ _ _).mp quiet
        exact .inr ⟨both.1, front, tiding, back, rfl, both.2, by simpa using decides, time⟩
  · intro either
    cases either with
    | inl now =>
        exact ⟨[], head, tidings, rfl, quiet_nil _ _, by simpa using now.1, now.2⟩
    | inr later =>
        obtain ⟨silent, front, tiding, back, rfl, quiet, decides, time⟩ := later
        refine ⟨head :: front, tiding, back, rfl, ?_, by simpa using decides, time⟩
        exact (quiet_cons _ _ _ _).mpr ⟨silent, quiet⟩

theorem decided?_eq_some (await : Await) (heard : Heard) (before : List Tiding)
    (follows : heard.Follows before) (tidings : List (Timed Tiding)) (decision : Timed Outcome) :
    await.decided? heard tidings = some decision ↔ await.DecidesFirst before tidings decision := by
  induction tidings generalizing heard before with
  | nil => exact iff_of_false nofun (not_decidesFirst_nil await before decision)
  | cons head tidings ih =>
      have step := hear_decides await heard before follows head.item
      have next := hear_follows await heard before follows head.item
      rw [decided?, decidesFirst_cons]
      rcases heardNow : await.hear heard head.item with ⟨_ | outcome, after⟩
      · rw [heardNow] at step next
        have silent : ∀ outcome, ¬await.Decides before head.item outcome := by
          intro outcome decides
          have impossible := (step outcome).mpr decides
          cases impossible
        simp only [ih after (before ++ [head.item]) next, silent, false_and, false_or,
          not_false_eq_true, implies_true, true_and]
      · rw [heardNow] at step
        have decides := (step outcome).mp rfl
        constructor
        · intro found
          cases found
          exact .inl ⟨decides, rfl⟩
        · intro either
          cases either with
          | inl now =>
              cases (step decision.item).mpr now.1
              rw [← now.2]
          | inr later => exact absurd decides (later.1 outcome)

/-- The first tiding before the limit that decides, with what it decides. -/
def FirstDecision (await : Await) (limit : Number.Double) (tidings : List (Timed Tiding))
    (decision : Timed Outcome) : Prop :=
  ∃ before tiding after, tidings = before ++ tiding :: after ∧
    (∀ earlier ∈ before ++ [tiding], limit.seconds.reaches earlier.time) ∧
    await.Quiet [] (before.map (·.item)) ∧
    await.Decides (before.map (·.item)) tiding.item decision.item ∧ decision.time = tiding.time

def inTime (limit : Number.Double) (tidings : List (Timed Tiding)) : List (Timed Tiding) :=
  tidings.takeWhile fun tiding => limit.seconds.reaches tiding.time

theorem reaches_of_mem_inTime (limit : Number.Double) (tidings : List (Timed Tiding))
    (tiding : Timed Tiding) (member : tiding ∈ inTime limit tidings) :
    limit.seconds.reaches tiding.time := by
  let waits (tiding : Timed Tiding) : Bool := limit.seconds.reaches tiding.time
  have held : waits tiding := List.mem_takeWhile_imp member
  exact held

theorem inTime_append (limit : Number.Double) (before after : List (Timed Tiding))
    (early : ∀ tiding ∈ before, limit.seconds.reaches tiding.time) :
    inTime limit (before ++ after) = before ++ inTime limit after := by
  rw [inTime, List.takeWhile_append_of_pos early]
  rfl

theorem decided?_inTime (await : Await) (limit : Number.Double) (tidings : List (Timed Tiding))
    (decision : Timed Outcome) :
    await.decided? {} (inTime limit tidings) = some decision ↔
      await.FirstDecision limit tidings decision := by
  rw [decided?_eq_some await {} [] follows_nil]
  constructor
  · intro found
    rcases found with ⟨front, tiding, back, same, quiet, decides, time⟩
    obtain ⟨late, whole⟩ : ∃ late, tidings = inTime limit tidings ++ late :=
      ⟨_, (List.takeWhile_append_dropWhile).symm⟩
    refine ⟨front, tiding, back ++ late, ?_, ?_, quiet, decides, time⟩
    · calc
        tidings = inTime limit tidings ++ late := whole
        _ = front ++ tiding :: (back ++ late) := by rw [same, List.append_assoc]; rfl
    · intro earlier member
      apply reaches_of_mem_inTime limit tidings
      rw [same]
      rcases List.mem_append.mp member with old | last
      · exact List.mem_append_left _ old
      · rw [List.mem_singleton.mp last]
        simp
  · intro found
    rcases found with ⟨before, tiding, after, same, early, quiet, decides, time⟩
    have kept : inTime limit tidings = before ++ tiding :: inTime limit after := by
      have split : tidings = (before ++ [tiding]) ++ after := by simp [same]
      rw [split, inTime_append limit _ _ early]
      simp
    exact ⟨before, tiding, _, kept, quiet, decides, time⟩

def hearAll (await : Await) (heard : Heard) (tidings : List (Timed Tiding)) : Heard :=
  tidings.foldl (fun heard tiding => (await.hear heard tiding.item).2) heard

theorem hearAll_follows (await : Await) (heard : Heard) (before : List Tiding)
    (follows : heard.Follows before) (tidings : List (Timed Tiding)) :
    (await.hearAll heard tidings).Follows (before ++ tidings.map (·.item)) := by
  induction tidings generalizing heard before with
  | nil => simpa [hearAll] using follows
  | cons head tidings ih =>
      have next := ih _ _ (hear_follows await heard before follows head.item)
      simpa [hearAll] using next

theorem decided?_append (await : Await) (heard : Heard) (before later : List (Timed Tiding)) :
    await.decided? heard (before ++ later) =
      (await.decided? heard before).or (await.decided? (await.hearAll heard before) later) := by
  induction before generalizing heard with
  | nil => rfl
  | cons head before ih =>
      rw [List.cons_append, decided?, decided?, hearAll, List.foldl_cons]
      rcases await.hear heard head.item with ⟨_ | outcome, after⟩
      · exact ih after
      · rfl

/-- Ids that do not come again do not count. -/
theorem decided?_congr (await : Await) (heard other : Heard) (tidings : List (Timed Tiding))
    (ended : heard.ended = other.ended)
    (seen : ∀ id ∈ takenIds (tidings.map (·.item)), id ∈ heard.seen ↔ id ∈ other.seen) :
    await.decided? heard tidings = await.decided? other tidings := by
  induction tidings generalizing heard other with
  | nil => rfl
  | cons head tidings ih =>
      rcases head with ⟨time, item⟩
      cases item with
      | published outage =>
          have later := ih heard other ended (by simpa [takenIds] using seen)
          cases outage with
          | none => simpa [decided?, hear] using later
          | some why => rfl
      | unpaired => rfl
      | ended url fault =>
          have later := ih { heard with ended := heard.ended.put url fault }
            { other with ended := other.ended.put url fault } (by rw [ended])
            (by simpa [takenIds] using seen)
          by_cases all : (other.ended.put url fault).length = await.listeners
          · simp only [decided?, hear, ended, if_pos all]
          · simp only [decided?, hear, ended, if_neg all] at later ⊢
            exact later
      | event event =>
          have both : (event.id ∈ heard.seen ↔ event.id ∈ other.seen) ∧
              ∀ id ∈ takenIds (tidings.map (·.item)), id ∈ heard.seen ↔ id ∈ other.seen := by
            simpa [takenIds] using seen
          by_cases known : event.id ∈ other.seen
          · have later := ih heard other ended both.2
            simpa [decided?, hear, known, both.1.mpr known] using later
          · have later := ih { heard with seen := event.id :: heard.seen }
              { other with seen := event.id :: other.seen } ended (by
                intro id member
                rw [List.mem_cons, List.mem_cons, both.2 id member])
            simp only [decided?, hear, if_neg known, if_neg (mt both.1.mp known)]
            cases await.judge event with
            | none => exact later
            | some outcome => rfl

/-- An event that is no message for the key, or one from another author or not the reply. -/
def Ignored (await : Await) (event : Event) : Prop :=
  (∃ id why, await.keys.readDirect event await.room = .error (.parse id why)) ∨
    ∃ direct, await.keys.readDirect event await.room = .ok direct ∧
      ¬(await.isFrom direct ∧ await.wanted.accepts direct.message)

theorem judge_ignored (await : Await) (event : Event) (ignored : await.Ignored event) :
    await.judge event = none := by
  cases judged : await.judge event with
  | none => rfl
  | some outcome =>
      cases outcome with
      | ok direct =>
          rcases (judge_ok await event direct).mp judged with ⟨read, known, accepted⟩
          rcases ignored with ⟨id, why, failed⟩ | ⟨other, readOther, rejected⟩
          · rw [read] at failed
            cases failed
          · rw [read] at readOther
            cases readOther
            exact absurd ⟨known, accepted⟩ rejected
      | error fault =>
          rcases (judge_error await event fault).mp judged with ⟨failed, proper⟩
          rcases ignored with ⟨id, why, parse⟩ | ⟨other, readOther, _⟩
          · rw [failed] at parse
            cases parse
            exact absurd rfl (proper id why)
          · rw [failed] at readOther
            cases readOther

/-- An event that was taken before, or one that is ignored and does not come again. -/
def Noise (await : Await) (before later : List Tiding) (event : Event) : Prop :=
  event.id ∈ takenIds before ∨ await.Ignored event ∧ event.id ∉ takenIds later

theorem decided?_noise (await : Await) (heard : Heard) (before : List Tiding)
    (follows : heard.Follows before) (time : Rat) (event : Event) (later : List (Timed Tiding))
    (noise : await.Noise before (later.map (·.item)) event) :
    await.decided? heard (⟨time, .event event⟩ :: later) = await.decided? heard later := by
  rw [decided?, hear]
  by_cases known : event.id ∈ heard.seen
  · rw [if_pos known]
  · rw [if_neg known]
    rcases noise with taken | ⟨ignored, fresh⟩
    · exact absurd ((follows.seen event.id).mpr taken) known
    · rw [judge_ignored await event ignored]
      apply decided?_congr
      · rfl
      · intro id member
        have other : id ≠ event.id := by
          intro same
          exact fresh (same ▸ member)
        simp [other]

theorem inTime_late (limit : Number.Double) (before after : List (Timed Tiding))
    (late : ¬∀ tiding ∈ before, limit.seconds.reaches tiding.time) :
    inTime limit (before ++ after) = inTime limit before := by
  rw [inTime, List.takeWhile_append, if_neg]
  · rfl
  · intro whole
    apply late
    intro tiding member
    have all := (List.takeWhile_prefix _).eq_of_length whole
    rw [← all] at member
    exact reaches_of_mem_inTime limit before tiding member

theorem inTime_noise (await : Await) (limit : Number.Double) (before : List (Timed Tiding))
    (time : Rat) (event : Event) (after : List (Timed Tiding))
    (sorted : (before ++ ⟨time, .event event⟩ :: after).Pairwise fun a b => a.time ≤ b.time)
    (noise : await.Noise (before.map (·.item)) (after.map (·.item)) event) :
    await.decided? {} (inTime limit (before ++ ⟨time, .event event⟩ :: after)) =
      await.decided? {} (inTime limit (before ++ after)) := by
  by_cases early : ∀ tiding ∈ before, limit.seconds.reaches tiding.time
  · rw [inTime_append limit _ _ early, inTime_append limit _ _ early]
    by_cases soon : limit.seconds.reaches time
    · have kept : inTime limit (⟨time, .event event⟩ :: after) =
          ⟨time, .event event⟩ :: inTime limit after :=
        List.takeWhile_cons_of_pos soon
      have follows := hearAll_follows await {} [] follows_nil before
      rw [kept, decided?_append, decided?_append, decided?_noise await _ _ follows]
      rcases noise with taken | ⟨ignored, fresh⟩
      · exact Or.inl taken
      · right
        refine ⟨ignored, ?_⟩
        intro again
        have shorter : (takenIds ((inTime limit after).map (·.item))).Sublist
            (takenIds (after.map (·.item))) :=
          ((List.takeWhile_sublist _).map _).filterMap _
        exact fresh (shorter.subset again)
    · -- Behind a late tiding all are late, so that with it nothing is lost.
      have none : inTime limit (⟨time, .event event⟩ :: after) = [] :=
        List.takeWhile_cons_of_neg soon
      have alsoNone : inTime limit after = [] := by
        cases after with
        | nil => rfl
        | cons next after =>
            have order := (List.pairwise_append.mp sorted).2.1
            have later : time ≤ next.time := List.rel_of_pairwise_cons order List.mem_cons_self
            exact List.takeWhile_cons_of_neg (mt (limit.seconds.reaches_of_le later) soon)
      rw [none, alsoNone]
  · rw [inTime_late limit _ _ early, inTime_late limit _ _ early]

theorem isFrom_sender (await : Await) (direct : DirectMessage) (known : await.isFrom direct)
    (sender : String) (given : await.sender = some sender) : direct.sender = sender := by
  rw [isFrom, given] at known
  simpa using known

end Await

namespace Correlation

theorem not_differs {α : Type} [DecidableEq α] (known found : Option α)
    (same : differs known found = false) (id : α) (given : known = some id) :
    found = none ∨ found = some id := by
  subst given
  cases found with
  | none => exact Or.inl rfl
  | some other =>
      have equal : id = other := by simpa [differs] using same
      exact Or.inr (congrArg some equal.symm)

theorem agrees_iff {α : Type} [DecidableEq α] (known found : Option α) :
    agrees known found ↔ ∃ id, known = some id ∧ found = some id := by
  cases known with
  | none => simp [agrees]
  | some id => simp [agrees, eq_comm]

theorem accepts_iff (known : Correlation) (message : Message) :
    known.accepts message ↔
      differs known.orderId message.id = false ∧
        differs known.requestId message.requestId = false ∧
          (agrees known.orderId message.id ∨ agrees known.requestId message.requestId) := by
  simp [accepts, and_assoc]

end Correlation

namespace Await

theorem run_eq (await : Await) (limit : Number.Double) (tidings : List (Timed Tiding)) :
    await.run limit tidings = (await.decided? {} (inTime limit tidings)).or
      (limit.seconds.finish?.map fun time => ⟨time, .error (.wait (.timeout limit))⟩) := rfl

theorem run_of_firstDecision (await : Await) (limit : Number.Double) (tidings : List (Timed Tiding))
    (decision : Timed Outcome) (first : await.FirstDecision limit tidings decision) :
    await.run limit tidings = some decision := by
  rw [run_eq, (decided?_inTime await limit tidings decision).mpr first]
  rfl

theorem run_of_undecided (await : Await) (limit : Number.Double) (tidings : List (Timed Tiding))
    (undecided : ∀ decision, ¬await.FirstDecision limit tidings decision) :
    await.run limit tidings =
      limit.seconds.finish?.map fun time => ⟨time, .error (.wait (.timeout limit))⟩ := by
  cases found : await.decided? {} (inTime limit tidings) with
  | none =>
      rw [run_eq, found]
      rfl
  | some decision =>
      exact absurd ((decided?_inTime await limit tidings decision).mp found) (undecided decision)

theorem firstDecision_of_reply (await : Await) (limit : Number.Double)
    (tidings : List (Timed Tiding)) (time : Rat) (direct : DirectMessage)
    (ended : await.run limit tidings = some ⟨time, .ok direct⟩) :
    await.FirstDecision limit tidings ⟨time, .ok direct⟩ := by
  rw [run_eq] at ended
  cases found : await.decided? {} (inTime limit tidings) with
  | none =>
      rw [found, Option.none_or, Option.map_eq_some_iff] at ended
      obtain ⟨_, _, impossible⟩ := ended
      cases impossible
  | some decision =>
      rw [found] at ended
      cases ended
      exact (decided?_inTime await limit tidings _).mp found

/-- The waiting ends at the first tiding in time that decides, with what it decides, and else with
the limit, or never if that is endless. So a reply is by the right author and has no other id, and
noise can be left out. -/
theorem run_first_decision (await : Await) (limit : Number.Double)
    (tidings : List (Timed Tiding)) :
    (∀ decision, await.FirstDecision limit tidings decision →
      await.run limit tidings = some decision) ∧
    ((∀ decision, ¬await.FirstDecision limit tidings decision) →
      await.run limit tidings =
        limit.seconds.finish?.map fun time => ⟨time, .error (.wait (.timeout limit))⟩) ∧
    (∀ time direct, await.run limit tidings = some ⟨time, .ok direct⟩ →
      (∀ sender, await.sender = some sender → direct.sender = sender) ∧
      (∀ id, await.wanted.orderId = some id →
        direct.message.id = none ∨ direct.message.id = some id) ∧
      (∀ id, await.wanted.requestId = some id →
        direct.message.requestId = none ∨ direct.message.requestId = some id) ∧
      ((∃ id, await.wanted.orderId = some id ∧ direct.message.id = some id) ∨
        ∃ id, await.wanted.requestId = some id ∧ direct.message.requestId = some id)) ∧
    (∀ before time event after, tidings = before ++ ⟨time, .event event⟩ :: after →
      tidings.Pairwise (fun a b => a.time ≤ b.time) →
      await.Noise (before.map (·.item)) (after.map (·.item)) event →
      await.run limit tidings = await.run limit (before ++ after)) := by
  refine ⟨run_of_firstDecision await limit tidings, run_of_undecided await limit tidings, ?_, ?_⟩
  · intro time direct ended
    obtain ⟨_, tiding, _, _, _, _, decides, _⟩ :=
      firstDecision_of_reply await limit tidings time direct ended
    generalize tiding.item = item at decides
    cases decides with
    | reply event _ fresh read known accepted =>
        rcases (Correlation.accepts_iff _ _).mp accepted with ⟨order, request, agreed⟩
        rw [Correlation.agrees_iff, Correlation.agrees_iff] at agreed
        exact ⟨isFrom_sender await direct known, Correlation.not_differs _ _ order,
          Correlation.not_differs _ _ request, agreed⟩
  · intro before time event after same sorted noise
    subst same
    rw [run_eq, run_eq, inTime_noise await limit before time event after sorted noise]

def awaitedReply : Message where
  action := "waiting-seller-to-pay"
  id := some "3f"
  requestId := some 7

def asker : Await where
  keys := .keysOne
  wanted := { orderId := some "3f", requestId := some 7 }
  sender := some Keys.keysTwo.publicKey
  listeners := 1

def strayNote : Event where
  id := "stray"
  pubkey := Keys.keysTwo.publicKey
  createdAt := 0
  kind := 1
  tags := []
  content := ""

theorem exists_awaitedReply : ∃ content, ∀ id time,
    Keys.keysOne.readDirect (Keys.keysOne.noteTo Keys.keysTwo.publicKey content id time) =
      .ok ⟨id, Keys.keysTwo.publicKey, time, awaitedReply⟩ := by
  apply Keys.exists_note
  · decide
  · decide +kernel
  · decide +kernel

theorem run_first_decision_reply : ∃ content,
    let reply := Keys.keysOne.noteTo Keys.keysTwo.publicKey content "reply" 5
    let ended : Timed Outcome := ⟨2, .ok ⟨"reply", Keys.keysTwo.publicKey, 5, awaitedReply⟩⟩
    asker.run (.infinite false) [⟨1, .event strayNote⟩, ⟨2, .event reply⟩] = some ended ∧
      asker.run (.infinite false) [⟨2, .event reply⟩] = some ended ∧
      (awaitedReply.id = none ∨ awaitedReply.id = some "3f") := by
  obtain ⟨content, read⟩ := exists_awaitedReply
  let reply := Keys.keysOne.noteTo Keys.keysTwo.publicKey content "reply" 5
  have stray : asker.keys.readDirect strayNote asker.room =
      .error (.parse "stray" (.notDirect 1)) := rfl
  have decides : asker.Decides [.event strayNote] (.event reply)
      (.ok ⟨"reply", Keys.keysTwo.publicKey, 5, awaitedReply⟩) := by
    refine .reply _ _ ?_ (read "reply" 5) (by simp [asker, isFrom]) (by decide)
    simp [takenIds, reply, strayNote, Keys.noteTo, Keys.privateTo]
  have quiet : asker.Quiet [] [.event strayNote] := by
    refine (asker.quiet_cons [] _ []).mpr ⟨?_, asker.quiet_nil _⟩
    intro outcome decides
    cases decides with
    | fault _ fault _ failed proper => exact proper _ _ (Except.error.inj (failed.symm.trans stray))
    | reply _ direct _ found _ _ => cases found.symm.trans stray
  obtain ⟨first, _, replied, clean⟩ := run_first_decision asker (.infinite false)
    [⟨1, .event strayNote⟩, ⟨2, .event reply⟩]
  have ended := first ⟨2, .ok ⟨"reply", Keys.keysTwo.publicKey, 5, awaitedReply⟩⟩
    ⟨[⟨1, .event strayNote⟩], ⟨2, .event reply⟩, [], rfl, fun _ _ => rfl, quiet, decides, rfl⟩
  have same := clean [] 1 strayNote [⟨2, .event reply⟩] rfl (by simp) (.inr
    ⟨.inl ⟨_, _, stray⟩, by simp [takenIds, reply, strayNote, Keys.noteTo, Keys.privateTo]⟩)
  exact ⟨content, ended, same.symm.trans ended, (replied _ _ ended).2.1 "3f" rfl⟩

end Await

end TradeWire
