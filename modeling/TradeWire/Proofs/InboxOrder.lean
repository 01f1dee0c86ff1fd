import Mathlib.Data.List.Induction
import TradeWire.Proofs.Envelope.RoundTrip
import TradeWire.Proofs.Inbox
/-! Which messages an inbox holds, and where they stand. -/

namespace TradeWire

def Event.untimed (event : Event) : Event :=
  if event.kind = giftWrapKind then { event with createdAt := 0 } else event

theorem distinctEvents_map (change : Event → Event) (keeps : ∀ event, (change event).id = event.id)
    (events : List Event) :
    distinctEvents (events.map change) = (distinctEvents events).map change := by
  induction events using List.reverseRecOn with
  | nil => rfl
  | append_singleton events last ih =>
      have known : (∃ kept ∈ (distinctEvents events).map change, kept.id = last.id) ↔
          ∃ kept ∈ distinctEvents events, kept.id = last.id := by
        simp [keeps]
      rw [List.map_append, List.map_singleton, distinctEvents_append, distinctEvents_append, ih,
        keeps]
      simp only [known]
      split
      · rfl
      · rw [List.map_append, List.map_singleton]

namespace Keys

variable (keys : Keys)

def message? (event : Event) : Option DirectMessage := (keys.readDirect event).toOption

theorem message?_eq_some (event : Event) (direct : DirectMessage) :
    keys.message? event = some direct ↔ keys.readDirect event = .ok direct := by
  rw [message?]
  cases keys.readDirect event <;> simp [Except.toOption]

theorem readDirect?_ok (event : Event) (found : Option DirectMessage)
    (read : keys.readDirect? event = .ok found) : found = keys.message? event := by
  rw [readDirect?] at read
  rw [message?]
  split at read
  · rename_i direct opened
    cases read
    rw [opened]
    rfl
  · rename_i unread
    cases read
    rw [unread]
    rfl
  · cases read

theorem eventId_of_message? (event : Event) (direct : DirectMessage)
    (read : keys.message? event = some direct) : direct.eventId = event.id := by
  obtain ⟨_, _, _, _, same⟩ :=
    (readDirect_ok keys {} event direct).mp ((message?_eq_some keys event direct).mp read)
  rw [same]

def arrived (since : Option Int) (events : List Event) : List DirectMessage :=
  ((distinctEvents events).filterMap keys.message?).filter (reaches since)

def oldestFirst (messages : List DirectMessage) : List DirectMessage :=
  latestFirst (fun direct => -direct.createdAt) messages

/-- Whether an inbox can be read does not depend on the time from which on it is read. -/
theorem inbox_of_read (since : Option Int) (events : List Event) (messages : List DirectMessage)
    (read : keys.inbox since events = .ok messages) (later : Option Int) :
    keys.inbox later events = .ok (oldestFirst (keys.arrived later events)) := by
  have sorted (messages : List DirectMessage) :
      (messages.mergeSort fun a b => decide (a.createdAt ≤ b.createdAt)) =
        oldestFirst messages := by
    simp only [oldestFirst, latestFirst, Int.neg_le_neg_iff]
  rw [inbox, Except.bind_eq_ok] at read
  obtain ⟨found, opened, _⟩ := read
  have same := Except.filterMapM_ok keys.readDirect? keys.message? (readDirect?_ok keys) _ _ opened
  rw [inbox, opened, arrived, ← same, ← sorted]
  rfl

def Earlier (events : List Event) (a b : DirectMessage) : Prop :=
  a.createdAt < b.createdAt ∨ a.createdAt = b.createdAt ∧
    (events.map (·.id)).idxOf a.eventId < (events.map (·.id)).idxOf b.eventId

/-- An inbox holds the messages of the first events of their ids, from a time on and oldest first;
those of one time stand as their events do. -/
structure Holds (since : Option Int) (events : List Event) (messages : List DirectMessage) :
    Prop where
  exact : ∀ direct, direct ∈ messages ↔ (∀ time, since = some time → time ≤ direct.createdAt) ∧
    ∃ event, IsFirst events event ∧ keys.readDirect event = .ok direct
  single : (messages.map (·.eventId)).Nodup
  sorted : messages.Pairwise (Earlier events)

theorem reaches_iff (since : Option Int) (direct : DirectMessage) :
    reaches since direct ↔ ∀ time, since = some time → time ≤ direct.createdAt := by
  cases since <;> simp [reaches]

theorem ids_arrived (since : Option Int) (events : List Event) :
    ((keys.arrived since events).map (·.eventId)).Sublist ((distinctEvents events).map (·.id)) := by
  have read (events : List Event) :
      ((events.filterMap keys.message?).map (·.eventId)).Sublist (events.map (·.id)) := by
    induction events with
    | nil => exact List.Sublist.refl []
    | cons event events ih =>
        cases found : keys.message? event with
        | none =>
            rw [List.filterMap_cons_none found]
            exact ih.cons event.id
        | some direct =>
            rw [List.filterMap_cons_some found, List.map_cons, List.map_cons,
              eventId_of_message? keys event direct found]
            exact ih.cons_cons event.id
  exact ((List.filter_sublist).map _).trans (read _)

theorem holds_oldestFirst (since : Option Int) (events : List Event) :
    keys.Holds since events (oldestFirst (keys.arrived since events)) := by
  have perm : (oldestFirst (keys.arrived since events)).Perm (keys.arrived since events) :=
    List.mergeSort_perm _ _
  have placed := firstOrder_distinctEvents events
  have ids := ids_arrived keys since events
  have ordered := placed.ordered.sublist ids
  rw [List.pairwise_map] at ordered
  refine ⟨?_, ?_, ?_⟩
  · intro direct
    rw [perm.mem_iff, arrived, List.mem_filter, reaches_iff, and_comm, List.mem_filterMap]
    simp only [mem_distinctEvents, message?_eq_some]
  · exact (perm.map _).nodup_iff.mpr (ids.nodup placed.nodup)
  · apply (latestFirst_stable (fun direct => -direct.createdAt) _ _ ordered).imp
    intro a b either
    rw [Earlier]
    omega

theorem arrived_later (since : Option Int) (events : List Event) (later : Int)
    (bound : ∀ time, since = some time → time ≤ later) :
    keys.arrived (some later) events =
      (keys.arrived since events).filter fun direct => !decide (direct.createdAt < later) := by
  rw [arrived, arrived, List.filter_filter]
  apply List.filter_congr
  intro direct _
  rw [Bool.eq_iff_iff, Bool.and_eq_true, reaches_iff, reaches_iff]
  simp only [Option.some.injEq, forall_eq', Bool.not_eq_true', decide_eq_false_iff_not, Int.not_lt]
  constructor
  · intro reached
    exact ⟨reached, fun time known => Int.le_trans (bound time known) reached⟩
  · exact fun both => both.1

theorem oldestFirst_later (since : Option Int) (events : List Event) (later : Int)
    (bound : ∀ time, since = some time → time ≤ later) :
    ∃ early, oldestFirst (keys.arrived since events) =
        early ++ oldestFirst (keys.arrived (some later) events) ∧
      ∀ direct ∈ early, direct.createdAt < later := by
  have whole := holds_oldestFirst keys since events
  have rest := holds_oldestFirst keys (some later) events
  let early := (oldestFirst (keys.arrived since events)).filter
    fun direct => decide (direct.createdAt < later)
  have before : ∀ direct ∈ early, direct.createdAt < later := by
    intro direct member
    exact of_decide_eq_true (List.mem_filter.mp member).2
  have perm : (oldestFirst (keys.arrived since events)).Perm
      (early ++ oldestFirst (keys.arrived (some later) events)) := by
    have sorted (messages : List DirectMessage) : (oldestFirst messages).Perm messages :=
      List.mergeSort_perm _ _
    have parts := List.filter_append_perm (fun direct => decide (direct.createdAt < later))
      (keys.arrived since events)
    rw [← arrived_later keys since events later bound] at parts
    exact (sorted _).trans (parts.symm.trans
      (((sorted _).filter _).symm.append (sorted _).symm))
  refine ⟨early, ?_, before⟩
  apply List.Perm.eq_of_pairwise _ whole.sorted _ perm
  · intro a b _ _ earlier later
    rw [Earlier] at earlier later
    omega
  · refine List.pairwise_append.mpr ⟨whole.sorted.sublist List.filter_sublist, rest.sorted, ?_⟩
    intro a inEarly b inRest
    have reached := ((rest.exact b).mp inRest).1 later rfl
    exact Or.inl (Int.lt_of_lt_of_le (before a inEarly) reached)

theorem readDirect?_untimed (event : Event) :
    keys.readDirect? event.untimed = keys.readDirect? event := by
  rw [Event.untimed]
  split
  · rename_i wrapped
    simp only [readDirect?, readDirect, openLetter, if_pos wrapped]
    rfl
  · rfl

theorem inbox_untimed (since : Option Int) (events : List Event) :
    keys.inbox since (events.map Event.untimed) = keys.inbox since events := by
  have keeps (event : Event) : event.untimed.id = event.id := by
    rw [Event.untimed]
    split <;> rfl
  rw [inbox, inbox, distinctEvents_map Event.untimed keeps,
    Except.filterMapM_map keys.readDirect? Event.untimed (readDirect?_untimed keys)]

/-- The times of wraps decide nothing. What an inbox holds are the messages of the first events of
their ids, from a time on and oldest first, and with a later time it holds the end of the same list:
the messages that reach that time. -/
theorem inbox_exact (since : Option Int) (events : List Event) :
    (∀ others : List Event, others.map Event.untimed = events.map Event.untimed →
      keys.inbox since others = keys.inbox since events) ∧
    ∀ messages, keys.inbox since events = .ok messages →
      keys.Holds since events messages ∧
      ∀ later, (∀ time, since = some time → time ≤ later) →
        ∃ early kept, messages = early ++ kept ∧
          (∀ direct ∈ early, direct.createdAt < later) ∧
          (∀ direct ∈ kept, later ≤ direct.createdAt) ∧
          keys.inbox (some later) events = .ok kept := by
  constructor
  · intro others same
    rw [← inbox_untimed keys since others, same, inbox_untimed keys since events]
  · intro messages read
    have again := inbox_of_read keys since events messages read
    have whole : messages = oldestFirst (keys.arrived since events) :=
      Except.ok.inj (read.symm.trans (again since))
    subst whole
    refine ⟨holds_oldestFirst keys since events, ?_⟩
    intro later bound
    obtain ⟨early, split, before⟩ := oldestFirst_later keys since events later bound
    refine ⟨early, _, split, before, ?_, again (some later)⟩
    intro direct member
    exact (((holds_oldestFirst keys (some later) events).exact direct).mp member).1 later rfl

/-- A note that comes twice, two notes of one time, and what is left of them from a time on. -/
theorem inbox_exact_notes : ∃ content : String,
    let note := keysOne.noteTo keysTwo.publicKey content
    let message := fun id time => DirectMessage.mk id keysTwo.publicKey time cancelRequest
    keysOne.inbox none [note "a" 3, note "b" 3, note "a" 9, note "c" 5] =
      .ok [message "a" 3, message "b" 3, message "c" 5] ∧
    ∃ early kept, [message "a" 3, message "b" 3, message "c" 5] = early ++ kept ∧
      (∀ direct ∈ early, direct.createdAt < 4) ∧ (∀ direct ∈ kept, 4 ≤ direct.createdAt) ∧
      keysOne.inbox (some 4) [note "a" 3, note "b" 3, note "a" 9, note "c" 5] = .ok kept := by
  obtain ⟨content, read⟩ := exists_note cancelRequest (by decide) writable_cancelRequest
    (by decide +kernel)
  have opened (id : String) (time : Int) :
      keysOne.readDirect? (keysOne.noteTo keysTwo.publicKey content id time) =
        .ok (some ⟨id, keysTwo.publicKey, time, cancelRequest⟩) := by
    rw [readDirect?, read]
  have listed : keysOne.inbox none [keysOne.noteTo keysTwo.publicKey content "a" 3,
      keysOne.noteTo keysTwo.publicKey content "b" 3,
      keysOne.noteTo keysTwo.publicKey content "a" 9,
      keysOne.noteTo keysTwo.publicKey content "c" 5] =
        .ok [⟨"a", keysTwo.publicKey, 3, cancelRequest⟩, ⟨"b", keysTwo.publicKey, 3, cancelRequest⟩,
          ⟨"c", keysTwo.publicKey, 5, cancelRequest⟩] := by
    have distinct : distinctEvents [keysOne.noteTo keysTwo.publicKey content "a" 3,
        keysOne.noteTo keysTwo.publicKey content "b" 3,
        keysOne.noteTo keysTwo.publicKey content "a" 9,
        keysOne.noteTo keysTwo.publicKey content "c" 5] =
          [keysOne.noteTo keysTwo.publicKey content "a" 3,
            keysOne.noteTo keysTwo.publicKey content "b" 3,
            keysOne.noteTo keysTwo.publicKey content "c" 5] := by
      simp [distinctEvents, noteTo, privateTo]
    let step := fun event : Event => keysOne.readDirect? event
    rw [inbox, distinct, Except.filterMapM_cons_ok step _ _ _ (opened "a" 3),
      Except.filterMapM_cons_ok step _ _ _ (opened "b" 3),
      Except.filterMapM_cons_ok step _ _ _ (opened "c" 5)]
    exact congrArg Except.ok (List.mergeSort_of_pairwise (by decide))
  refine ⟨content, listed, ((inbox_exact keysOne none _).2 _ listed).2 4 ?_⟩
  intro low unknown
  cases unknown

end Keys

end TradeWire
