import TradeWire.Proofs.Order.Newest
/-! Exactly which disputes are listed, with which status and in which order, and that the order in
which their events come does not matter. -/

namespace TradeWire

namespace Tag

def Gives (name value : String) (tag : Tag) : Prop := ∃ more, tag = name :: value :: more

/-- What the last tag gives that gives a name a value, and the empty text if none does. -/
inductive LastGiven (name : String) (tags : List Tag) : String → Prop
  | given (before : List Tag) (tag : Tag) (after : List Tag) (value : String)
      (split : tags = before ++ tag :: after) (gives : tag.Gives name value)
      (last : ∀ later ∈ after, ∀ other, ¬later.Gives name other) : LastGiven name tags value
  | none (silent : ∀ tag ∈ tags, ∀ value, ¬tag.Gives name value) : LastGiven name tags ""

theorem lastGiven_nil (name value : String) : LastGiven name [] value ↔ value = "" := by
  constructor
  · intro found
    cases found with
    | given before tag after _ split => simp at split
    | none => rfl
  · intro empty
    subst empty
    exact .none (List.forall_mem_nil _)

theorem lastGiven_append (name value : String) (tags : List Tag) (last : Tag) :
    LastGiven name (tags ++ [last]) value ↔
      last.Gives name value ∨ (∀ other, ¬last.Gives name other) ∧ LastGiven name tags value := by
  constructor
  · intro found
    cases found with
    | given before tag after _ split gives final =>
        obtain ⟨rfl, rfl, rfl⟩ | ⟨rest, rfl, rfl⟩ :=
          split_append_singleton tags before after tag last split
        · exact .inl gives
        · rw [List.forall_mem_append, List.forall_mem_singleton] at final
          exact .inr ⟨final.2, .given before tag rest value rfl gives final.1⟩
    | none silent =>
        rw [List.forall_mem_append, List.forall_mem_singleton] at silent
        exact .inr ⟨silent.2, .none silent.1⟩
  · intro either
    obtain gives | ⟨silent, found⟩ := either
    · exact .given tags last [] value rfl gives (List.forall_mem_nil _)
    · cases found with
      | given before tag after _ split gives final =>
          subst split
          refine .given before tag (after ++ [last]) value (by simp) gives ?_
          exact List.forall_mem_append.mpr ⟨final, List.forall_mem_singleton.mpr silent⟩
      | none others =>
          apply LastGiven.none
          exact List.forall_mem_append.mpr ⟨others, List.forall_mem_singleton.mpr silent⟩

end Tag

namespace Dispute

open Tag

theorem lastValue_append (name : String) (tags : List Tag) (last : Tag) :
    lastValue name (tags ++ [last]) =
      match last with
      | key :: value :: _ => if key = name then value else lastValue name tags
      | _ => lastValue name tags := by
  rw [lastValue, List.foldl_append]
  rfl

theorem lastValue_eq_iff (name value : String) (tags : List Tag) :
    lastValue name tags = value ↔ LastGiven name tags value := by
  induction tags using List.reverseRecOn with
  | nil => rw [lastGiven_nil, eq_comm, lastValue, List.foldl_nil]
  | append_singleton tags last ih =>
      rw [lastValue_append, lastGiven_append, ← ih]
      match last with
      | [] | [_] => simp [Gives]
      | key :: given :: more =>
          by_cases same : key = name
          · simp [Gives, same]
          · simp [Gives, same]

structure Reports (event : Event) (dispute : Dispute) : Prop where
  id : LastGiven "d" event.tags dispute.id
  named : dispute.id ≠ ""
  status : LastGiven "s" event.tags dispute.status
  dated : dispute.createdAt = event.createdAt

theorem reports_iff (event : Event) (dispute : Dispute) :
    Reports event dispute ↔ ofEvent? event = some dispute := by
  constructor
  · intro reports
    have id := (lastValue_eq_iff "d" _ _).mpr reports.id
    have status := (lastValue_eq_iff "s" _ _).mpr reports.status
    simp only [ofEvent?, ofTags, id, status, if_neg reports.named, ← reports.dated]
  · intro found
    simp only [ofEvent?, ofTags] at found
    by_cases nameless : lastValue "d" event.tags = ""
    · rw [if_pos nameless] at found
      cases found
    · rw [if_neg nameless] at found
      cases found
      exact ⟨(lastValue_eq_iff _ _ _).mp rfl, nameless, (lastValue_eq_iff _ _ _).mp rfl, rfl⟩

/-- An event is the newest that reports its dispute, and the first of those that are equally new. -/
structure Stands (before : List Event) (event : Event) (after : List Event) (dispute : Dispute) :
    Prop where
  reports : Reports event dispute
  newer : ∀ other ∈ before, ∀ version, Reports other version → version.id = dispute.id →
    other.createdAt < event.createdAt
  stays : ∀ other ∈ after, ∀ version, Reports other version → version.id = dispute.id →
    other.createdAt ≤ event.createdAt

theorem leadsBy_iff_stands (before after : List Event) (event : Event) (dispute : Dispute) :
    LeadsBy id createdAt ofEvent? before event after dispute ↔
      Stands before event after dispute := by
  constructor
  · intro leads
    have reports := (reports_iff event dispute).mpr leads.told
    refine ⟨reports, ?_, ?_⟩
    · intro other member version reported same
      rw [← reports.dated, ← reported.dated]
      exact leads.newer other member version ((reports_iff _ _).mp reported) same
    · intro other member version reported same
      rw [← reports.dated, ← reported.dated]
      exact leads.stays other member version ((reports_iff _ _).mp reported) same
  · intro stands
    refine ⟨(reports_iff event dispute).mp stands.reports, ?_, ?_⟩
    · intro other member version told same
      have reported := (reports_iff other version).mpr told
      rw [stands.reports.dated, reported.dated]
      exact stands.newer other member version reported same
    · intro other member version told same
      have reported := (reports_iff other version).mpr told
      rw [stands.reports.dated, reported.dated]
      exact stands.stays other member version reported same

def reportedIds (events : List Event) : List String := (events.filterMap ofEvent?).map id

theorem mem_reportedIds (events : List Event) (name : String) :
    name ∈ reportedIds events ↔
      ∃ event ∈ events, ∃ dispute, Reports event dispute ∧ dispute.id = name := by
  simp only [reportedIds, List.mem_map, List.mem_filterMap, reports_iff]
  constructor
  · intro found
    obtain ⟨dispute, ⟨event, member, told⟩, same⟩ := found
    exact ⟨event, member, dispute, told, same⟩
  · intro found
    obtain ⟨event, member, dispute, told, same⟩ := found
    exact ⟨dispute, ⟨event, member, told⟩, same⟩

def Undivided (events : List Event) : Prop :=
  ∀ one ∈ events, ∀ other ∈ events, ∀ a b, Reports one a → Reports other b → a.id = b.id →
    a.createdAt = b.createdAt → a = b

theorem undivided_iff (events : List Event) :
    Undivided events ↔ Apart id createdAt (events.filterMap ofEvent?) := by
  simp only [Undivided, Apart, List.mem_filterMap, reports_iff]
  constructor
  · intro undivided a foundA b foundB
    obtain ⟨one, member, told⟩ := foundA
    obtain ⟨other, otherMember, otherTold⟩ := foundB
    exact undivided one member other otherMember a b told otherTold
  · intro apart one member other otherMember a b told otherTold
    exact apart a ⟨one, member, told⟩ b ⟨other, otherMember, otherTold⟩

theorem list_perm (events others : List Event) (perm : events.Perm others)
    (undivided : Undivided events) : (list events).Perm (list others) := by
  have same (dispute : Dispute) :
      dispute ∈ events.filterMap ofEvent? ↔ dispute ∈ others.filterMap ofEvent? :=
    (perm.filterMap ofEvent?).mem_iff
  have apart := (undivided_iff events).mp undivided
  exact (latestFirst_perm createdAt _ _ (newest_perm id createdAt _ _ same apart)).1

/-- One dispute is listed for each id that is reported, as its newest event reports it, the newest
first and those of one time in the order in which their ids come up. Events in another order give
the same disputes, unless two of them report one dispute differently at one time. -/
theorem list_newest (events : List Event) :
    (∀ dispute, dispute ∈ list events ↔
      ∃ before event after, events = before ++ event :: after ∧
        Stands before event after dispute) ∧
    ((list events).map id).Nodup ∧
    (∀ name, name ∈ (list events).map id ↔
      ∃ event ∈ events, ∃ dispute, Reports event dispute ∧ dispute.id = name) ∧
    ((list events).Pairwise fun a b => b.createdAt < a.createdAt ∨
      b.createdAt = a.createdAt ∧
        (reportedIds events).idxOf a.id < (reportedIds events).idxOf b.id) ∧
    ∀ others, events.Perm others → Undivided events → (list events).Perm (list others) := by
  have sorted : (list events).Perm (newest id createdAt (events.filterMap ofEvent?)) :=
    List.mergeSort_perm _ _
  refine ⟨?_, ?_, ?_, ?_, ?_⟩
  · intro dispute
    simp only [sorted.mem_iff, mem_newest_told, leadsBy_iff_stands]
  · exact (sorted.map id).nodup_iff.mpr (nodup_newest id createdAt _)
  · intro name
    rw [(sorted.map id).mem_iff, (firstOrder_newest id createdAt _).covers]
    exact mem_reportedIds events name
  · have placed := newest_first_occurrence id createdAt (events.filterMap ofEvent?)
    rw [List.pairwise_map] at placed
    exact latestFirst_stable createdAt _ _ placed
  · exact list_perm events

/-- Reports of two disputes of one time: the second one of the first dispute is newer than its first
one and in front of an older one, and one event names no dispute. -/
def reopened : List Event :=
  let reported (id : String) (createdAt : Int) (tags : List Tag) : Event :=
    { id, pubkey := "", createdAt, kind := Event.disputeKind, tags, content := "" }
  [reported "e1" 5 [["d", "first"], ["s", "initiated"]],
    reported "e2" 7 [["d", "second"], ["s", "initiated"]],
    reported "e3" 7 [["d"], ["d", "other"], ["s", "settled"], ["d", "first", "more"], ["s"]],
    reported "e4" 9 [["d", "third"], ["d", ""], ["s", "initiated"]],
    reported "e5" (-3) [["d", "first"]]]

theorem list_newest_reopened :
    Undivided reopened ∧ reopened.Perm reopened.reverse ∧
      (list reopened).Perm (list reopened.reverse) ∧
      (⟨"first", "settled", 7⟩ : Dispute) ∈ list reopened := by
  have known : reopened.filterMap ofEvent? = [⟨"first", "initiated", 5⟩, ⟨"second", "initiated", 7⟩,
      ⟨"first", "settled", 7⟩, ⟨"first", "", -3⟩] := by decide +kernel
  have undivided : Undivided reopened := by
    rw [undivided_iff, known, Apart]
    decide
  have backward : reopened.Perm reopened.reverse := (List.reverse_perm reopened).symm
  obtain ⟨listed, -, -, -, permuted⟩ := list_newest reopened
  refine ⟨undivided, backward, permuted _ backward undivided, ?_⟩
  refine (listed _).mpr ⟨reopened.take 2, _, reopened.drop 3, rfl, ?_⟩
  apply (leadsBy_iff_stands _ _ _ _).mp
  refine ⟨by decide +kernel, ?_, ?_⟩
  · have front : (reopened.take 2).filterMap ofEvent? = [⟨"first", "initiated", 5⟩,
        ⟨"second", "initiated", 7⟩] := by decide +kernel
    apply (forall_mem_told id createdAt ofEvent? _ _ (· < 7)).mp
    rw [front]
    decide
  · have back : (reopened.drop 3).filterMap ofEvent? = [⟨"first", "", -3⟩] := by decide +kernel
    apply (forall_mem_told id createdAt ofEvent? _ _ (· ≤ 7)).mp
    rw [back]
    decide

end Dispute

end TradeWire
