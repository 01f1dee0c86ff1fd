import TradeWire.Proofs.Arrangement
import TradeWire.Proofs.Order.Book
import TradeWire.Proofs.Order.Tags
/-! Exactly which version of an order is listed, and where. -/

namespace TradeWire

section Versions

variable {α : Type} (id : α → String) (time : α → Int)

structure Leads (before : List α) (a : α) (after : List α) : Prop where
  newer : ∀ b ∈ before, id b = id a → time b < time a
  stays : ∀ b ∈ after, id b = id a → time b ≤ time a

def LeadsIn (versions : List α) (a : α) : Prop :=
  ∃ before after, versions = before ++ a :: after ∧ Leads id time before a after

theorem leadsIn_append (versions : List α) (last a : α) :
    LeadsIn id time (versions ++ [last]) a ↔
      LeadsIn id time versions a ∧ (id a = id last → time last ≤ time a) ∨
        a = last ∧ ∀ b ∈ versions, id b = id last → time b < time last := by
  constructor
  · intro found
    rcases found with ⟨before, after, split, leads⟩
    -- Nothing stands behind the leading one, or the last version does.
    rcases split_append_singleton versions before after a last split with
      ⟨rfl, rfl, _⟩ | ⟨others, rfl, rfl⟩
    · exact Or.inr ⟨rfl, leads.newer⟩
    · rcases List.forall_mem_append.mp leads.stays with ⟨stays, lastStays⟩
      exact Or.inl ⟨⟨before, others, rfl, leads.newer, stays⟩,
        fun same => lastStays last (by simp) same.symm⟩
  · intro either
    rcases either with ⟨⟨before, after, rfl, leads⟩, lastStays⟩ | ⟨rfl, newer⟩
    · refine ⟨before, after ++ [last], by simp, leads.newer, ?_⟩
      exact List.forall_mem_append.mpr ⟨leads.stays, by simpa [eq_comm] using lastStays⟩
    · exact ⟨versions, [], rfl, newer, by simp⟩

theorem mem_newest_iff_leadsIn (versions : List α) (a : α) :
    a ∈ newest id time versions ↔ LeadsIn id time versions a := by
  induction versions using List.reverseRecOn with
  | nil => simp [newest, LeadsIn]
  | append_singleton versions last ih =>
      have newerThanAll : (∀ c ∈ newest id time versions, id c = id last → time c < time last) ↔
          ∀ b ∈ versions, id b = id last → time b < time last := by
        constructor
        · intro newer b member same
          rcases exists_newest id time versions b member with ⟨c, listed, alike, later⟩
          exact Int.lt_of_le_of_lt later (newer c listed (alike.trans same))
        · intro newer c listed same
          exact newer c (mem_of_newest id time versions c listed) same
      rw [newest_append, mem_keepNewer id time _ (nodup_newest id time versions), leadsIn_append,
        ih, newerThanAll]

theorem firstOrder_newest (versions : List α) :
    FirstOrder (versions.map id) ((newest id time versions).map id) := by
  induction versions using List.reverseRecOn with
  | nil => exact ⟨fun _ => Iff.rfl, List.Pairwise.nil⟩
  | append_singleton versions last ih =>
      rw [newest_append, ids_keepNewer, List.map_append]
      exact ih.append _ _ (id last)

theorem newest_first_occurrence (versions : List α) :
    ((newest id time versions).map id).Pairwise fun x y =>
      (versions.map id).idxOf x < (versions.map id).idxOf y :=
  (firstOrder_newest id time versions).ordered

variable {β : Type} (told? : β → Option α)

structure LeadsBy (before : List β) (source : β) (after : List β) (a : α) : Prop where
  told : told? source = some a
  newer : ∀ other ∈ before, ∀ b, told? other = some b → id b = id a → time b < time a
  stays : ∀ other ∈ after, ∀ b, told? other = some b → id b = id a → time b ≤ time a

theorem forall_mem_told (sources : List β) (a : α) (bound : Int → Prop) :
    (∀ b ∈ sources.filterMap told?, id b = id a → bound (time b)) ↔
      ∀ other ∈ sources, ∀ b, told? other = some b → id b = id a → bound (time b) := by
  simp only [List.mem_filterMap]
  constructor
  · intro versions other member b told
    exact versions b ⟨other, member, told⟩
  · intro sources b found
    obtain ⟨other, member, told⟩ := found
    exact sources other member b told

theorem mem_newest_told (sources : List β) (a : α) :
    a ∈ newest id time (sources.filterMap told?) ↔
      ∃ before source after, sources = before ++ source :: after ∧
        LeadsBy id time told? before source after a := by
  rw [mem_newest_iff_leadsIn]
  constructor
  · intro found
    obtain ⟨front, back, split, leads⟩ := found
    obtain ⟨before, rest, rfl, rfl, others⟩ := List.filterMap_eq_append_iff.mp split
    obtain ⟨silent, source, after, rfl, none, told, rfl⟩ := List.filterMap_eq_cons_iff.mp others
    refine ⟨before ++ silent, source, after, by simp, told, ?_, ?_⟩
    · apply (forall_mem_told id time told? _ a (· < time a)).mp
      rw [List.filterMap_append, List.filterMap_eq_nil_iff.mpr none, List.append_nil]
      exact leads.newer
    · exact (forall_mem_told id time told? _ a (· ≤ time a)).mp leads.stays
  · intro found
    obtain ⟨before, source, after, rfl, leads⟩ := found
    refine ⟨before.filterMap told?, after.filterMap told?, ?_, ?_, ?_⟩
    · rw [List.filterMap_append, List.filterMap_cons_some leads.told]
    · exact (forall_mem_told id time told? before a (· < time a)).mpr leads.newer
    · exact (forall_mem_told id time told? after a (· ≤ time a)).mpr leads.stays

end Versions

namespace Order

structure Offers (event : Event) (order : Order) : Prop where
  read : ofTags false event.tags = .ok { order with createdAt := none }
  sided : order.side.isSome
  dated : order.createdAt = some event.createdAt

theorem offers_iff (event : Event) (order : Order) :
    Offers event order ↔ ofEvent? event = some order := by
  rw [ofEvent?]
  constructor
  · intro offers
    rw [offers.read]
    simp only [if_pos offers.sided, ← offers.dated]
  · intro found
    split at found
    · rename_i read
      split at found
      · rename_i sided
        cases found
        have untimed := (complete_of_ofTags false event.tags _ read).2.2
        exact ⟨by rw [read, ← untimed], sided, rfl⟩
      · cases found
    · cases found

/-- An event is the newest of its order, and the first of those that are equally new. -/
structure Prevails (before : List Event) (event : Event) (after : List Event) (order : Order) :
    Prop where
  offers : Offers event order
  newer : ∀ other ∈ before, ∀ version, Offers other version → version.id = order.id →
    other.createdAt < event.createdAt
  stays : ∀ other ∈ after, ∀ version, Offers other version → version.id = order.id →
    other.createdAt ≤ event.createdAt

structure Passes (query : Query) (order : Order) : Prop where
  status : ∀ status, query.status = some status → order.status = some status
  currency : query.currencies = [] ∨ order.fiatCode ∈ query.currencies
  side : ∀ side, query.side = some side → order.side = some side

theorem accepts_iff (query : Query) (order : Order) :
    query.accepts order ↔ Passes query order := by
  have parts : query.accepts order ↔
      (∀ status, query.status = some status → order.status = some status) ∧
        (query.currencies = [] ∨ order.fiatCode ∈ query.currencies) ∧
          ∀ side, query.side = some side → order.side = some side := by
    rcases query with ⟨currencies, status, side⟩
    cases status <;> cases side <;> simp [Query.accepts, and_assoc]
  rw [parts]
  constructor
  · intro found
    exact ⟨found.1, found.2.1, found.2.2⟩
  · intro passes
    exact ⟨passes.status, passes.currency, passes.side⟩

theorem time_of_offers (event : Event) (order : Order) (offers : Offers event order) :
    order.time = event.createdAt := by
  rw [time, offers.dated, Option.getD_some]

theorem leadsBy_iff_prevails (before after : List Event) (event : Event) (order : Order) :
    LeadsBy id time ofEvent? before event after order ↔ Prevails before event after order := by
  constructor
  · intro leads
    have offers := (offers_iff event order).mpr leads.told
    have dated := time_of_offers event order offers
    refine ⟨offers, ?_, ?_⟩
    · intro other member version offered same
      have newer := leads.newer other member version ((offers_iff _ _).mp offered) same
      rwa [dated, time_of_offers other version offered] at newer
    · intro other member version offered same
      have stays := leads.stays other member version ((offers_iff _ _).mp offered) same
      rwa [dated, time_of_offers other version offered] at stays
  · intro prevails
    have dated := time_of_offers event order prevails.offers
    refine ⟨(offers_iff event order).mp prevails.offers, ?_, ?_⟩
    · intro other member version told same
      have offered := (offers_iff other version).mpr told
      rw [dated, time_of_offers other version offered]
      exact prevails.newer other member version offered same
    · intro other member version told same
      have offered := (offers_iff other version).mpr told
      rw [dated, time_of_offers other version offered]
      exact prevails.stays other member version offered same

theorem mem_newest_offered (events : List Event) (order : Order) :
    order ∈ newest id time (events.filterMap ofEvent?) ↔
      ∃ before event after, events = before ++ event :: after ∧
        Prevails before event after order := by
  simp only [mem_newest_told, leadsBy_iff_prevails]

def offeredIds (events : List Event) : List String := (events.filterMap ofEvent?).map id

/-- The orders of a list, its order, and that no order is listed twice or in an older version than
the events bring, whether or not the newest version passes. -/
theorem list_exact (query : Query) (events : List Event) :
    (∀ order, order ∈ list query events ↔ Passes query order ∧
      ∃ before event after, events = before ++ event :: after ∧
        Prevails before event after order) ∧
    ((list query events).Pairwise fun a b => b.time < a.time ∨
      b.time = a.time ∧ (offeredIds events).idxOf a.id < (offeredIds events).idxOf b.id) ∧
    ((list query events).map id).Nodup ∧
    ∀ order ∈ list query events, ∀ event ∈ events, ∀ version, Offers event version →
      version.id = order.id → version.time ≤ order.time := by
  have membership (order : Order) : order ∈ list query events ↔ Passes query order ∧
      order ∈ newest id time (events.filterMap ofEvent?) := by
    rw [list, latestFirst, List.mem_mergeSort, List.mem_filter, accepts_iff, and_comm]
  refine ⟨?_, ?_, ?_, ?_⟩
  · intro order
    rw [membership, mem_newest_offered]
  · have placed := newest_first_occurrence id time (events.filterMap ofEvent?)
    rw [List.pairwise_map] at placed
    exact latestFirst_stable time _ _ (placed.filter _)
  · have single := nodup_newest id time (events.filterMap ofEvent?)
    have shorter := (List.filter_sublist (p := query.accepts)).map id |>.nodup single
    exact ((List.mergeSort_perm _ _).map id).nodup_iff.mpr shorter
  · intro order listed event member version offers same
    have known := ((membership order).mp listed).2
    have offered : version ∈ events.filterMap ofEvent? :=
      List.mem_filterMap.mpr ⟨event, member, (offers_iff _ _).mp offers⟩
    rcases exists_newest id time _ version offered with ⟨kept, alsoKnown, alike, newer⟩
    have one := List.inj_on_of_nodup_map (nodup_newest id time _) alsoKnown known
      (alike.trans same)
    exact one ▸ newer

end Order

end TradeWire
