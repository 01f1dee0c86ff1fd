import Mathlib.Data.List.Induction
import Mathlib.Data.List.Nodup
import TradeWire.Order.Book
/-! Which version of an item is listed, and that the order in which versions come does not matter
where no two of one item have the same time. -/

namespace TradeWire

section Versions

variable {α : Type} (id : α → String) (time : α → Int)

theorem ids_keepNewer (kept : List α) (a : α) :
    (keepNewer id time kept a).map id =
      if id a ∈ kept.map id then kept.map id else kept.map id ++ [id a] := by
  induction kept with
  | nil => rfl
  | cons b kept ih =>
      rw [keepNewer]
      by_cases same : id b = id a
      · have member : id a ∈ (b :: kept).map id := by simp [same]
        rw [if_pos same, if_pos member]
        split
        · rw [List.map_cons, List.map_cons, same]
        · rfl
      · rw [if_neg same, List.map_cons, ih]
        by_cases member : id a ∈ kept.map id
        · simp [member]
        · simp [member, Ne.symm same]

theorem mem_keepNewer_known (first : α) (kept : List α) (a b : α) (same : id first = id a)
    (others : ∀ c ∈ kept, id c ≠ id a) :
    b ∈ keepNewer id time (first :: kept) a ↔
      b ∈ first :: kept ∧ (id b = id a → time a ≤ time b) ∨
        b = a ∧ ∀ c ∈ first :: kept, id c = id a → time c < time a := by
  have free : ∀ c ∈ kept, id c = id a → time c < time a := by
    intro c member other
    exact absurd other (others c member)
  rw [keepNewer, if_pos same, List.forall_mem_cons]
  by_cases older : time first < time a
  · rw [if_pos older]
    constructor
    · intro either
      rcases List.mem_cons.mp either with rfl | member
      · exact Or.inr ⟨rfl, fun _ => older, free⟩
      · exact Or.inl ⟨List.mem_cons_of_mem _ member, fun other => absurd other (others b member)⟩
    · intro either
      rcases either with ⟨member, newer⟩ | ⟨rfl, _⟩
      · rcases List.mem_cons.mp member with rfl | member
        · exact absurd older (Int.not_lt.mpr (newer same))
        · exact List.mem_cons_of_mem _ member
      · exact List.mem_cons_self
  · rw [if_neg older]
    constructor
    · intro either
      refine Or.inl ⟨either, fun other => ?_⟩
      rcases List.mem_cons.mp either with rfl | member
      · exact Int.not_lt.mp older
      · exact absurd other (others b member)
    · intro either
      rcases either with ⟨member, _⟩ | ⟨rfl, newer, _⟩
      · exact member
      · exact absurd (newer same) older

theorem mem_keepNewer (kept : List α) (single : (kept.map id).Nodup) (a b : α) :
    b ∈ keepNewer id time kept a ↔
      b ∈ kept ∧ (id b = id a → time a ≤ time b) ∨
        b = a ∧ ∀ c ∈ kept, id c = id a → time c < time a := by
  induction kept with
  | nil => simp [keepNewer]
  | cons first kept ih =>
      rw [List.map_cons, List.nodup_cons] at single
      -- Behind the known version of the item no other one stands.
      by_cases same : id first = id a
      · apply mem_keepNewer_known id time first kept a b same
        intro c member other
        apply single.1
        rw [same, ← other]
        exact List.mem_map_of_mem member
      · rw [keepNewer, if_neg same, List.mem_cons, List.mem_cons, List.forall_mem_cons, ih single.2]
        constructor
        · intro either
          rcases either with rfl | ⟨member, newer⟩ | ⟨rfl, newer⟩
          · exact Or.inl ⟨Or.inl rfl, fun other => absurd other same⟩
          · exact Or.inl ⟨Or.inr member, newer⟩
          · exact Or.inr ⟨rfl, fun other => absurd other same, newer⟩
        · intro either
          rcases either with ⟨rfl | member, newer⟩ | ⟨rfl, _, newer⟩
          · exact Or.inl rfl
          · exact Or.inr (Or.inl ⟨member, newer⟩)
          · exact Or.inr (Or.inr ⟨rfl, newer⟩)

theorem newest_append (versions : List α) (last : α) :
    newest id time (versions ++ [last]) = keepNewer id time (newest id time versions) last := by
  rw [newest, List.foldl_append]
  rfl

theorem nodup_newest (versions : List α) : ((newest id time versions).map id).Nodup := by
  induction versions using List.reverseRecOn with
  | nil => exact List.nodup_nil
  | append_singleton versions last ih =>
      rw [newest_append, ids_keepNewer]
      split
      · exact ih
      · rename_i new
        exact ih.append (List.nodup_singleton _) (List.disjoint_singleton.mpr new)

theorem mem_of_newest (versions : List α) (a : α) (member : a ∈ newest id time versions) :
    a ∈ versions := by
  induction versions using List.reverseRecOn with
  | nil => exact member
  | append_singleton versions last ih =>
      rw [newest_append, mem_keepNewer id time _ (nodup_newest id time versions)] at member
      rcases member with ⟨old, _⟩ | ⟨rfl, _⟩
      · exact List.mem_append_left _ (ih old)
      · simp

def Covers (b a : α) : Prop := id b = id a ∧ time a ≤ time b

theorem exists_covers_added (kept : List α) (single : (kept.map id).Nodup) (a : α) :
    ∃ b ∈ keepNewer id time kept a, Covers id time b a := by
  simp only [mem_keepNewer id time kept single]
  by_cases covered : ∃ c ∈ kept, Covers id time c a
  · rcases covered with ⟨c, member, same, newer⟩
    exact ⟨c, Or.inl ⟨member, fun _ => newer⟩, same, newer⟩
  · refine ⟨a, Or.inr ⟨rfl, ?_⟩, rfl, Int.le_refl _⟩
    intro c member same
    apply Int.not_le.mp
    intro newer
    exact covered ⟨c, member, same, newer⟩

theorem exists_covers_kept (kept : List α) (single : (kept.map id).Nodup) (a c : α)
    (member : c ∈ kept) : ∃ b ∈ keepNewer id time kept a, Covers id time b c := by
  by_cases replaced : id c = id a ∧ time c < time a
  · rcases exists_covers_added id time kept single a with ⟨b, listed, same, newer⟩
    exact ⟨b, listed, same.trans replaced.1.symm, Int.le_trans (Int.le_of_lt replaced.2) newer⟩
  · refine ⟨c, (mem_keepNewer id time kept single a c).mpr (Or.inl ⟨member, ?_⟩), rfl,
      Int.le_refl _⟩
    intro same
    apply Int.not_lt.mp
    intro older
    exact replaced ⟨same, older⟩

theorem exists_newest (versions : List α) (a : α) (member : a ∈ versions) :
    ∃ b ∈ newest id time versions, Covers id time b a := by
  induction versions using List.reverseRecOn with
  | nil => cases member
  | append_singleton versions last ih =>
      have single := nodup_newest id time versions
      rw [newest_append]
      rcases List.mem_append.mp member with old | new
      · rcases ih old with ⟨c, listed, same, newer⟩
        rcases exists_covers_kept id time _ single last c listed with ⟨b, kept, alike, newest⟩
        exact ⟨b, kept, alike.trans same, Int.le_trans newer newest⟩
      · rw [List.mem_singleton.mp new]
        exact exists_covers_added id time _ single last

def Apart (versions : List α) : Prop :=
  ∀ a ∈ versions, ∀ b ∈ versions, id a = id b → time a = time b → a = b

theorem mem_newest (versions : List α) (apart : Apart id time versions) (a : α) :
    a ∈ newest id time versions ↔
      a ∈ versions ∧ ∀ b ∈ versions, id b = id a → time b ≤ time a := by
  constructor
  · intro listed
    refine ⟨mem_of_newest id time versions a listed, ?_⟩
    intro b member same
    rcases exists_newest id time versions b member with ⟨c, other, alike, newer⟩
    have equal := List.inj_on_of_nodup_map (nodup_newest id time versions) other listed
      (alike.trans same)
    exact equal ▸ newer
  · intro latest
    rcases exists_newest id time versions a latest.1 with ⟨b, listed, same, newer⟩
    have member := mem_of_newest id time versions b listed
    have older := latest.2 b member same
    have equal := apart b member a latest.1 same (Int.le_antisymm older newer)
    exact equal ▸ listed

/-- Where no two versions of an item have the same time, the order of versions, and how often each
comes, does not matter. -/
theorem newest_perm (first second : List α) (same : ∀ a, a ∈ first ↔ a ∈ second)
    (apart : Apart id time first) : (newest id time first).Perm (newest id time second) := by
  have others : Apart id time second := by
    intro a memberA b memberB
    exact apart a ((same a).mpr memberA) b ((same b).mpr memberB)
  have firstSingle := (nodup_newest id time first).of_map
  have secondSingle := (nodup_newest id time second).of_map
  apply (List.perm_ext_iff_of_nodup firstSingle secondSingle).mpr
  intro a
  simp only [mem_newest id time first apart, mem_newest id time second others, same]

theorem latestFirst_perm (first second : List α) (same : first.Perm second) :
    (latestFirst time first).Perm (latestFirst time second) ∧
      (latestFirst time first).map time = (latestFirst time second).map time := by
  have perm : (latestFirst time first).Perm (latestFirst time second) :=
    (List.mergeSort_perm _ _).trans (same.trans (List.mergeSort_perm _ _).symm)
  have sorted (items : List α) :
      ((latestFirst time items).map time).Pairwise fun a b => b ≤ a := by
    have ordered := @List.pairwise_mergeSort _ (fun a b => decide (time b ≤ time a))
      (by simpa using fun a b c ab bc => Int.le_trans bc ab)
      (by simpa using fun a b => Int.le_total (time b) (time a)) items
    simpa [List.pairwise_map, latestFirst] using ordered
  refine ⟨perm, ?_⟩
  apply List.Perm.eq_of_pairwise _ (sorted first) (sorted second) (perm.map time)
  intro a b _ _ above below
  exact Int.le_antisymm below above

end Versions

end TradeWire
