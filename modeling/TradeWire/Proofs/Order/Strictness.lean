import TradeWire.Proofs.Order.Reading
/-! Strict reading: it ends as lenient reading does, unless a tag for the side names neither of the
two. -/

namespace TradeWire

namespace Tag

inductive NamesNoSide : Tag → String → Prop where
  | intro (values : List String) (unknown : ∀ side : Side, lower (values.headD "") ≠ side.name) :
      NamesNoSide ("k" :: values) (values.headD "")

inductive Unreadable : Tag → Prop where
  | amount (values : List String) (fault : DecodeFault)
      (failed : toInt "amt" (values.headD "") = .error fault) : Unreadable ("amt" :: values)
  | fiat (values : List String) (fault : DecodeFault) (failed : toFiat values = .error fault) :
      Unreadable ("fa" :: values)
  | premium (values : List String) (fault : DecodeFault)
      (failed : toInt "premium" (values.headD "") = .error fault) : Unreadable ("premium" :: values)

theorem sideFault?_eq_none (value : String) :
    sideFault? true value = none ↔ ∃ side : Side, lower value = side.name := by
  simp only [sideFault?, Bool.true_and, ← Side.ofName?_eq_some]
  cases Side.ofName? (lower value) <;> simp

theorem fault?_lenient (tag : Tag) : fault? false tag ≠ none ↔ Unreadable tag := by
  constructor
  · intro faulty
    obtain ⟨fault, found⟩ := Option.ne_none_iff_exists'.mp faulty
    unfold fault? at found
    split at found
    · cases found
    split at found
    · cases found
    · exact .amount _ fault ((toInt_eq_error "amt" _ fault).mpr found)
    · exact .premium _ fault ((toInt_eq_error "premium" _ fault).mpr found)
    · exact .fiat _ fault ((toFiat_eq_error _ fault).mpr found)
    · cases found
  · intro unreadable
    rw [Option.ne_none_iff_exists']
    cases unreadable with
    | amount values fault failed => exact ⟨fault, (toInt_eq_error "amt" _ fault).mp failed⟩
    | fiat values fault failed => exact ⟨fault, (toFiat_eq_error _ fault).mp failed⟩
    | premium values fault failed => exact ⟨fault, (toInt_eq_error "premium" _ fault).mp failed⟩

theorem fault?_namesNoSide (tag : Tag) (value : String) (nameless : NamesNoSide tag value) :
    fault? true tag = some (.unknownValue "k" value) := by
  obtain ⟨values, unknown⟩ := nameless
  have unnamed : Side.ofName? (lower (values.headD "")) = none := by
    rw [Option.eq_none_iff_forall_ne_some]
    exact fun side found => unknown side ((Side.ofName?_eq_some _ side).mp found)
  simp only [fault?, sideFault?, unnamed]
  rfl

/-- Strictness makes no difference to any other tag. -/
theorem fault?_strict (tag : Tag) (named : ∀ value, ¬NamesNoSide tag value) :
    fault? true tag = fault? false tag := by
  unfold fault?
  split
  · rfl
  rename_i name values
  split
  · have known : ∃ side : Side, lower (values.headD "") = side.name := by
      by_contra nameless
      exact named _ (.intro values (not_exists.mp nameless))
    exact (sideFault?_eq_none _).mpr known
  all_goals rfl

theorem fault?_eq_none (tag : Tag) :
    fault? true tag = none ↔ (∀ value, ¬NamesNoSide tag value) ∧ ¬Unreadable tag := by
  constructor
  · intro sound
    have named : ∀ value, ¬NamesNoSide tag value := by
      intro value nameless
      rw [fault?_namesNoSide tag value nameless] at sound
      cases sound
    rw [fault?_strict tag named] at sound
    exact ⟨named, fun unreadable => (fault?_lenient tag).mpr unreadable sound⟩
  · rintro ⟨named, readable⟩
    rw [fault?_strict tag named]
    exact Decidable.not_not.mp (mt (fault?_lenient tag).mp readable)

def FirstNameless (tags : List Tag) (value : String) : Prop :=
  ∃ front tag back, tags = front ++ tag :: back ∧ NamesNoSide tag value ∧
    ∀ earlier ∈ front, (∀ other, ¬NamesNoSide earlier other) ∧ ¬Unreadable earlier

theorem findSome?_firstNameless (tags : List Tag) (value : String)
    (first : FirstNameless tags value) :
    tags.findSome? (fault? true) = some (.unknownValue "k" value) := by
  obtain ⟨front, tag, back, rfl, nameless, before⟩ := first
  rw [List.findSome?_eq_some_iff]
  refine ⟨front, tag, back, rfl, fault?_namesNoSide tag value nameless, ?_⟩
  exact fun earlier member => (fault?_eq_none earlier).mpr (before earlier member)

theorem findSome?_strict (tags : List Tag) (without : ∀ value, ¬FirstNameless tags value) :
    tags.findSome? (fault? true) = tags.findSome? (fault? false) := by
  induction tags with
  | nil => rfl
  | cons tag tags ih =>
      have named : ∀ value, ¬NamesNoSide tag value := fun value nameless =>
        without value ⟨[], tag, tags, rfl, nameless, List.forall_mem_nil _⟩
      rw [List.findSome?_cons, List.findSome?_cons, fault?_strict tag named]
      cases readable : fault? false tag with
      | some fault => rfl
      | none =>
          -- This tag has no fault of its own, so that what is first behind it is first of all.
          refine ih fun value later => ?_
          obtain ⟨front, other, back, rfl, nameless, before⟩ := later
          have here : ¬Unreadable tag := fun unreadable =>
            (fault?_lenient tag).mpr unreadable readable
          exact without value ⟨tag :: front, other, back, rfl, nameless,
            List.forall_mem_cons.mpr ⟨⟨named, here⟩, before⟩⟩

end Tag

namespace Order

variable (tags : List Tag)

theorem ofTags_firstNameless (value : String) (first : Tag.FirstNameless tags value) :
    ofTags true tags = .error (.unknownValue "k" value) := by
  rw [ofTags_eq, Tag.findSome?_firstNameless tags value first]

theorem ofTags_named (without : ∀ value, ¬Tag.FirstNameless tags value) :
    ofTags true tags = ofTags false tags := by
  rw [ofTags_eq, ofTags_eq, Tag.findSome?_strict tags without]

theorem sides_of_ofTags (order : Order) (read : ofTags true tags = .ok order)
    (values : List String) (member : "k" :: values ∈ tags) :
    ∃ side : Side, Tag.lower (values.headD "") = side.name := by
  rw [ofTags_eq] at read
  cases sound : tags.findSome? (Tag.fault? true) with
  | some fault =>
      rw [sound] at read
      cases read
  | none =>
      rw [← Tag.sideFault?_eq_none]
      exact List.findSome?_eq_none_iff.mp sound _ member

/-- Strict reading refuses the first tag that names no side, unless a tag in front of it cannot be
read, and ends as lenient reading does in every other case. So it reads those orders that lenient
reading does, from tags that all name a side. -/
theorem ofTags_strict :
    (∀ value, Tag.FirstNameless tags value →
      ofTags true tags = .error (.unknownValue "k" value)) ∧
    ((∀ value, ¬Tag.FirstNameless tags value) → ofTags true tags = ofTags false tags) ∧
    ∀ order, ofTags true tags = .ok order ↔
      ofTags false tags = .ok order ∧
        ∀ values, "k" :: values ∈ tags →
          ∃ side : Side, Tag.lower (values.headD "") = side.name := by
  refine ⟨ofTags_firstNameless tags, ofTags_named tags, ?_⟩
  intro order
  constructor
  · intro read
    have without : ∀ value, ¬Tag.FirstNameless tags value := by
      intro value first
      rw [ofTags_firstNameless tags value first] at read
      cases read
    exact ⟨ofTags_named tags without ▸ read, sides_of_ofTags tags order read⟩
  · rintro ⟨read, sides⟩
    have without : ∀ value, ¬Tag.FirstNameless tags value := by
      rintro value ⟨front, tag, back, rfl, ⟨values, unknown⟩, -⟩
      obtain ⟨side, named⟩ := sides values (List.mem_append_right _ List.mem_cons_self)
      exact unknown side named
    rw [ofTags_named tags without, read]

def swapped : List Tag :=
  [["d", "7f"], ["k", "SELL"], ["premium", "2"], ["k", "swap"], ["amt", "x"]]

theorem ofTags_strict_swapped :
    (Tag.FirstNameless swapped "swap" ∧
      ofTags true swapped = .error (.unknownValue "k" "swap") ∧
      ofTags false swapped = .error (.notInteger "amt" "x")) ∧
    ofTags true [["d", "7f"], ["k", "Buy"], ["f", "EUR"], ["pm", "cash"]] =
      .ok { id := "7f", side := some .buy, fiatCode := "EUR", paymentMethod := "cash" } := by
  have first : Tag.FirstNameless swapped "swap" := by
    refine ⟨swapped.take 3, ["k", "swap"], swapped.drop 4, rfl, .intro ["swap"] ?_, ?_⟩
    · intro side
      cases side <;> decide
    · simp only [← Tag.fault?_eq_none]
      decide +kernel
  refine ⟨⟨first, (ofTags_strict swapped).1 "swap" first, rfl⟩, ?_⟩
  refine ((ofTags_strict _).2.2 _).mpr ⟨rfl, ?_⟩
  intro values member
  have side : values = ["Buy"] := by simpa using member
  exact ⟨.buy, side ▸ rfl⟩

end Order

end TradeWire
