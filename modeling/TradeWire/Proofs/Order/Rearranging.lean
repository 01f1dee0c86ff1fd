import TradeWire.Proofs.Order.Reading
/-! Tags are read alike in every order, with any other tags among them, if no name comes twice. -/

namespace TradeWire

namespace Tag

def names : List String := ["d", "k", "f", "s", "amt", "fa", "pm", "premium"]

def Silent (tag : Tag) : Prop := ∀ name ∈ names, tag.head? ≠ some name

/-- Tags in another order, with silent ones put in or left out. -/
inductive Rearranges : List Tag → List Tag → Prop where
  | permute (tags others : List Tag) (permuted : tags.Perm others) : Rearranges tags others
  | insert (front back : List Tag) (tag : Tag) (silent : tag.Silent) :
      Rearranges (front ++ back) (front ++ tag :: back)
  | delete (front back : List Tag) (tag : Tag) (silent : tag.Silent) :
      Rearranges (front ++ tag :: back) (front ++ back)
  | trans (tags middle others : List Tag) (first : Rearranges tags middle)
      (second : Rearranges middle others) : Rearranges tags others

def named (name : String) (tags : List Tag) : List Tag :=
  tags.filter fun tag => tag.head? = some name

def Single (tags : List Tag) : Prop := ∀ name ∈ names, (named name tags).length ≤ 1

theorem named_silent (name : String) (known : name ∈ names) (front back : List Tag) (tag : Tag)
    (silent : tag.Silent) : named name (front ++ tag :: back) = named name (front ++ back) := by
  have other : tag.head? ≠ some name := silent name known
  simp [named, other]

theorem named_rearranges (name : String) (known : name ∈ names) (tags others : List Tag)
    (rearranges : Rearranges tags others) : (named name tags).Perm (named name others) := by
  induction rearranges with
  | permute tags others permuted => exact permuted.filter _
  | insert front back tag silent => rw [named_silent name known front back tag silent]
  | delete front back tag silent => rw [named_silent name known front back tag silent]
  | trans tags middle others first second one two => exact one.trans two

theorem lastValues?_eq (name : String) (tags : List Tag) :
    lastValues? name tags = (named name tags).getLast?.map List.tail := by
  rw [lastValues?, named, List.getLast?_filter]

section Rearranged

variable (tags others : List Tag) (rearranges : Rearranges tags others)

include rearranges

/-- One tag of a name has only one place among the tags of its name. -/
theorem lastValues?_rearranges (single : Single tags) (name : String) (known : name ∈ names) :
    lastValues? name tags = lastValues? name others := by
  have kept := named_rearranges name known tags others rearranges
  have few := single name known
  have same : named name tags = named name others := by
    match found : named name tags with
    | [] => exact (found ▸ kept).nil_eq
    | [tag] => exact (found ▸ kept).singleton_eq
    | _ :: _ :: _ =>
        rw [found] at few
        simp at few
  rw [lastValues?_eq, lastValues?_eq, same]

theorem mem_rearranges (tag : Tag) (telling : ¬tag.Silent) : tag ∈ tags ↔ tag ∈ others := by
  simp only [Silent, not_forall, not_not] at telling
  obtain ⟨name, known, head⟩ := telling
  have kept := (named_rearranges name known tags others rearranges).mem_iff (a := tag)
  simpa [named, head] using kept

end Rearranged

theorem fault?_silent (strict : Bool) (tag : Tag) (silent : tag.Silent) :
    fault? strict tag = none := by
  unfold fault?
  split
  · rfl
  rename_i name values
  have foreign (known : String) (member : known ∈ names) : name ≠ known := by
    rintro rfl
    exact silent name member rfl
  split
  · exact absurd rfl (foreign "k" (by decide))
  · exact absurd rfl (foreign "amt" (by decide))
  · exact absurd rfl (foreign "premium" (by decide))
  · exact absurd rfl (foreign "fa" (by decide))
  · rfl

end Tag

namespace Order

section Rearranged

variable (tags others : List Tag) (rearranges : Tag.Rearranges tags others)

include rearranges

theorem findSome?_rearranges (strict : Bool) :
    tags.findSome? (Tag.fault? strict) = none ↔ others.findSome? (Tag.fault? strict) = none := by
  have same (tag : Tag) (faulty : Tag.fault? strict tag ≠ none) : tag ∈ tags ↔ tag ∈ others :=
    Tag.mem_rearranges tags others rearranges tag fun silent =>
      faulty (Tag.fault?_silent strict tag silent)
  simp only [List.findSome?_eq_none_iff]
  constructor
  · intro sound tag member
    by_contra faulty
    exact faulty (sound tag ((same tag faulty).mpr member))
  · intro sound tag member
    by_contra faulty
    exact faulty (sound tag ((same tag faulty).mp member))

theorem told_rearranges (single : Tag.Single tags) :
    told tags = told others ∧ lacking? tags = lacking? others := by
  have last := Tag.lastValues?_rearranges tags others rearranges single
  have same : told tags = told others := by
    simp only [told, Tag.lastValues, last "d" (by decide), last "k" (by decide),
      last "f" (by decide), last "s" (by decide), last "amt" (by decide), last "fa" (by decide),
      last "pm" (by decide), last "premium" (by decide)]
  refine ⟨same, ?_⟩
  simp only [lacking?, same, ← Tag.lastValues?_eq_none, last "fa" (by decide)]

end Rearranged

/-- Tags in another order, with silent ones put in or left out, are read as the same order, or no
order is read from either. -/
theorem ofTags_rearranges (strict : Bool) (tags others : List Tag) (single : Tag.Single tags)
    (rearranges : Tag.Rearranges tags others) :
    (∃ order, ofTags strict tags = .ok order ∧ ofTags strict others = .ok order) ∨
      ∃ fault other, ofTags strict tags = .error fault ∧ ofTags strict others = .error other := by
  have sound := findSome?_rearranges tags others rearranges strict
  have told := told_rearranges tags others rearranges single
  rw [ofTags_eq, ofTags_eq]
  cases one : tags.findSome? (Tag.fault? strict) with
  | none =>
      rw [sound.mp one, told.1, told.2]
      cases lacking? others with
      | none => exact .inl ⟨_, rfl, rfl⟩
      | some name => exact .inr ⟨_, _, rfl, rfl⟩
  | some fault =>
      cases two : others.findSome? (Tag.fault? strict) with
      | none =>
          rw [sound.mpr two] at one
          cases one
      | some other => exact .inr ⟨fault, other, rfl, rfl⟩

def offered : List Tag :=
  [["d", "7f"], ["k", "sell"], ["f", "EUR"], ["s", "active"], ["amt", "21000"], ["fa", "5", "10"],
    ["pm", "sepa", "cash"], ["premium", "-2"]]

def offeredBack : List Tag := [] :: ["y", "mostro"] :: offered.reverse

theorem ofTags_rearranges_offered : Tag.Single offered ∧ Tag.Rearranges offered offeredBack ∧
    ∃ order, ofTags true offered = .ok order ∧ ofTags true offeredBack = .ok order := by
  have single : Tag.Single offered := by
    simp only [Tag.Single]
    decide
  have rearranges : Tag.Rearranges offered offeredBack := by
    refine .trans _ offered.reverse _ (.permute _ _ offered.reverse_perm.symm) ?_
    refine .trans _ (["y", "mostro"] :: offered.reverse) _ (.insert [] _ _ ?_) (.insert [] _ _ ?_)
    · simp only [Tag.Silent]
      decide
    · simp only [Tag.Silent]
      decide
  refine ⟨single, rearranges, ?_⟩
  rcases ofTags_rearranges true offered offeredBack single rearranges with same | ⟨_, _, failed, -⟩
  · exact same
  · have read : (ofTags true offered).isOk = true := by decide +kernel
    rw [failed] at read
    cases read

end Order

end TradeWire
