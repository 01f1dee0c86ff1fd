import TradeWire.Proofs.Envelope.RoundTrip
import TradeWire.Proofs.Hex
import TradeWire.Proofs.Json.Delimited
/-! An id stands for all that an event says, as far as a hash stands for a text. -/

namespace TradeWire

theorem Bytes.ofText_inj (one other : String) (same : ofText one = ofText other) : one = other := by
  have read := toText_ofText one
  rw [same, toText_ofText] at read
  exact (Option.some.inj read).symm

theorem Bytes.toHex_inj (one other : Bytes) (same : one.toHex = other.toHex) : one = other := by
  have read := readHex_toHex one
  rw [same, readHex_toHex] at read
  exact (Option.some.inj read).symm

def Sha256.Collide (one other : Bytes) : Prop := one ≠ other ∧ hash one = hash other

namespace Event

def committed (event : Event) : String :=
  commitmentText event.pubkey event.createdAt event.kind event.tags event.content

/-- Two events that say the same, whatever their ids and signatures are. -/
structure SaysSame (one other : Event) : Prop where
  pubkey : one.pubkey = other.pubkey
  createdAt : one.createdAt = other.createdAt
  kind : one.kind = other.kind
  tags : one.tags = other.tags
  content : one.content = other.content

def Identified (event : Event) : Prop :=
  ∃ hash, digest event.pubkey event.createdAt event.kind event.tags event.content = .ok hash ∧
    event.id = hash.toHex

theorem delimited_tagsToJson : Json.Delimited .literal tagsToJson :=
  Json.delimited_list Json.Style.separates_literal
    (Json.delimited_list Json.Style.separates_literal (Json.delimited_str .literal))

theorem toList_committed (event : Event) :
    event.committed.toList = '[' :: '0' :: ',' :: (Json.writeText false event.pubkey ++
      ',' :: ((toString event.createdAt).toList ++ ',' :: ((toString event.kind).toList ++
      ',' :: (Json.write .literal (tagsToJson event.tags) ++
      ',' :: (Json.writeText false event.content ++ [']']))))) := by
  have zero : (Int.repr 0).toList = ['0'] := by decide
  simp [committed, commitmentText, commitment, Json.render, Json.write, Json.writeItems,
    Json.Style.literal, zero]

/-- The fields are read off one after the other: each ends where the characters say. -/
theorem saysSame_of_committed (one other : Event) (same : one.committed = other.committed) :
    one.SaysSame other := by
  have chars := congrArg String.toList same
  simp only [toList_committed, List.cons.injEq, true_and] at chars
  obtain ⟨pubkey, chars⟩ := Json.writeText_append_inj false _ _ _ _ chars
  obtain ⟨createdAt, chars⟩ := Json.toString_append_inj _ _ rfl rfl _ _ (List.cons.inj chars).2
  obtain ⟨kind, chars⟩ := Json.toString_append_inj _ _ rfl rfl _ _ (List.cons.inj chars).2
  obtain ⟨tags, chars⟩ := delimited_tagsToJson.apart _ _ _ _ (List.cons.inj chars).2
  obtain ⟨content, -⟩ := Json.writeText_append_inj false _ _ _ _ (List.cons.inj chars).2
  exact ⟨pubkey, createdAt, kind, tags, content⟩

theorem committed_eq_iff (one other : Event) :
    one.committed = other.committed ↔ one.SaysSame other := by
  constructor
  · exact saysSame_of_committed one other
  · intro same
    rw [committed, committed, same.pubkey, same.createdAt, same.kind, same.tags, same.content]

theorem id_of_identified (event : Event) (identified : event.Identified) :
    event.id = (Sha256.hash (Bytes.ofText event.committed)).toHex := by
  obtain ⟨hash, digested, named⟩ := identified
  rw [digest] at digested
  split at digested
  · cases digested
    exact named
  · cases digested

theorem identified_rumor (keys : Keys) (kind : Int) (tags : List Tag) (content : String)
    (createdAt : Int) (event : Event) (made : keys.rumor kind tags content createdAt = .ok event) :
    event.Identified := by
  rw [Keys.rumor, Except.bind_eq_ok] at made
  obtain ⟨hash, digested, same⟩ := made
  cases same
  exact ⟨hash, digested, rfl⟩

theorem identified_signEvent (keys : Keys) (kind : Int) (tags : List Tag) (content : String)
    (createdAt : Int) (event : Event)
    (made : keys.signEvent kind tags content createdAt = .ok event) : event.Identified := by
  rw [Keys.signEvent, Except.bind_eq_ok] at made
  obtain ⟨hash, digested, same⟩ := made
  cases same
  exact ⟨hash, digested, rfl⟩

theorem saysSame_or_collide (one other : Event) (oneIdentified : one.Identified)
    (otherIdentified : other.Identified) (same : one.id = other.id) :
    one.SaysSame other ∨
      Sha256.Collide (Bytes.ofText one.committed) (Bytes.ofText other.committed) := by
  rw [id_of_identified one oneIdentified, id_of_identified other otherIdentified] at same
  have hashed := Bytes.toHex_inj _ _ same
  by_cases texts : one.committed = other.committed
  · exact .inl (saysSame_of_committed one other texts)
  · exact .inr ⟨fun bytes => texts (Bytes.ofText_inj _ _ bytes), hashed⟩

/-- The texts that are hashed for two events are equal only if the events say the same. So two
events that are made under one id say the same, or else their two texts have one hash. -/
theorem id_exact (one other : Event) :
    (one.committed = other.committed ↔ one.SaysSame other) ∧
    (one.Identified → other.Identified → one.id = other.id →
      one.SaysSame other ∨
        Sha256.Collide (Bytes.ofText one.committed) (Bytes.ofText other.committed)) ∧
    ∀ (keys : Keys) (kind : Int) (tags : List Tag) (content : String) (createdAt : Int),
      keys.rumor kind tags content createdAt = .ok one ∨
        keys.signEvent kind tags content createdAt = .ok one → one.Identified := by
  refine ⟨committed_eq_iff one other, saysSame_or_collide one other, ?_⟩
  intro keys kind tags content createdAt made
  rcases made with made | made
  · exact identified_rumor keys kind tags content createdAt one made
  · exact identified_signEvent keys kind tags content createdAt one made

def markedNote (signature : String) : Event :=
  let tags := [["p", "],["]]
  let content := "\",\n["
  { id := (Sha256.hash (Bytes.ofText
      (commitmentText Keys.keysOne.publicKey 1700000000 1 tags content))).toHex
    pubkey := Keys.keysOne.publicKey, createdAt := 1700000000, kind := 1, tags, content, signature }

theorem id_exact_markedNote :
    Keys.keysOne.rumor 1 [["p", "],["]] "\",\n[" 1700000000 = .ok (markedNote "") ∧
    (markedNote "").Identified ∧ (markedNote "00").Identified ∧
    ((markedNote "").SaysSame (markedNote "00") ∨
      Sha256.Collide (Bytes.ofText (markedNote "").committed)
        (Bytes.ofText (markedNote "00").committed)) := by
  have fits : (Number.fits 1700000000 && Number.fits 1) = true := by decide +kernel
  have made : Keys.keysOne.rumor 1 [["p", "],["]] "\",\n[" 1700000000 = .ok (markedNote "") := by
    rw [Keys.rumor, digest, if_pos fits]
    rfl
  have other : (markedNote "00").Identified := ⟨_, if_pos fits, rfl⟩
  obtain ⟨_, collide, identified⟩ := id_exact (markedNote "") (markedNote "00")
  have bare := identified Keys.keysOne 1 _ _ 1700000000 (.inl made)
  exact ⟨made, bare, other, collide bare other rfl⟩

end Event

end TradeWire
