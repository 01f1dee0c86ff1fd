import TradeWire.Proofs.Envelope.RoundTrip
/-! Who has sent a message: the holder of the key under which it was encrypted. -/

namespace TradeWire.Keys

/-- A message from a rumor inside a seal, both by its sender; the hash of the seal is right under
the key of the reader and the sender. -/
def FromSeal (keys : Keys) (event : Event) (direct : DirectMessage) : Prop :=
  ∃ wrapKey key sealText rumorText sealed rumor,
    keys.conversationKey event.pubkey = .ok wrapKey ∧
    Nip44.Holds wrapKey event.content sealText ∧ Event.parse sealText = .ok sealed ∧
    sealed.kind = Event.sealKind ∧ sealed.pubkey = direct.sender ∧
    keys.conversationKey direct.sender = .ok key ∧
    Nip44.Holds key sealed.content rumorText ∧ Event.parse rumorText = .ok rumor ∧
    rumor.pubkey = direct.sender ∧ rumor.createdAt = direct.createdAt ∧
    Message.parse rumor.content = .ok direct.message

def FromContent (keys : Keys) (event : Event) (direct : DirectMessage) : Prop :=
  ∃ key text, event.pubkey = direct.sender ∧ event.createdAt = direct.createdAt ∧
    keys.conversationKey direct.sender = .ok key ∧ Nip44.Holds key event.content text ∧
    Message.parse text = .ok direct.message

theorem holds_of_opened (keys : Keys) (content author text : String)
    (opened : keys.decrypt content author = .ok text) :
    ∃ key, keys.conversationKey author = .ok key ∧ Nip44.Holds key content text := by
  rcases (decrypt_ok keys content author text).mp opened with ⟨key, keyed, decrypted⟩
  exact ⟨key, keyed, Nip44.holds_of_decrypt key content text decrypted⟩

theorem fromSeal_of_unwraps (keys : Keys) (event sealed rumor : Event) (direct : DirectMessage)
    (made : keys.Unwraps none event sealed rumor) (author : direct.sender = sealed.pubkey)
    (time : direct.createdAt = rumor.createdAt)
    (parsed : Message.parse rumor.content = .ok direct.message) : keys.FromSeal event direct := by
  rcases made.sealFound with ⟨sealText, sealOpened, sealParsed⟩
  rcases made.rumorFound with ⟨rumorText, rumorOpened, rumorParsed⟩
  rcases holds_of_opened keys _ _ _ sealOpened with ⟨wrapKey, wrapKeyed, sealHeld⟩
  rcases holds_of_opened keys _ _ _ rumorOpened with ⟨key, keyed, rumorHeld⟩
  rw [← author] at keyed
  exact ⟨wrapKey, key, sealText, rumorText, sealed, rumor, wrapKeyed, sealHeld, sealParsed,
    made.sealKind, author.symm, keyed, rumorHeld, rumorParsed, made.sameAuthor.trans author.symm,
    time.symm, parsed⟩

/-- A message that is read is addressed to its reader, and was encrypted under the key that the
reader has with the sender it names. -/
theorem sender_of_readDirect (keys : Keys) (event : Event) (direct : DirectMessage)
    (kind : event.kind = Event.giftWrapKind ∨ event.kind = Event.privateKind)
    (read : keys.readDirect event = .ok direct) :
    keys.publicKey ∈ event.tagValues "p" ∧ direct.eventId = event.id ∧
      (event.kind = Event.giftWrapKind → keys.FromSeal event direct) ∧
      (event.kind = Event.privateKind → keys.FromContent event direct) := by
  rcases (readDirect_ok keys {} event direct).mp read with
    ⟨addressed, letter, delivers, parsed, same⟩
  refine ⟨addressed.2, by rw [same], ?_⟩
  cases delivers with
  | wrapped sealed rumor isWrap made =>
      constructor
      · intro _
        exact fromSeal_of_unwraps keys event sealed rumor direct made (by rw [same])
          (by rw [same]) parsed
      · intro isPrivate
        rw [isWrap] at isPrivate
        exact absurd isPrivate (by decide)
  | plain text isPrivate opened =>
      constructor
      · intro isWrap
        rw [isPrivate] at isWrap
        exact absurd isWrap (by decide)
      · intro _
        rcases holds_of_opened keys _ _ _ opened with ⟨key, keyed, held⟩
        have author : event.pubkey = direct.sender := by rw [same]
        rw [author] at keyed
        exact ⟨key, text, author, by rw [same], keyed, held, parsed⟩
  | legacy text noWrap noPrivate opened =>
      rcases kind with isWrap | isPrivate
      · exact absurd isWrap noWrap
      · exact absurd isPrivate noPrivate

theorem sender_of_readDirect_cancel : ∃ wrapped direct,
    keysTwo.readDirect wrapped = .ok direct ∧ direct.sender = keysOne.publicKey ∧
      keysTwo.FromSeal wrapped direct := by
  rcases keys_meet with ⟨oneTwo, twoOne, threeTwo, twoThree⟩
  rcases exists_cancel with ⟨wrapped, after, built⟩
  obtain ⟨body, rumor, sealed, written, made⟩ := wrapping_of_built keysOne keysTwo keysThree
    cancelRequest (some 1700000000) cancelSupply after wrapped rfl built
  have read := readDirect_of_wrapping keysOne keysTwo keysThree (some 1700000000) cancelSupply
    (by decide) (by decide) (agree_of_meet _ _ oneTwo twoOne) (agree_of_meet _ _ threeTwo twoThree)
    cancelRequest body rumor sealed wrapped (by decide) written made
  have kind := (signEvent_issues _ _ _ _ _ _ made.wrapSigned).sorted
  exact ⟨wrapped, _, read, rfl,
    (sender_of_readDirect keysTwo wrapped _ (Or.inl kind) read).2.2.1 kind⟩

end TradeWire.Keys
