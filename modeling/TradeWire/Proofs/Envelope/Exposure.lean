import TradeWire.Proofs.Curve.Secret
import TradeWire.Proofs.Envelope.RoundTrip
/-! What a wrap shows to those who cannot open it: its recipient, a time, and how long its rumor is
once it is padded. -/

namespace TradeWire.Keys

theorem rumor_plain (keys : Keys) (kind : Int) (tags : List Tag) (content : String)
    (createdAt : Int) (event : Event) (made : keys.rumor kind tags content createdAt = .ok event) :
    PlainText event.id 64 := by
  have issued := (rumor_issues _ _ _ _ _ _ made).1
  obtain ⟨found, alsoMade, plain⟩ := exists_rumor keys kind createdAt tags content
    (issued.dated ▸ issued.timeFits) (issued.sorted ▸ issued.kindFits)
  cases made.symm.trans alsoMade
  exact plain

theorem signEvent_plain (keys : Keys) (kind : Int) (tags : List Tag) (content : String)
    (createdAt : Int) (event : Event)
    (made : keys.signEvent kind tags content createdAt = .ok event) :
    PlainText event.id 64 ∧ PlainText event.signature 128 := by
  have issued := signEvent_issues _ _ _ _ _ _ made
  obtain ⟨found, alsoMade, plain⟩ := exists_signed keys kind createdAt tags content
    (issued.dated ▸ issued.timeFits) (issued.sorted ▸ issued.kindFits)
  cases made.symm.trans alsoMade
  exact plain

theorem byteSize_rumor (keys : Keys) (content : String) (createdAt : Int) (event : Event)
    (made : keys.rumor Event.rumorKind [] content createdAt = .ok event) :
    byteSize (rumorText event).toList =
      204 + byteSize (toString createdAt).toList + byteSize (Json.writeText false content) := by
  have issued := (rumor_issues _ _ _ _ _ _ made).1
  have plain := rumor_plain _ _ _ _ _ _ made
  have kind : byteSize (toString Event.rumorKind).toList = 1 := by decide
  have size := byteSize_rumorText event plain (issued.author ▸ publicKey_plain keys) issued.tagged
  rw [issued.dated, issued.sorted, issued.filled, kind] at size
  omega

theorem byteSize_seal (keys : Keys) (content : String) (createdAt : Int) (event : Event)
    (size : Nat) (filled : PlainText content size)
    (made : keys.signEvent Event.sealKind [] content createdAt = .ok event) :
    byteSize (sealText event).toList = 346 + byteSize (toString createdAt).toList + size := by
  have issued := signEvent_issues _ _ _ _ _ _ made
  have plain := signEvent_plain _ _ _ _ _ _ made
  have kind : byteSize (toString Event.sealKind).toList = 2 := by decide
  have whole := byteSize_sealText event plain.1 (issued.author ▸ publicKey_plain keys) plain.2
    issued.tagged
  rw [issued.dated, issued.sorted, issued.filled, kind, Json.byteSize_writeText_plain _ _ filled]
    at whole
  omega

def wrapLength (sealTime : Int) (rumorSize : Nat) : Nat :=
  Nip44.payloadLength
    (346 + byteSize (toString sealTime).toList + Nip44.payloadLength rumorSize)

/-- Only through its padded length does the size of a rumor count. -/
theorem wrapLength_congr (sealTime : Int) (size other : Nat)
    (same : Nip44.paddedLength size = Nip44.paddedLength other) :
    wrapLength sealTime size = wrapLength sealTime other := by
  have payloads : Nip44.payloadLength size = Nip44.payloadLength other := by
    rw [Nip44.payloadLength, Nip44.payloadLength, same]
  rw [wrapLength, wrapLength, payloads]

section Wrapped

variable (keys : Keys) (recipient content : String) (createdAt : Option Int) (supply : Supply)
  (enough : 2 ≤ supply.nonces.length) (whole : ∀ nonce ∈ supply.nonces, nonce.length = 32)
include enough whole

theorem length_of_wrapping (rumor sealed throwaway wrapped)
    (made : Wrapping keys recipient content createdAt supply rumor sealed throwaway wrapped) :
    wrapped.content.toList.length =
      wrapLength (supply.now - supply.offsets.headD 0) (Bytes.ofText (rumorText rumor)).length := by
  obtain ⟨first, second, others, nonces, firstWhole, secondWhole⟩ := supply.two_nonces enough whole
  have sealFilled := made.sealFilled
  have wrapFilled := made.wrapFilled
  rw [nonces] at sealFilled wrapFilled
  have sealPlain := encryptWith_plain keys first _ _ _ firstWhole sealFilled
  have wrapPlain := encryptWith_plain throwaway second _ _ _ secondWhole wrapFilled
  rw [byteSize_seal keys _ _ sealed _ sealPlain made.sealSigned] at wrapPlain
  rw [wrapPlain.length, Bytes.length_ofText, wrapLength]

end Wrapped

structure SameButNonces (first second : Supply) : Prop where
  now : first.now = second.now
  offsets : first.offsets.take 2 = second.offsets.take 2
  throwaway : first.throwaway.head? = second.throwaway.head?

theorem SameButNonces.drawn_offsets {first second : Supply} (same : SameButNonces first second) :
    first.offsets.headD 0 = second.offsets.headD 0 ∧
      first.offsets.tail.headD 0 = second.offsets.tail.headD 0 := by
  have nth (i : Nat) (early : i < 2) : first.offsets[i]? = second.offsets[i]? := by
    rw [← List.getElem?_take_of_lt early, same.offsets, List.getElem?_take_of_lt early]
  constructor
  · rw [List.headD_eq_head?_getD, List.head?_eq_getElem?, nth 0 (by decide),
      ← List.head?_eq_getElem?, ← List.headD_eq_head?_getD]
  · rw [List.headD_eq_head?_getD, List.head?_eq_getElem?, List.getElem?_tail, nth 1 (by decide),
      ← List.getElem?_tail, ← List.head?_eq_getElem?, ← List.headD_eq_head?_getD]

/-- Two wraps for one recipient, by whomever and of whatever, show the same key, kind, tags and time
if their supplies differ in nothing but nonces. Their contents have the same length if their rumors
are padded to the same length. -/
theorem wrap_shows_padded_length (author other : Keys) (recipient content otherContent : String)
    (createdAt otherCreatedAt : Option Int) (supply otherSupply after otherAfter : Supply)
    (wrapped otherWrapped : Event) (same : SameButNonces supply otherSupply)
    (enough : 2 ≤ supply.nonces.length) (otherEnough : 2 ≤ otherSupply.nonces.length)
    (whole : ∀ nonce ∈ supply.nonces, nonce.length = 32)
    (otherWhole : ∀ nonce ∈ otherSupply.nonces, nonce.length = 32)
    (made : (author.wrap recipient content createdAt).run.run supply = (.ok wrapped, after))
    (otherMade : (other.wrap recipient otherContent otherCreatedAt).run.run otherSupply =
      (.ok otherWrapped, otherAfter)) :
    wrapped.pubkey = otherWrapped.pubkey ∧ wrapped.kind = otherWrapped.kind ∧
      wrapped.tags = otherWrapped.tags ∧ wrapped.createdAt = otherWrapped.createdAt ∧
      ∃ rumor otherRumor,
        author.rumor Event.rumorKind [] content (createdAt.getD supply.now) = .ok rumor ∧
        other.rumor Event.rumorKind [] otherContent (otherCreatedAt.getD otherSupply.now) =
          .ok otherRumor ∧
        (Nip44.paddedLength (Bytes.ofText (rumorText rumor)).length =
            Nip44.paddedLength (Bytes.ofText (rumorText otherRumor)).length →
          wrapped.content.toList.length = otherWrapped.content.toList.length) := by
  rcases (gives_wrap _ _ _ _ _ _).mp ⟨after, made⟩ with ⟨rumor, sealed, throwaway, layers⟩
  rcases (gives_wrap _ _ _ _ _ _).mp ⟨otherAfter, otherMade⟩ with
    ⟨otherRumor, otherSealed, otherThrowaway, otherLayers⟩
  have issued := signEvent_issues _ _ _ _ _ _ layers.wrapSigned
  have otherIssued := signEvent_issues _ _ _ _ _ _ otherLayers.wrapSigned
  have sameKey : throwaway = otherThrowaway := by
    have read := layers.keyRead
    rw [List.headD_eq_head?_getD, same.throwaway, ← List.headD_eq_head?_getD,
      otherLayers.keyRead] at read
    cases read
    rfl
  rcases same.drawn_offsets with ⟨sealOffset, wrapOffset⟩
  refine ⟨?_, ?_, ?_, ?_, rumor, otherRumor, layers.rumorMade, otherLayers.rumorMade, ?_⟩
  · rw [issued.author, otherIssued.author, sameKey]
  · rw [issued.sorted, otherIssued.sorted]
  · rw [issued.tagged, otherIssued.tagged]
  · rw [issued.dated, otherIssued.dated, same.now, wrapOffset]
  · intro padded
    rw [length_of_wrapping _ _ _ _ _ enough whole _ _ _ _ layers,
      length_of_wrapping _ _ _ _ _ otherEnough otherWhole _ _ _ _ otherLayers, same.now, sealOffset]
    exact wrapLength_congr _ _ _ padded

def plainSupply (nonce : Nat) : Supply where
  nonces := [List.replicate 32 (.ofNat nonce), List.replicate 32 (.ofNat (nonce + 1))]
  offsets := [60, 90]
  throwaway := [keysThree.text]

theorem exists_plain (keys : Keys) (nonce : Nat) (content : String) (createdAt : Int)
    (meet : keys.Meet keysTwo) (short : content.toList.length ≤ 4000)
    (timeFits : Number.fits createdAt) :
    ∃ wrapped after, (keys.wrap keysTwo.publicKey content (some createdAt)).run.run
      (plainSupply nonce) = (.ok wrapped, after) := by
  rcases keys_meet with ⟨_, _, threeTwo, _⟩
  have past : ∀ offset ∈ 0 :: (plainSupply nonce).offsets,
      Number.fits ((plainSupply nonce).now - offset) := by
    intro offset member
    simp only [plainSupply, List.mem_cons, List.not_mem_nil, or_false] at member ⊢
    rcases member with rfl | rfl | rfl <;> exact Number.fits_of_lt _ (by decide)
  exact exists_wrap keys keysThree keysTwo.publicKey (some createdAt) (plainSupply nonce) _ _
    (Nat.le_refl 2) (by simp [plainSupply]) rfl (conversationKey_of_meet _ _ meet)
    (conversationKey_of_meet _ _ threeTwo) timeFits past content short

/-- One letter and two crabs, by two authors, are not told apart by what their wraps show. -/
theorem wrap_shows_padded_length_crabs : ∃ wrapped otherWrapped after otherAfter,
    (keysOne.wrap keysTwo.publicKey "a" (some 1700000000)).run.run (plainSupply 1) =
      (.ok wrapped, after) ∧
    (keysThree.wrap keysTwo.publicKey "🦀🦀" (some 1600000000)).run.run (plainSupply 3) =
      (.ok otherWrapped, otherAfter) ∧
    wrapped.pubkey = otherWrapped.pubkey ∧ wrapped.createdAt = otherWrapped.createdAt ∧
    wrapped.content.toList.length = otherWrapped.content.toList.length := by
  rcases keys_meet with ⟨oneTwo, _, threeTwo, _⟩
  rcases exists_plain keysOne 1 "a" 1700000000 oneTwo (by decide)
    (Number.fits_of_lt _ (by decide)) with ⟨wrapped, after, made⟩
  rcases exists_plain keysThree 3 "🦀🦀" 1600000000 threeTwo (by decide)
    (Number.fits_of_lt _ (by decide)) with ⟨otherWrapped, otherAfter, otherMade⟩
  rcases wrap_shows_padded_length keysOne keysThree keysTwo.publicKey "a" "🦀🦀"
    (some 1700000000) (some 1600000000) (plainSupply 1) (plainSupply 3) after otherAfter wrapped
    otherWrapped ⟨rfl, rfl, rfl⟩ (by decide) (by decide) (by decide) (by decide) made otherMade
    with ⟨author, _, _, dated, rumor, otherRumor, rumorMade, otherRumorMade, sameLength⟩
  have size := byteSize_rumor _ _ _ _ rumorMade
  have otherSize := byteSize_rumor _ _ _ _ otherRumorMade
  have padded : Nip44.paddedLength (Bytes.ofText (rumorText rumor)).length =
      Nip44.paddedLength (Bytes.ofText (rumorText otherRumor)).length := by
    rw [Bytes.length_ofText, Bytes.length_ofText, size, otherSize]
    decide
  exact ⟨wrapped, otherWrapped, after, otherAfter, made, otherMade, author, dated,
    sameLength padded⟩

end TradeWire.Keys
