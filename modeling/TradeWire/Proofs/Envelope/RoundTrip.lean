import TradeWire.Proofs.Envelope.Size
import TradeWire.Proofs.Inbox
import TradeWire.Proofs.KeyPairs
/-! A message that has been wrapped is read by its recipient as it was. -/

namespace TradeWire.Keys

theorem decrypt_encryptWith (author reader : Keys) (nonce : Bytes) (text payload : String)
    (whole : nonce.length = 32)
    (agreed : author.conversationKey reader.publicKey = reader.conversationKey author.publicKey)
    (done : author.encryptWith nonce text reader.publicKey = .ok payload) :
    reader.decrypt payload author.publicKey = .ok text := by
  rcases (encryptWith_eq_ok _ _ _ _ _).mp done with ⟨key, keyed, encrypted⟩
  apply (decrypt_ok reader _ _ _).mpr
  exact ⟨key, agreed ▸ keyed, Nip44.decrypt_encrypt key nonce text payload whole encrypted⟩

section Wrapped

variable (author reader throwaway : Keys) (createdAt : Option Int) (supply : Supply)
  (enough : 2 ≤ supply.nonces.length) (whole : ∀ nonce ∈ supply.nonces, nonce.length = 32)
  (sealKey : author.conversationKey reader.publicKey = reader.conversationKey author.publicKey)
  (wrapKey : throwaway.conversationKey reader.publicKey =
    reader.conversationKey throwaway.publicKey)
include enough whole sealKey wrapKey

theorem unwraps_of_wrapping (content : String) (rumor sealed wrapped : Event)
    (made : Wrapping author reader.publicKey content createdAt supply rumor sealed throwaway
      wrapped) : reader.Unwraps none wrapped sealed rumor := by
  rcases rumor_issues _ _ _ _ _ _ made.rumorMade with ⟨rumorIssued, unsigned⟩
  have sealIssued := signEvent_issues _ _ _ _ _ _ made.sealSigned
  have wrapIssued := signEvent_issues _ _ _ _ _ _ made.wrapSigned
  obtain ⟨first, second, others, nonces, firstWhole, secondWhole⟩ := supply.two_nonces enough whole
  have sealFilled := made.sealFilled
  have wrapFilled := made.wrapFilled
  rw [nonces] at sealFilled wrapFilled
  have wrapOpened := decrypt_encryptWith throwaway reader second _ _ secondWhole wrapKey wrapFilled
  have sealOpened := decrypt_encryptWith author reader first _ _ firstWhole sealKey sealFilled
  obtain ⟨sealParsed, sealFound⟩ := Event.ofJson_render _ Json.Style.separates_spaced sealed
    sealIssued.named sealIssued.timeFits sealIssued.kindFits
  have rumorParsed := Event.parse_unsignedFields rumor rumorIssued.timeFits rumorIssued.kindFits
  have rumorFound : Event.ofJson (.obj rumor.unsignedFields) = .ok rumor := by
    have found := Event.ofFields_unsignedFields rumor rumorIssued.named
    rw [← unsigned] at found
    exact found
  constructor
  · refine ⟨sealText sealed, wrapIssued.author ▸ wrapOpened, ?_⟩
    rw [Event.parse, Json.decodeText, sealText, sealParsed]
    exact sealFound
  · exact sealIssued.sorted
  · refine ⟨rumorText rumor, sealIssued.author ▸ sealOpened, ?_⟩
    rw [Event.parse, Json.decodeText, rumorText, rumorParsed]
    exact rumorFound
  · rw [rumorIssued.author, sealIssued.author]

theorem readDirect_of_wrapping (message : Message) (body : String) (rumor sealed wrapped : Event)
    (exact : message.isExact) (written : message.body = .ok body)
    (made : Wrapping author reader.publicKey
      (Message.signedText body (some (author.signText body))) createdAt supply rumor sealed
      throwaway wrapped) :
    reader.readDirect wrapped = .ok {
      eventId := wrapped.id, sender := author.publicKey,
      createdAt := createdAt.getD supply.now, message } := by
  rcases rumor_issues _ _ _ _ _ _ made.rumorMade with ⟨rumorIssued, _⟩
  have sealIssued := signEvent_issues _ _ _ _ _ _ made.sealSigned
  have wrapIssued := signEvent_issues _ _ _ _ _ _ made.wrapSigned
  have addressed : reader.Addressed wrapped := by
    refine ⟨by rw [wrapIssued.sorted]; rfl, ?_⟩
    simp [Event.tagValues, wrapIssued.tagged]
  have unwraps := unwraps_of_wrapping author reader throwaway createdAt supply enough whole
    sealKey wrapKey _ rumor sealed wrapped made
  have parsed := Message.parse_signedText message body (some (author.signText body)) exact written
  rw [← rumorIssued.filled] at parsed
  apply (readDirect_ok reader {} wrapped _).mpr
  refine ⟨addressed, _, .wrapped sealed rumor wrapIssued.sorted unwraps, parsed, ?_⟩
  rw [sealIssued.author, rumorIssued.dated]

end Wrapped

theorem wrapping_of_built (author reader throwaway : Keys) (message : Message)
    (createdAt : Option Int) (supply after : Supply) (wrapped : Event)
    (drawn : supply.throwaway.head? = some throwaway.text)
    (built : (author.wrapMessage reader.publicKey message createdAt).run.run supply =
      (.ok wrapped, after)) :
    ∃ body rumor sealed, message.body = .ok body ∧
      Wrapping author reader.publicKey (Message.signedText body (some (author.signText body)))
        createdAt supply rumor sealed throwaway wrapped := by
  rcases (gives_wrapMessage _ _ _ _ _ _ _).mp built with ⟨body, written, given⟩
  rcases (gives_wrap _ _ _ _ _ _).mp ⟨after, given⟩ with ⟨rumor, sealed, found, made⟩
  have same : found = throwaway := by
    have read := made.keyRead
    rw [ofText_headD throwaway _ drawn] at read
    cases read
    rfl
  subst same
  exact ⟨body, rumor, sealed, written, made⟩

def cancelRequest : Message where
  action := "cancel"
  id := some "3f"
  requestId := some 7
  payload := some [("text", .str "\n\"ö\" 🦀")]

def cancelSupply : Supply where
  nonces := [List.replicate 32 1, List.replicate 32 2]
  offsets := [60, 90]
  throwaway := [keysThree.text]

theorem writable_cancelRequest : cancelRequest.toJson.writable := by
  simp [cancelRequest, Message.toJson, Message.innerFields, Json.ofOption, Json.writable,
    Json.writableFields, Number.fits_of_lt]

theorem exists_wrapped (message : Message) (createdAt : Option Int)
    (timeFits : Number.fits (createdAt.getD cancelSupply.now))
    (writable : message.toJson.writable)
    (short : (message.toJson.render .compact).toList.length ≤ 3800) : ∃ wrapped after,
      (keysOne.wrapMessage keysTwo.publicKey message createdAt).run.run cancelSupply =
        (.ok wrapped, after) := by
  rcases keys_meet with ⟨oneTwo, _, threeTwo, _⟩
  have past : ∀ offset ∈ 0 :: cancelSupply.offsets, Number.fits (cancelSupply.now - offset) := by
    intro offset member
    simp only [cancelSupply, List.mem_cons, List.not_mem_nil, or_false] at member
    rcases member with rfl | rfl | rfl <;> exact Number.fits_of_lt _ (by decide)
  exact exists_wrapMessage keysOne keysThree keysTwo.publicKey createdAt cancelSupply _ _
    (by decide) (by decide) rfl (conversationKey_of_meet _ _ oneTwo)
    (conversationKey_of_meet _ _ threeTwo) timeFits past message writable short

theorem exists_cancel : ∃ wrapped after,
    (keysOne.wrapMessage keysTwo.publicKey cancelRequest (some 1700000000)).run.run cancelSupply =
      (.ok wrapped, after) :=
  exists_wrapped cancelRequest _ (Number.fits_of_lt _ (by decide)) writable_cancelRequest
    (by decide +kernel)

/-- A message that has been signed and wrapped is read by its recipient as it was, with its author
and its own time. -/
theorem readDirect_wrapMessage (author reader throwaway : Keys) (message : Message)
    (createdAt : Option Int) (supply after : Supply) (wrapped : Event)
    (exact : message.isExact)
    (enough : 2 ≤ supply.nonces.length) (whole : ∀ nonce ∈ supply.nonces, nonce.length = 32)
    (drawn : supply.throwaway.head? = some throwaway.text)
    (sealKey : author.conversationKey reader.publicKey = reader.conversationKey author.publicKey)
    (wrapKey : throwaway.conversationKey reader.publicKey =
      reader.conversationKey throwaway.publicKey)
    (built : (author.wrapMessage reader.publicKey message createdAt).run.run supply =
      (.ok wrapped, after)) :
    reader.readDirect wrapped = .ok {
      eventId := wrapped.id, sender := author.publicKey,
      createdAt := createdAt.getD supply.now, message } := by
  obtain ⟨body, rumor, sealed, written, made⟩ :=
    wrapping_of_built author reader throwaway message createdAt supply after wrapped drawn built
  exact readDirect_of_wrapping author reader throwaway createdAt supply enough whole sealKey
    wrapKey message body rumor sealed wrapped exact written made

theorem readDirect_wrapMessage_cancel : ∃ wrapped after,
    (keysOne.wrapMessage keysTwo.publicKey cancelRequest (some 1700000000)).run.run cancelSupply =
      (.ok wrapped, after) ∧
    keysTwo.readDirect wrapped =
      .ok ⟨wrapped.id, keysOne.publicKey, 1700000000, cancelRequest⟩ := by
  rcases keys_meet with ⟨oneTwo, twoOne, threeTwo, twoThree⟩
  rcases exists_cancel with ⟨wrapped, after, built⟩
  exact ⟨wrapped, after, built, readDirect_wrapMessage keysOne keysTwo keysThree cancelRequest
    (some 1700000000) cancelSupply after wrapped (by decide) (by decide) (by decide) rfl
    (agree_of_meet _ _ oneTwo twoOne) (agree_of_meet _ _ threeTwo twoThree) built⟩

end TradeWire.Keys
