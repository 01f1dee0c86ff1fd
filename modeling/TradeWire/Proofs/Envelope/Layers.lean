import TradeWire.Inbox
import TradeWire.Proofs.Cipher.Nip44
import TradeWire.Proofs.Drawing
import TradeWire.Proofs.Event
import TradeWire.Proofs.Message
/-! The layers of a wrap: a rumor in a seal, and the seal in a wrap by a throwaway key. -/

namespace TradeWire

namespace Event

theorem digest_eq_ok (pubkey : String) (createdAt kind : Int) (tags : List Tag) (content : String)
    (hash : Bytes) (digested : digest pubkey createdAt kind tags content = .ok hash) :
    Number.fits createdAt ∧ Number.fits kind ∧ hash.length = 32 := by
  rw [digest] at digested
  split at digested
  · rename_i fits
    rw [Bool.and_eq_true] at fits
    cases digested
    exact ⟨fits.1, fits.2, Sha256.length_hash _⟩
  · cases digested

theorem unsignedFields_eq (event : Event) : event.unsignedFields = event.toFields.take 6 := by
  simp [unsignedFields, toFields]

theorem ofFields_unsignedFields (event : Event) (named : event.id ≠ "") :
    ofFields event.unsignedFields = .ok { event with signature := "" } := by
  rw [unsignedFields_eq]
  apply ofFields_of_readFrom
  constructor
  case named => exact named
  case kind => exact ⟨.int event.kind, by simp [toFields], rfl⟩
  all_goals simp [toFields, textOf, Json.toInt, Json.describe, tagsOfJson_tagsToJson]

theorem parse_unsignedFields (event : Event) (timeFits : Number.fits event.createdAt)
    (kindFits : Number.fits event.kind) :
    Json.parse (Json.render .spaced (.obj event.unsignedFields)) =
      .ok (.obj event.unsignedFields) := by
  have exact := everywhere_tagsToJson Json.isExact (fun _ => rfl) (fun _ => rfl) event.tags
  have keyed := everywhere_tagsToJson Json.hasDistinctKeys (fun _ => rfl) (fun _ => rfl) event.tags
  apply Json.parse_render _ Json.Style.separates_spaced
  · simp [unsignedFields_eq, toFields, Json.everywhere, Json.everyField, Json.isExact, exact]
  · simp [unsignedFields_eq, toFields, Json.everywhere, Json.everyField, Json.hasDistinctKeys,
      keyed]
  · simp [unsignedFields_eq, toFields, Json.writable, Json.writableFields, timeFits, kindFits,
      writable_tagsToJson]

end Event

theorem Bytes.toHex_ne_empty (bytes : Bytes) (nonempty : bytes.length ≠ 0) : bytes.toHex ≠ "" := by
  cases bytes with
  | nil => exact absurd rfl nonempty
  | cons byte bytes =>
      intro empty
      have chars := congrArg String.toList empty
      simp [toHex, Text.fixedHex] at chars

namespace Keys

theorem ofText_text (keys : Keys) : ofText keys.text = .ok keys := by
  rcases keys with ⟨text, scalar, publicKey, reads, derived⟩
  subst derived
  simp only [ofText]
  split
  · rename_i found alsoReads
    rw [reads] at alsoReads
    cases alsoReads
    rfl
  · rename_i unread
    rw [reads] at unread
    cases unread

theorem ofText_eq_ok (text : String) (keys : Keys) : ofText text = .ok keys ↔ keys.text = text := by
  constructor
  · intro accepted
    simp only [ofText] at accepted
    split at accepted
    · cases accepted
      rfl
    · cases accepted
  · rintro rfl
    exact ofText_text keys

theorem ofText_headD (throwaway : Keys) (texts : List String)
    (drawn : texts.head? = some throwaway.text) : ofText (texts.headD "") = .ok throwaway := by
  rw [List.headD_eq_head?_getD, drawn, Option.getD_some, ofText_text]

structure Issues (keys : Keys) (kind : Int) (tags : List Tag) (content : String)
    (createdAt : Int) (event : Event) : Prop where
  named : event.id ≠ ""
  author : event.pubkey = keys.publicKey
  dated : event.createdAt = createdAt
  sorted : event.kind = kind
  tagged : event.tags = tags
  filled : event.content = content
  timeFits : Number.fits event.createdAt
  kindFits : Number.fits event.kind

theorem rumor_issues (keys : Keys) (kind : Int) (tags : List Tag) (content : String)
    (createdAt : Int) (event : Event) (made : keys.rumor kind tags content createdAt = .ok event) :
    keys.Issues kind tags content createdAt event ∧ event.signature = "" := by
  rw [rumor] at made
  cases digested : Event.digest keys.publicKey createdAt kind tags content with
  | error fault =>
      rw [digested] at made
      cases made
  | ok hash =>
      rw [digested] at made
      cases made
      rcases Event.digest_eq_ok _ _ _ _ _ _ digested with ⟨timeFits, kindFits, length⟩
      have named := Bytes.toHex_ne_empty hash (by omega)
      exact ⟨⟨named, rfl, rfl, rfl, rfl, rfl, timeFits, kindFits⟩, rfl⟩

theorem signEvent_issues (keys : Keys) (kind : Int) (tags : List Tag) (content : String)
    (createdAt : Int) (event : Event)
    (made : keys.signEvent kind tags content createdAt = .ok event) :
    keys.Issues kind tags content createdAt event := by
  rw [signEvent] at made
  cases digested : Event.digest keys.publicKey createdAt kind tags content with
  | error fault =>
      rw [digested] at made
      cases made
  | ok hash =>
      rw [digested] at made
      cases made
      rcases Event.digest_eq_ok _ _ _ _ _ _ digested with ⟨timeFits, kindFits, length⟩
      have named := Bytes.toHex_ne_empty hash (by omega)
      exact ⟨named, rfl, rfl, rfl, rfl, rfl, timeFits, kindFits⟩

def rumorText (rumor : Event) : String := Json.render .spaced (.obj rumor.unsignedFields)

def sealText (sealed : Event) : String := Json.render .spaced sealed.toJson

def encryptWith (keys : Keys) (nonce : Bytes) (text recipient : String) :
    Except ValueFault String := do
  Nip44.encrypt (← keys.conversationKey recipient) nonce text

theorem encryptWith_eq_ok (keys : Keys) (nonce : Bytes) (text recipient payload : String) :
    keys.encryptWith nonce text recipient = .ok payload ↔
      ∃ key, keys.conversationKey recipient = .ok key ∧
        Nip44.encrypt key nonce text = .ok payload := by
  rw [encryptWith]
  cases keys.conversationKey recipient with
  | error fault =>
      constructor
      · intro done
        cases done
      · intro found
        rcases found with ⟨_, same, _⟩
        cases same
  | ok key =>
      constructor
      · intro done
        exact ⟨key, rfl, done⟩
      · intro found
        rcases found with ⟨_, same, done⟩
        cases same
        exact done

theorem gives_encrypt (keys : Keys) (text recipient payload : String) (before after : Supply) :
    (keys.encrypt text recipient).Gives before payload after ↔
      keys.encryptWith (before.nonces.headD []) text recipient = .ok payload ∧
        after = { before with nonces := before.nonces.tail } := by
  simp only [encrypt, Drawing.gives_bind, Drawing.gives_lift, Drawing.gives_nonce,
    encryptWith_eq_ok]
  constructor
  · intro found
    rcases found with ⟨key, _, ⟨keyed, rfl⟩, _, _, ⟨rfl, rfl⟩, done, rfl⟩
    exact ⟨⟨key, keyed, done⟩, rfl⟩
  · intro found
    rcases found with ⟨⟨key, keyed, done⟩, rfl⟩
    exact ⟨key, before, ⟨keyed, rfl⟩, _, _, ⟨rfl, rfl⟩, done, rfl⟩

structure Wrapping (keys : Keys) (recipient content : String) (createdAt : Option Int)
    (supply : Supply) (rumor sealed : Event) (throwaway : Keys) (wrapped : Event) : Prop where
  rumorMade : keys.rumor Event.rumorKind [] content (createdAt.getD supply.now) = .ok rumor
  sealFilled : keys.encryptWith (supply.nonces.headD []) (rumorText rumor) recipient =
    .ok sealed.content
  sealSigned : keys.signEvent Event.sealKind [] sealed.content
    (supply.now - supply.offsets.headD 0) = .ok sealed
  keyRead : ofText (supply.throwaway.headD "") = .ok throwaway
  wrapFilled : throwaway.encryptWith (supply.nonces.tail.headD []) (sealText sealed) recipient =
    .ok wrapped.content
  wrapSigned : throwaway.signEvent Event.giftWrapKind [["p", recipient]] wrapped.content
    (supply.now - supply.offsets.tail.headD 0) = .ok wrapped

theorem gives_wrap (keys : Keys) (recipient content : String) (createdAt : Option Int)
    (supply : Supply) (wrapped : Event) :
    (∃ after, (keys.wrap recipient content createdAt).Gives supply wrapped after) ↔
      ∃ rumor sealed throwaway,
        Wrapping keys recipient content createdAt supply rumor sealed throwaway wrapped := by
  simp only [wrap, Drawing.gives_bind, Drawing.gives_lift, Drawing.gives_now,
    Drawing.gives_key, Drawing.gives_pastTime, gives_encrypt]
  constructor
  · intro found
    rcases found with ⟨_, _, _, ⟨rfl, rfl⟩, rumor, _, ⟨made, rfl⟩, sealContent, _,
      ⟨enclosed, rfl⟩, _, _, ⟨rfl, rfl⟩, sealed, _, ⟨signed, rfl⟩, _, _, ⟨rfl, rfl⟩, throwaway, _,
      ⟨read, rfl⟩, wrapContent, _, ⟨hidden, rfl⟩, _, _, ⟨rfl, rfl⟩, issued, rfl⟩
    have sealFilled := (signEvent_issues _ _ _ _ _ _ signed).filled
    have wrapFilled := (signEvent_issues _ _ _ _ _ _ issued).filled
    subst sealFilled wrapFilled
    exact ⟨rumor, sealed, throwaway, made, enclosed, signed, read, hidden, issued⟩
  · intro found
    rcases found with ⟨rumor, sealed, throwaway, made⟩
    exact ⟨_, _, _, ⟨rfl, rfl⟩, rumor, _, ⟨made.rumorMade, rfl⟩, sealed.content, _,
      ⟨made.sealFilled, rfl⟩, _, _, ⟨rfl, rfl⟩, sealed, _, ⟨made.sealSigned, rfl⟩, _, _,
      ⟨rfl, rfl⟩, throwaway, _, ⟨made.keyRead, rfl⟩, wrapped.content, _,
      ⟨made.wrapFilled, rfl⟩, _, _, ⟨rfl, rfl⟩, made.wrapSigned, rfl⟩

theorem gives_wrapMessage (keys : Keys) (recipient : String) (message : Message)
    (createdAt : Option Int) (supply after : Supply) (wrapped : Event) :
    (keys.wrapMessage recipient message createdAt).Gives supply wrapped after ↔
      ∃ body, message.body = .ok body ∧
        (keys.wrap recipient (Message.signedText body (some (keys.signText body)))
          createdAt).Gives supply wrapped after := by
  simp only [wrapMessage, Drawing.gives_bind, Drawing.gives_lift]
  constructor
  · intro found
    rcases found with ⟨body, _, ⟨written, rfl⟩, given⟩
    exact ⟨body, written, given⟩
  · intro found
    rcases found with ⟨body, written, given⟩
    exact ⟨body, supply, ⟨written, rfl⟩, given⟩

end Keys

end TradeWire
