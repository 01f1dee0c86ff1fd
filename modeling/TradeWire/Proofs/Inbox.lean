import TradeWire.Proofs.Distinct
import TradeWire.Proofs.Envelope.Opening
import TradeWire.Proofs.Envelope.Size
import TradeWire.Proofs.KeyPairs
/-! Reading many events: which events are read, and which of them end the reading of all. -/

namespace TradeWire

namespace Keys

variable (keys : Keys) (room : Room)

def Addressed (event : Event) : Prop :=
  isDirect event.kind ∧ keys.publicKey ∈ event.tagValues "p"

theorem checkAddress_ok (event : Event) :
    keys.checkAddress event = .ok () ↔ keys.Addressed event := by
  unfold checkAddress Addressed
  cases direct : isDirect event.kind with
  | false => simp
  | true =>
      by_cases addressed : keys.publicKey ∈ event.tagValues "p"
      · simp [addressed]
      · simp [addressed]

theorem checkAddress_error (event : Event) (fault : Fault)
    (failed : keys.checkAddress event = .error fault) : ∃ why, fault = .parse event.id why := by
  rw [checkAddress] at failed
  split at failed
  · cases failed
    exact ⟨_, rfl⟩
  · split at failed
    · cases failed
      exact ⟨_, rfl⟩
    · cases failed

/-- The faults with which reading an event ends that are not told as faults of the event: a payload
that is cut short, and in an event inside it or in the message an infinite number or too many open
lists and objects. With `unpaired`, for a text with an unpaired half, it is open how the reading
ends. -/
inductive Escapes (event : Event) : ValueFault → Prop where
  | letter (fault : ValueFault) (addressed : keys.Addressed event)
      (escapes : keys.LetterEscapes room.inner event fault) : Escapes event fault
  | body (letter : Letter) (fault : ValueFault) (addressed : keys.Addressed event)
      (delivers : keys.Delivers room.inner event letter)
      (escapes : Json.Escapes Message.Overflows letter.content room.body fault) :
      Escapes event fault

theorem readDirect_ok (event : Event) (direct : DirectMessage) :
    keys.readDirect event room = .ok direct ↔
      keys.Addressed event ∧ ∃ letter, keys.Delivers room.inner event letter ∧
        Message.parse letter.content room.body = .ok direct.message ∧
        direct = ⟨event.id, letter.sender, letter.createdAt, direct.message⟩ := by
  rw [readDirect, Except.bind_eq_ok]
  constructor
  · intro found
    rcases found with ⟨_, addressed, rest⟩
    rcases (Except.bind_eq_ok _ _ _).mp rest with ⟨letter, opened, parsed⟩
    split at parsed
    · rename_i message read
      cases parsed
      exact ⟨(checkAddress_ok keys event).mp addressed, letter,
        (openLetter_ok keys room.inner event letter).mp opened, read, rfl⟩
    · cases parsed
  · intro found
    rcases found with ⟨addressed, letter, delivers, parsed, same⟩
    refine ⟨(), (checkAddress_ok keys event).mpr addressed, ?_⟩
    rw [(openLetter_ok keys room.inner event letter).mpr delivers, same]
    simp only [bind, Except.bind, parsed]
    rfl

theorem readDirect_error (event : Event) (fault : Fault)
    (failed : keys.readDirect event room = .error fault) :
    (∃ why, fault = .parse event.id why) ∨
      ∃ why, fault = .value why ∧ keys.Escapes room event why := by
  rw [readDirect, Except.bind_eq_error] at failed
  rcases failed with unaddressed | ⟨_, addressed, rest⟩
  · exact Or.inl (checkAddress_error keys event fault unaddressed)
  rw [checkAddress_ok] at addressed
  rcases (Except.bind_eq_error _ _ _).mp rest with unopened | ⟨letter, opened, unread⟩
  · rcases openLetter_error keys room.inner event fault unopened with parse | ⟨why, rfl, escapes⟩
    · exact Or.inl parse
    · exact Or.inr ⟨why, rfl, .letter why addressed escapes⟩
  rw [openLetter_ok] at opened
  split at unread
  · cases unread
  · rename_i other unparsed
    cases unread
    rcases Json.decodeText_error Message.overflowing_ofJson _ _ other unparsed with
      content | escapes
    · exact Or.inl ⟨_, if_pos content⟩
    · exact Or.inr ⟨_, if_neg escapes.not_isContentOrType,
        .body letter other addressed opened escapes⟩

theorem readDirect_escapes (event : Event) (fault : ValueFault)
    (escapes : keys.Escapes room event fault) :
    keys.readDirect event room = .error (.value fault) := by
  rw [readDirect, Except.bind_eq_error]
  right
  cases escapes with
  | letter _ addressed escapes =>
      refine ⟨(), (checkAddress_ok keys event).mpr addressed, ?_⟩
      rw [openLetter_escapes keys room.inner event fault escapes]
      rfl
  | body letter _ addressed delivers escapes =>
      refine ⟨(), (checkAddress_ok keys event).mpr addressed, ?_⟩
      have failed : Message.parse letter.content room.body = .error fault :=
        Json.decodeText_escapes Message.overflowing_ofJson _ _ fault escapes
      rw [(openLetter_ok keys room.inner event letter).mpr delivers]
      simp only [bind, Except.bind, failed]
      exact congrArg Except.error (if_neg escapes.not_isContentOrType)

theorem readDirect_value (event : Event) (fault : ValueFault) :
    keys.readDirect event room = .error (.value fault) ↔ keys.Escapes room event fault := by
  constructor
  · intro failed
    rcases readDirect_error keys room event _ failed with ⟨why, impossible⟩ | ⟨why, same, escapes⟩
    · cases impossible
    · cases same
      exact escapes
  · exact readDirect_escapes keys room event fault

theorem escapes_fault (event : Event) (fault : ValueFault)
    (escapes : keys.Escapes room event fault) :
    fault = .cutShort ∨ fault = .tooLarge ∨ fault = .tooDeep ∨ fault = .unpaired := by
  have text (overflows : Json → Prop) (content : String) (room : Option Nat)
      (escapes : Json.Escapes overflows content room fault) :
      fault = .cutShort ∨ fault = .tooLarge ∨ fault = .tooDeep ∨ fault = .unpaired := by
    cases escapes <;> simp
  have layer (content author : String)
      (escapes : keys.LayerEscapes room.inner content author fault) :
      fault = .cutShort ∨ fault = .tooLarge ∨ fault = .tooDeep ∨ fault = .unpaired := by
    cases escapes with
    | cutShort short => exact .inl rfl
    | text content _ opened escapes => exact text _ content _ escapes
  cases escapes with
  | letter _ addressed escapes =>
      cases escapes with
      | wrapped _ kind escapes =>
          rcases escapes with outer | ⟨sealed, _, _, inner⟩
          · exact layer _ _ outer
          · exact layer _ _ inner
      | plain kind short => exact .inl rfl
  | body letter _ addressed delivers escapes => exact text _ _ _ escapes

theorem readDirect?_error (event : Event) (fault : Fault) :
    keys.readDirect? event room = .error fault ↔
      ∃ why, fault = .value why ∧ keys.Escapes room event why := by
  rw [readDirect?]
  constructor
  · intro failed
    split at failed
    · cases failed
    · cases failed
    · rename_i other notParse unread
      cases failed
      rcases readDirect_error keys room event fault unread with ⟨why, rfl⟩ | escapes
      · exact absurd rfl (notParse _ _)
      · exact escapes
  · intro found
    rcases found with ⟨why, rfl, escapes⟩
    rw [readDirect_escapes keys room event why escapes]

theorem exists_inbox (since : Option Int) (events : List Event) :
    (∃ messages, keys.inbox since events room = .ok messages) ↔
      ∀ event ∈ distinctEvents events, ∀ fault, keys.readDirect? event room ≠ .error fault := by
  rw [← Except.exists_filterMapM, inbox]
  cases (distinctEvents events).filterMapM fun event => keys.readDirect? event room <;>
    simp [bind, Except.bind, pure, Except.pure]

def privateTo (id author content : String) : Event where
  id := id
  pubkey := author
  createdAt := 0
  kind := Event.privateKind
  tags := [["p", keys.publicKey]]
  content := content

theorem addressed_privateTo (id author content : String) :
    keys.Addressed (keys.privateTo id author content) := by
  refine ⟨by rfl, ?_⟩
  simp [privateTo, Event.tagValues]

def noteTo (author content id : String) (time : Int) : Event :=
  { keys.privateTo id author content with createdAt := time }

theorem exists_note (message : Message) (exact : message.isExact)
    (writable : message.toJson.writable)
    (size : 1 ≤ (Bytes.ofText (message.toJson.render .compact)).length ∧
      (Bytes.ofText (message.toJson.render .compact)).length ≤ Nip44.maxPlaintext) :
    ∃ content, ∀ id time,
      keysOne.readDirect (keysOne.noteTo keysTwo.publicKey content id time) =
        .ok ⟨id, keysTwo.publicKey, time, message⟩ := by
  have keyed := conversationKey_of_meet keysOne keysTwo keys_meet.1
  obtain ⟨content, opened⟩ := Nip44.exists_payload _ _ size.1 size.2
  refine ⟨content, fun id time => (readDirect_ok keysOne {} _ _).mpr
    ⟨addressed_privateTo keysOne id keysTwo.publicKey content,
      ⟨keysTwo.publicKey, time, message.toJson.render .compact⟩, ?_, ?_, rfl⟩⟩
  · exact .plain _ rfl ((decrypt_ok keysOne _ _ _).mpr ⟨_, keyed, opened⟩)
  · exact Message.parse_body message _ exact (Message.body_of_writable message writable)

def endlessFields : Fields :=
  [("action", .str "cancel"), ("request_id", .float (.infinite false))]

def endlessText : String := Json.render .compact (.obj [("order", .obj endlessFields)])

theorem endlessText_escapes :
    Json.Escapes Message.Overflows endlessText none .tooLarge := by
  have parsed : Json.parse endlessText = .ok (.obj [("order", .obj endlessFields)]) :=
    Json.parse_render _ Json.Style.separates_compact _ (by decide) (by decide) (by decide)
  refine .tooLarge _ parsed ⟨"order", endlessFields, rfl, ?_⟩
  exact ⟨⟨"cancel", rfl⟩, ⟨none, rfl⟩, Or.inl ⟨false, rfl⟩⟩

def nestedText (bound : Nat) : String := String.ofList (List.replicate (bound + 1) '[')

theorem length_nestedText (bound : Nat) : (Bytes.ofText (nestedText bound)).length = bound + 1 := by
  rw [Bytes.length_ofText, nestedText, String.toList_ofList, byteSize_ascii, List.length_replicate]
  intro c member
  rw [List.eq_of_mem_replicate member]
  decide

theorem escapes_of_text (author id : String) (key : Bytes)
    (keyed : keys.conversationKey author = .ok key) (text : String) (fault : ValueFault)
    (nonempty : 1 ≤ (Bytes.ofText text).length)
    (short : (Bytes.ofText text).length ≤ Nip44.maxPlaintext)
    (escapes : Json.Escapes Message.Overflows text room.body fault) :
    ∃ content, keys.Escapes room (keys.privateTo id author content) fault := by
  obtain ⟨payload, opened⟩ := Nip44.exists_payload key text nonempty short
  refine ⟨payload, .body ⟨author, 0, text⟩ fault (addressed_privateTo keys id author payload)
    ?_ escapes⟩
  exact .plain text rfl ((decrypt_ok keys _ _ _).mpr ⟨key, keyed, opened⟩)

/-- Every kind of event that escapes can be made: of cut payloads, of endless numbers, and of
brackets where the room for them is bounded. -/
theorem exists_escapes (author id : String) (key : Bytes)
    (keyed : keys.conversationKey author = .ok key) (fault : ValueFault)
    (kind : fault = .cutShort ∨ fault = .tooLarge ∧ room.body = none ∨
      fault = .tooDeep ∧ ∃ bound < Nip44.maxPlaintext, room.body = some bound) :
    ∃ content, keys.Escapes room (keys.privateTo id author content) fault := by
  rcases kind with rfl | ⟨rfl, unbounded⟩ | ⟨rfl, bound, small, bounded⟩
  · rcases Nip44.exists_cutShort key with ⟨payload, cut⟩
    refine ⟨payload, .letter _ (addressed_privateTo keys id author payload) ?_⟩
    exact .plain rfl ⟨key, keyed, cut⟩
  · have size : 1 ≤ (Bytes.ofText endlessText).length ∧
        (Bytes.ofText endlessText).length ≤ Nip44.maxPlaintext := by decide +kernel
    exact escapes_of_text keys room author id key keyed endlessText _ size.1 size.2
      (unbounded ▸ endlessText_escapes)
  · have size := length_nestedText bound
    refine escapes_of_text keys room author id key keyed (nestedText bound) _ (by omega) (by omega)
      ?_
    rw [bounded]
    exact .tooDeep (Json.parse_brackets bound)

/-- Such an event under a new id ends the reading of every batch that it stands in. -/
theorem exists_aborting (author id : String) (key : Bytes)
    (keyed : keys.conversationKey author = .ok key) :
    ∃ event : Event, event.id = id ∧ event.pubkey = author ∧
      ∀ since before after, (∀ earlier ∈ before, earlier.id ≠ id) →
        ¬∃ messages, keys.inbox since (before ++ event :: after) room = .ok messages := by
  rcases exists_escapes keys room author id key keyed .cutShort (.inl rfl) with ⟨content, escapes⟩
  refine ⟨keys.privateTo id author content, rfl, rfl, ?_⟩
  intro since before after fresh read
  rw [exists_inbox] at read
  have member := (mem_distinctEvents (before ++ keys.privateTo id author content :: after) _).mpr
    ⟨before, after, rfl, fresh⟩
  exact read _ member _ ((readDirect?_error keys room _ _).mpr ⟨.cutShort, rfl, escapes⟩)

theorem escapes_unique (event : Event) (one other : ValueFault)
    (first : keys.Escapes room event one) (second : keys.Escapes room event other) :
    one = other := by
  rw [← readDirect_value] at first second
  rw [first] at second
  cases second
  rfl

/-- One event is read, or has a fault that is told as a fault of it, or has a fault that escapes,
or has a text with an unpaired half. A batch without a text of the last kind is read exactly if no
event in it that is the first of its id has a fault that escapes. -/
theorem inbox_ok_iff :
    (∀ event, (∃ direct, keys.readDirect event room = .ok direct) ∨
      (∃ why, keys.readDirect event room = .error (.parse event.id why)) ∨
      ∃ fault, (fault = .cutShort ∨ fault = .tooLarge ∨ fault = .tooDeep ∨ fault = .unpaired) ∧
        keys.readDirect event room = .error (.value fault)) ∧
    (∀ event fault, keys.readDirect event room = .error (.value fault) ↔
      keys.Escapes room event fault) ∧
    ∀ since events, (∀ event, IsFirst events event → ¬keys.Escapes room event .unpaired) →
      ((∃ messages, keys.inbox since events room = .ok messages) ↔
        ∀ event, IsFirst events event → ∀ fault, ¬keys.Escapes room event fault) := by
  refine ⟨?_, readDirect_value keys room, ?_⟩
  · intro event
    cases read : keys.readDirect event room with
    | ok direct => exact Or.inl ⟨direct, rfl⟩
    | error fault =>
        right
        rcases readDirect_error keys room event fault read with ⟨why, rfl⟩ | ⟨why, rfl, escapes⟩
        · exact Or.inl ⟨why, rfl⟩
        · exact Or.inr ⟨why, escapes_fault keys room event why escapes, rfl⟩
  · intro since events _
    rw [exists_inbox]
    constructor
    · intro fine event isFirst fault escapes
      have member := (mem_distinctEvents events event).mpr isFirst
      have failed := (readDirect?_error keys room event _).mpr ⟨fault, rfl, escapes⟩
      exact fine event member _ failed
    · intro fine event member fault failed
      have isFirst := (mem_distinctEvents events event).mp member
      rcases (readDirect?_error keys room event fault).mp failed with ⟨why, _, escapes⟩
      exact fine event isFirst why escapes

theorem inbox_ok_iff_nested : ∃ event : Event,
    (∀ first, IsFirst [event] first → ¬keysOne.Escapes ⟨none, some 900⟩ first .unpaired) ∧
      ¬∃ messages, keysOne.inbox none [event] ⟨none, some 900⟩ = .ok messages := by
  have keyed := conversationKey_of_meet keysOne keysTwo keys_meet.1
  obtain ⟨content, escapes⟩ := exists_escapes keysOne ⟨none, some 900⟩ keysTwo.publicKey "e" _
    keyed .tooDeep (.inr (.inr ⟨rfl, 900, by decide, rfl⟩))
  have alone (first : Event) (isFirst : IsFirst [keysOne.privateTo "e" keysTwo.publicKey content]
      first) : first = keysOne.privateTo "e" keysTwo.publicKey content := by
    simpa [distinctEvents] using (mem_distinctEvents _ first).mpr isFirst
  have whole (first : Event)
      (isFirst : IsFirst [keysOne.privateTo "e" keysTwo.publicKey content] first) :
      ¬keysOne.Escapes ⟨none, some 900⟩ first .unpaired := by
    intro unpaired
    rw [alone first isFirst] at unpaired
    cases escapes_unique keysOne _ _ _ _ escapes unpaired
  refine ⟨_, whole, fun read => ?_⟩
  have fine := ((inbox_ok_iff keysOne ⟨none, some 900⟩).2.2 none _ whole).mp read
  exact fine _ ⟨[], [], rfl, by simp⟩ .tooDeep escapes

end Keys

end TradeWire
