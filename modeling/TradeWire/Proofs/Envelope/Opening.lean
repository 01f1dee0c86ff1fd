import TradeWire.Inbox
import TradeWire.Proofs.Cipher.Faults
import TradeWire.Proofs.Overflow
/-! What a key finds in an event, layer by layer, and the faults that no layer takes in. -/

namespace TradeWire.Keys

variable (keys : Keys) (room : Option Nat)

def OpensShort (content author : String) : Prop :=
  ∃ key, keys.conversationKey author = .ok key ∧ Nip44.CutShort key content

theorem decrypt_ok (content author text : String) :
    keys.decrypt content author = .ok text ↔
      ∃ key, keys.conversationKey author = .ok key ∧ Nip44.decrypt key content = .ok text := by
  rw [decrypt, Except.bind_eq_ok]

theorem decrypt_error (content author : String) (fault : ValueFault)
    (failed : keys.decrypt content author = .error fault) :
    fault.isContent ∨ fault = .cutShort ∧ keys.OpensShort content author := by
  rcases (Except.bind_eq_error _ _ _).mp failed with unkeyed | ⟨key, keyed, locked⟩
  · rw [Nip44.conversationKey_error _ _ fault unkeyed]
    exact Or.inl rfl
  · rcases Nip44.decrypt_error key content fault locked with content | ⟨rfl, short⟩
    · exact Or.inl content
    · exact Or.inr ⟨rfl, key, keyed, short⟩

theorem decrypt_cutShort (content author : String) (short : keys.OpensShort content author) :
    keys.decrypt content author = .error .cutShort := by
  rcases short with ⟨key, keyed, short⟩
  rw [decrypt, keyed]
  exact (Nip44.decrypt_cutShort key content).mpr short

def Finds (content author : String) (event : Event) : Prop :=
  ∃ text, keys.decrypt content author = .ok text ∧ Event.parse text room = .ok event

/-- The faults of a layer that are neither faults of a content nor of a shape. -/
inductive LayerEscapes (content author : String) : ValueFault → Prop where
  | cutShort (short : keys.OpensShort content author) : LayerEscapes content author .cutShort
  | text (text : String) (fault : ValueFault) (opened : keys.decrypt content author = .ok text)
      (escapes : Json.Escapes Event.Overflows text room fault) : LayerEscapes content author fault

theorem openInner_decrypted (eventId content author text : String)
    (opened : keys.decrypt content author = .ok text) :
    keys.openInner eventId content author room =
      match Event.parse text room with
      | .ok event => .ok event
      | .error fault =>
          .error (if fault.isContentOrShape then .parse eventId (.content (.innerEvent fault))
            else .value fault) := by
  simp only [openInner, opened]
  rfl

theorem openInner_ok (eventId content author : String) (event : Event) :
    keys.openInner eventId content author room = .ok event ↔
      keys.Finds room content author event := by
  constructor
  · intro found
    cases opened : keys.decrypt content author with
    | error fault =>
        simp only [openInner, opened] at found
        cases found
    | ok text =>
        rw [openInner_decrypted keys room eventId content author text opened] at found
        split at found
        · rename_i inner parsed
          cases found
          exact ⟨text, opened, parsed⟩
        · cases found
  · intro found
    rcases found with ⟨text, opened, parsed⟩
    rw [openInner_decrypted keys room eventId content author text opened, parsed]

theorem openInner_error (eventId content author : String) (fault : Fault)
    (failed : keys.openInner eventId content author room = .error fault) :
    (∃ why, fault = .parse eventId why) ∨
      ∃ why, fault = .value why ∧ keys.LayerEscapes room content author why := by
  cases opened : keys.decrypt content author with
  | error other =>
      simp only [openInner, opened] at failed
      cases failed
      rcases decrypt_error keys content author other opened with content | ⟨rfl, short⟩
      · exact Or.inl ⟨_, if_pos content⟩
      · exact Or.inr ⟨_, if_neg (by decide), .cutShort short⟩
  | ok text =>
      rw [openInner_decrypted keys room eventId content author text opened] at failed
      split at failed
      · cases failed
      · rename_i other parsed
        cases failed
        rcases Json.decodeText_error Event.overflowing_ofJson text room other parsed with
          content | escapes
        · exact Or.inl ⟨_, if_pos content⟩
        · exact Or.inr ⟨_, if_neg escapes.not_isContentOrShape, .text text other opened escapes⟩

theorem openInner_escapes (eventId content author : String) (fault : ValueFault)
    (escapes : keys.LayerEscapes room content author fault) :
    keys.openInner eventId content author room = .error (.value fault) := by
  cases escapes with
  | cutShort short =>
      simp only [openInner, decrypt_cutShort keys content author short]
      rfl
  | text text _ opened escapes =>
      have failed : Event.parse text room = .error fault :=
        Json.decodeText_escapes Event.overflowing_ofJson text room fault escapes
      rw [openInner_decrypted keys room eventId content author text opened, failed]
      exact congrArg Except.error (if_neg escapes.not_isContentOrShape)

structure Unwraps (event sealed rumor : Event) : Prop where
  sealFound : keys.Finds room event.content event.pubkey sealed
  sealKind : sealed.kind = Event.sealKind
  rumorFound : keys.Finds room sealed.content sealed.pubkey rumor
  sameAuthor : rumor.pubkey = sealed.pubkey

theorem unwrap_ok (event rumor : Event) (sender : String) :
    keys.unwrap event room = .ok (rumor, sender) ↔
      ∃ sealed, keys.Unwraps room event sealed rumor ∧ sender = sealed.pubkey := by
  rw [unwrap, Except.bind_eq_ok]
  constructor
  · intro found
    rcases found with ⟨sealed, outer, rest⟩
    rw [openInner_ok] at outer
    split at rest
    · cases rest
    rename_i kind
    rcases (Except.bind_eq_ok _ _ _).mp rest with ⟨found, inner, checked⟩
    rw [openInner_ok] at inner
    split at checked
    · cases checked
    rename_i author
    cases checked
    exact ⟨sealed, ⟨outer, Decidable.of_not_not kind, inner, Decidable.of_not_not author⟩, rfl⟩
  · intro found
    rcases found with ⟨sealed, made, rfl⟩
    refine ⟨sealed, (openInner_ok keys room _ _ _ _).mpr made.sealFound, ?_⟩
    rw [if_neg (not_not_intro made.sealKind), Except.bind_eq_ok]
    refine ⟨rumor, (openInner_ok keys room _ _ _ _).mpr made.rumorFound, ?_⟩
    rw [if_neg (not_not_intro made.sameAuthor)]
    rfl

def WrapEscapes (event : Event) (fault : ValueFault) : Prop :=
  keys.LayerEscapes room event.content event.pubkey fault ∨
    ∃ sealed, keys.Finds room event.content event.pubkey sealed ∧ sealed.kind = Event.sealKind ∧
      keys.LayerEscapes room sealed.content sealed.pubkey fault

theorem unwrap_error (event : Event) (fault : Fault)
    (failed : keys.unwrap event room = .error fault) :
    (∃ why, fault = .parse event.id why) ∨
      ∃ why, fault = .value why ∧ keys.WrapEscapes room event why := by
  rw [unwrap, Except.bind_eq_error] at failed
  rcases failed with outer | ⟨sealed, outer, rest⟩
  · rcases openInner_error keys room _ _ _ fault outer with parse | ⟨why, rfl, escapes⟩
    · exact Or.inl parse
    · exact Or.inr ⟨why, rfl, Or.inl escapes⟩
  rw [openInner_ok] at outer
  split at rest
  · cases rest
    exact Or.inl ⟨_, rfl⟩
  rename_i kind
  rcases (Except.bind_eq_error _ _ _).mp rest with inner | ⟨rumor, _, unchecked⟩
  · rcases openInner_error keys room _ _ _ fault inner with parse | ⟨why, rfl, escapes⟩
    · exact Or.inl parse
    · exact Or.inr ⟨why, rfl, Or.inr ⟨sealed, outer, Decidable.of_not_not kind, escapes⟩⟩
  · split at unchecked
    · cases unchecked
      exact Or.inl ⟨_, rfl⟩
    · cases unchecked

theorem unwrap_escapes (event : Event) (fault : ValueFault)
    (escapes : keys.WrapEscapes room event fault) :
    keys.unwrap event room = .error (.value fault) := by
  rw [unwrap, Except.bind_eq_error]
  rcases escapes with outer | ⟨sealed, found, kind, inner⟩
  · exact Or.inl (openInner_escapes keys room _ _ _ fault outer)
  · right
    refine ⟨sealed, (openInner_ok keys room _ _ _ _).mpr found, ?_⟩
    rw [if_neg (not_not_intro kind), openInner_escapes keys room _ _ _ fault inner]
    rfl

inductive Delivers (event : Event) : Letter → Prop where
  | wrapped (sealed rumor : Event) (kind : event.kind = Event.giftWrapKind)
      (made : keys.Unwraps room event sealed rumor) :
      Delivers event ⟨sealed.pubkey, rumor.createdAt, rumor.content⟩
  | plain (text : String) (kind : event.kind = Event.privateKind)
      (opened : keys.decrypt event.content event.pubkey = .ok text) :
      Delivers event ⟨event.pubkey, event.createdAt, text⟩
  | legacy (text : String) (noWrap : event.kind ≠ Event.giftWrapKind)
      (noPrivate : event.kind ≠ Event.privateKind)
      (opened : keys.decryptLegacy event.content event.pubkey = .ok text) :
      Delivers event ⟨event.pubkey, event.createdAt, text⟩

theorem openContent_ok (eventId text : String) (outcome : Except ValueFault String) :
    openContent eventId outcome = .ok text ↔ outcome = .ok text := by
  cases outcome <;> simp [openContent]

theorem openLetter_ok (event : Event) (letter : Letter) :
    keys.openLetter event room = .ok letter ↔ keys.Delivers room event letter := by
  rw [openLetter]
  constructor
  · intro opened
    split at opened
    · rename_i kind
      rcases (Except.bind_eq_ok _ _ _).mp opened with ⟨⟨rumor, sender⟩, unwrapped, same⟩
      rcases (unwrap_ok keys room _ _ _).mp unwrapped with ⟨sealed, made, rfl⟩
      cases same
      exact .wrapped sealed rumor kind made
    rename_i noWrap
    split at opened
    · rename_i kind
      rcases (Except.bind_eq_ok _ _ _).mp opened with ⟨text, found, same⟩
      cases same
      exact .plain text kind ((openContent_ok _ _ _).mp found)
    · rename_i noPrivate
      rcases (Except.bind_eq_ok _ _ _).mp opened with ⟨text, found, same⟩
      cases same
      exact .legacy text noWrap noPrivate ((openContent_ok _ _ _).mp found)
  · intro delivers
    cases delivers with
    | wrapped sealed rumor kind made =>
        rw [if_pos kind, (unwrap_ok keys room _ _ _).mpr ⟨sealed, made, rfl⟩]
        rfl
    | plain text kind opened =>
        have noWrap : event.kind ≠ Event.giftWrapKind := by
          rw [kind]
          decide
        rw [if_neg noWrap, if_pos kind, opened]
        rfl
    | legacy text noWrap noPrivate opened =>
        rw [if_neg noWrap, if_neg noPrivate, opened]
        rfl

/-- The faults with which opening an event ends that are not told as faults of the event. -/
inductive LetterEscapes (event : Event) : ValueFault → Prop where
  | wrapped (fault : ValueFault) (kind : event.kind = Event.giftWrapKind)
      (escapes : keys.WrapEscapes room event fault) : LetterEscapes event fault
  | plain (kind : event.kind = Event.privateKind)
      (short : keys.OpensShort event.content event.pubkey) : LetterEscapes event .cutShort

theorem openLetter_error (event : Event) (fault : Fault)
    (failed : keys.openLetter event room = .error fault) :
    (∃ why, fault = .parse event.id why) ∨
      ∃ why, fault = .value why ∧ keys.LetterEscapes room event why := by
  rw [openLetter] at failed
  split at failed
  · rename_i kind
    rcases (Except.bind_eq_error _ _ _).mp failed with unopened | ⟨_, _, impossible⟩
    · rcases unwrap_error keys room event fault unopened with parse | ⟨why, rfl, escapes⟩
      · exact Or.inl parse
      · exact Or.inr ⟨why, rfl, .wrapped why kind escapes⟩
    · cases impossible
  split at failed
  · rename_i kind
    rcases (Except.bind_eq_error _ _ _).mp failed with unopened | ⟨_, _, impossible⟩
    · cases locked : keys.decrypt event.content event.pubkey with
      | ok text =>
          rw [locked] at unopened
          cases unopened
      | error other =>
          rw [locked] at unopened
          cases unopened
          rcases decrypt_error keys _ _ other locked with content | ⟨rfl, short⟩
          · exact Or.inl ⟨_, if_pos content⟩
          · exact Or.inr ⟨_, rfl, .plain kind short⟩
    · cases impossible
  · rcases (Except.bind_eq_error _ _ _).mp failed with unopened | ⟨_, _, impossible⟩
    · cases locked : keys.decryptLegacy event.content event.pubkey with
      | ok text =>
          rw [locked] at unopened
          cases unopened
      | error other =>
          rw [locked] at unopened
          cases unopened
          exact Or.inl ⟨_, if_pos (Nip04.decrypt_error _ _ _ other locked)⟩
    · cases impossible

theorem openLetter_escapes (event : Event) (fault : ValueFault)
    (escapes : keys.LetterEscapes room event fault) :
    keys.openLetter event room = .error (.value fault) := by
  rw [openLetter]
  cases escapes with
  | wrapped fault kind escapes =>
      rw [if_pos kind, unwrap_escapes keys room event _ escapes]
      rfl
  | plain kind short =>
      have noWrap : event.kind ≠ Event.giftWrapKind := by
        rw [kind]
        decide
      rw [if_neg noWrap, if_pos kind, decrypt_cutShort keys _ _ short]
      rfl

end TradeWire.Keys
