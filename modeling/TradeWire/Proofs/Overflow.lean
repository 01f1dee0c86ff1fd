import TradeWire.Proofs.Event
import TradeWire.Proofs.Message
import TradeWire.Proofs.Outcome
/-! Texts from which events and messages are not read for a fault other than those of content and
shape: those with an infinite number, and those that are not read at all. -/

namespace TradeWire

theorem Json.present?_eq_some (raw : Option Json) (value : Json) :
    present? raw = some value ↔ raw = some value ∧ value ≠ .null := by
  rcases raw with _ | found
  · simp [present?]
  · cases found <;> simp +contextual [present?, eq_comm]

theorem Json.present?_eq_none (raw : Option Json) :
    present? raw = none ↔ ∀ value, raw = some value → value = .null := by
  rcases raw with _ | found
  · simp [present?]
  · cases found <;> simp [present?]

theorem Json.toInt_error (value : Json) (fault : ValueFault) (failed : value.toInt = .error fault) :
    fault.isContentOrType ∨
      fault = .tooLarge ∧ ∃ negative, value = .float (.infinite negative) := by
  cases value with
  | null | arr items | obj fields =>
      cases failed
      exact Or.inl rfl
  | bool value | int value => cases failed
  | str text =>
      rw [toInt, intOfText] at failed
      split at failed
      · cases failed
      · cases failed
        exact Or.inl rfl
  | float value =>
      rw [toInt] at failed
      cases value with
      | nan =>
          cases failed
          exact Or.inl rfl
      | infinite negative =>
          cases failed
          exact Or.inr ⟨rfl, negative, rfl⟩
      | finite negative mantissa exponent =>
          simp only [intOfDouble] at failed
          split at failed
          · cases failed
          · cases failed
            exact Or.inl rfl

theorem Json.toInt_tooLarge (value : Json) :
    value.toInt = .error .tooLarge ↔ ∃ negative, value = .float (.infinite negative) := by
  constructor
  · intro failed
    rcases toInt_error value _ failed with content | ⟨_, infinite⟩
    · cases content
    · exact infinite
  · rintro ⟨negative, rfl⟩
    rfl

def Fields.HasInfinite (fields : Fields) (key : String) : Prop :=
  ∃ negative, fields.get? key = some (.float (.infinite negative))

theorem Fields.getD_error (fields : Fields) (key : String) (default : Int) (fault : ValueFault)
    (failed : ((fields.get? key).getD (.int default)).toInt = .error fault) :
    fault.isContentOrType ∨ fault = .tooLarge ∧ HasInfinite fields key := by
  rcases Json.toInt_error _ fault failed with content | ⟨rfl, negative, infinite⟩
  · exact Or.inl content
  · right
    refine ⟨rfl, negative, ?_⟩
    cases found : fields.get? key with
    | none =>
        rw [found] at infinite
        cases infinite
    | some value =>
        rw [found] at infinite
        exact congrArg some infinite

theorem Fields.getD_infinite (fields : Fields) (key : String) (default : Int)
    (infinite : HasInfinite fields key) :
    ((fields.get? key).getD (.int default)).toInt = .error .tooLarge := by
  rcases infinite with ⟨negative, found⟩
  rw [found]
  rfl

theorem ValueFault.isContentOrShape_of_isContentOrType (fault : ValueFault)
    (content : fault.isContentOrType) : fault.isContentOrShape := by
  cases fault <;> first | rfl | cases content

namespace Json

section Reading

variable {α : Type} (decode : Json → Except ValueFault α)

def decodeText (text : String) (room : Option Nat) : Except ValueFault α :=
  match parse text room with
  | .ok value => decode value
  | .error fault => .error fault.asValue

structure Overflowing (known : ValueFault → Prop) (overflows : Json → Prop) : Prop where
  malformed : known .malformed
  decode_error : ∀ value fault, decode value = .error fault →
    known fault ∨ fault = .tooLarge ∧ overflows value
  decode_overflow : ∀ value, overflows value → decode value = .error .tooLarge

/-- The faults of reading a text and a value from it that are of no known kind. With `unpaired` it
is open how the reading ends. -/
inductive Escapes (overflows : Json → Prop) (text : String) (room : Option Nat) :
    ValueFault → Prop where
  | tooLarge (value : Json) (parsed : parse text room = .ok value) (large : overflows value) :
      Escapes overflows text room .tooLarge
  | tooDeep (failed : parse text room = .error .tooDeep) : Escapes overflows text room .tooDeep
  | unpaired (failed : parse text room = .error .unpaired) : Escapes overflows text room .unpaired

variable {decode} {known : ValueFault → Prop} {overflows : Json → Prop}

theorem Escapes.not_isContentOrShape {text : String} {room : Option Nat} {fault : ValueFault}
    (escapes : Escapes overflows text room fault) : ¬fault.isContentOrShape := by
  cases escapes <;> decide

theorem Escapes.not_isContentOrType {text : String} {room : Option Nat} {fault : ValueFault}
    (escapes : Escapes overflows text room fault) : ¬fault.isContentOrType := by
  cases escapes <;> decide

variable (overflowing : Overflowing decode known overflows) (text : String) (room : Option Nat)

include overflowing

theorem decodeText_error (fault : ValueFault)
    (failed : decodeText decode text room = .error fault) :
    known fault ∨ Escapes overflows text room fault := by
  rw [decodeText] at failed
  split at failed
  · rename_i value parsed
    rcases overflowing.decode_error value fault failed with content | ⟨rfl, large⟩
    · exact .inl content
    · exact .inr (.tooLarge value parsed large)
  · rename_i other unread
    cases failed
    cases other with
    | syntaxError | tooLong | undecodable => exact .inl overflowing.malformed
    | tooDeep => exact .inr (.tooDeep unread)
    | unpaired => exact .inr (.unpaired unread)

theorem decodeText_escapes (fault : ValueFault) (escapes : Escapes overflows text room fault) :
    decodeText decode text room = .error fault := by
  rw [decodeText]
  cases escapes with
  | tooLarge value parsed large =>
      rw [parsed]
      exact overflowing.decode_overflow value large
  | tooDeep failed | unpaired failed =>
      rw [failed]
      rfl

end Reading

end Json

namespace Event

def FieldsOverflow (fields : Fields) : Prop :=
  (∃ id, idOf fields = .ok id) ∧
    (fields.HasInfinite "created_at" ∨
      (∃ time, timeOf fields = .ok time) ∧ fields.HasInfinite "kind")

theorem idOf_error (fields : Fields) (fault : ValueFault) (failed : idOf fields = .error fault) :
    fault.isContentOrShape := by
  rw [idOf] at failed
  split at failed
  · cases failed
    rfl
  · split at failed
    · cases failed
      rfl
    · cases failed
  · cases failed
    rfl

theorem kindOf_error (fields : Fields) (fault : ValueFault)
    (failed : kindOf fields = .error fault) :
    fault.isContentOrShape ∨ fault = .tooLarge ∧ fields.HasInfinite "kind" := by
  rw [kindOf] at failed
  split at failed
  · cases failed
    exact Or.inl rfl
  · rename_i kind found
    rcases Json.toInt_error kind fault failed with content | ⟨rfl, negative, rfl⟩
    · exact Or.inl (fault.isContentOrShape_of_isContentOrType content)
    · exact Or.inr ⟨rfl, negative, found⟩

theorem tagsOfJson_error (value : Json) (fault : ValueFault)
    (failed : tagsOfJson value = .error fault) : fault = .wrongType := by
  have single (item : Json) (found : ValueFault) (failed : tagOfJson item = .error found) :
      found = .wrongType := by
    cases item <;> cases failed <;> rfl
  have every (items : List Json) (failed : items.mapM tagOfJson = .error fault) :
      fault = .wrongType := by
    induction items with
    | nil => cases failed
    | cons item items ih =>
        simp only [List.mapM_cons, Except.bind_eq_error, pure, Except.pure, reduceCtorEq, and_false,
          exists_const, or_false] at failed
        rcases failed with first | ⟨_, _, others⟩
        · exact single item fault first
        · exact ih others
  cases value with
  | arr items => exact every items failed
  | null | bool _ | int _ | float _ | str _ | obj _ => cases failed <;> rfl

theorem ofFields_error (fields : Fields) (fault : ValueFault)
    (failed : ofFields fields = .error fault) :
    fault.isContentOrShape ∨ fault = .tooLarge ∧ FieldsOverflow fields := by
  simp only [ofFields_eq, Except.bind_eq_error, pure, Except.pure, reduceCtorEq, and_false,
    exists_const, or_false] at failed
  rcases failed with idFailed | ⟨id, named, timeFailed | ⟨time, timed, kindFailed |
    ⟨kind, _, tagsFailed⟩⟩⟩
  · exact Or.inl (idOf_error fields fault idFailed)
  · rcases Fields.getD_error fields _ _ fault timeFailed with content | ⟨rfl, infinite⟩
    · exact Or.inl (fault.isContentOrShape_of_isContentOrType content)
    · exact Or.inr ⟨rfl, ⟨id, named⟩, Or.inl infinite⟩
  · rcases kindOf_error fields fault kindFailed with content | ⟨rfl, infinite⟩
    · exact Or.inl content
    · exact Or.inr ⟨rfl, ⟨id, named⟩, Or.inr ⟨⟨time, timed⟩, infinite⟩⟩
  · rw [tagsOfJson_error _ fault tagsFailed]
    exact Or.inl rfl

theorem ofFields_overflow (fields : Fields) (overflows : FieldsOverflow fields) :
    ofFields fields = .error .tooLarge := by
  rcases overflows with ⟨⟨id, named⟩, infinite | ⟨⟨time, timed⟩, negative, infinite⟩⟩
  · have failed : timeOf fields = .error .tooLarge := Fields.getD_infinite fields _ _ infinite
    rw [ofFields_eq, named, failed]
    rfl
  · have failed : kindOf fields = .error .tooLarge := by
      rw [kindOf, infinite]
      rfl
    rw [ofFields_eq, named, timed, failed]
    rfl

def parse (text : String) (room : Option Nat := none) : Except ValueFault Event :=
  Json.decodeText ofJson text room

def Overflows (value : Json) : Prop := ∃ fields, value = .obj fields ∧ FieldsOverflow fields

theorem overflowing_ofJson : Json.Overflowing ofJson (·.isContentOrShape) Overflows where
  malformed := rfl
  decode_error value fault failed := by
    cases value with
    | obj fields =>
        rcases ofFields_error fields fault failed with content | ⟨rfl, overflows⟩
        · exact Or.inl content
        · exact Or.inr ⟨rfl, fields, rfl, overflows⟩
    | null | bool _ | int _ | float _ | str _ | arr _ =>
        cases failed
        exact Or.inl rfl
  decode_overflow value overflows := by
    rcases overflows with ⟨fields, rfl, overflows⟩
    exact ofFields_overflow fields overflows

end Event

namespace Message

def FieldsOverflow (fields : Fields) : Prop :=
  (∃ action, actionOf fields = .ok action) ∧ (∃ payload, payloadOf fields = .ok payload) ∧
    (fields.HasInfinite "request_id" ∨
      (∃ requestId, optionalInt fields "request_id" = .ok requestId) ∧
        (fields.HasInfinite "trade_index" ∨
          (∃ tradeIndex, optionalInt fields "trade_index" = .ok tradeIndex) ∧
            fields.HasInfinite "version"))

theorem actionOf_error (fields : Fields) (fault : ValueFault)
    (failed : actionOf fields = .error fault) : fault.isContentOrType := by
  rw [actionOf] at failed
  split at failed
  · cases failed
  · cases failed
    rfl

theorem payloadOf_error (fields : Fields) (fault : ValueFault)
    (failed : payloadOf fields = .error fault) : fault.isContentOrType := by
  rw [payloadOf] at failed
  split at failed
  · cases failed
  · cases failed
  · cases failed
    rfl

theorem optionalInt_error (fields : Fields) (key : String) (fault : ValueFault)
    (failed : optionalInt fields key = .error fault) :
    fault.isContentOrType ∨ fault = .tooLarge ∧ fields.HasInfinite key := by
  rw [optionalInt] at failed
  split at failed
  · cases failed
  · rename_i value found
    have present := ((Json.present?_eq_some _ _).mp found).1
    cases read : value.toInt with
    | ok n =>
        rw [read] at failed
        cases failed
    | error other =>
        rw [read] at failed
        cases failed
        rcases Json.toInt_error value fault read with content | ⟨rfl, negative, rfl⟩
        · exact Or.inl content
        · exact Or.inr ⟨rfl, negative, present⟩

theorem optionalInt_infinite (fields : Fields) (key : String) (infinite : fields.HasInfinite key) :
    optionalInt fields key = .error .tooLarge := by
  rcases infinite with ⟨negative, found⟩
  rw [optionalInt, found]
  rfl

theorem ofInner_error (kind : String) (fields : Fields) (fault : ValueFault)
    (failed : ofInner kind fields = .error fault) :
    fault.isContentOrType ∨ fault = .tooLarge ∧ FieldsOverflow fields := by
  simp only [ofInner_eq, Except.bind_eq_error, pure, Except.pure, reduceCtorEq, and_false,
    exists_const, or_false] at failed
  rcases failed with actionFailed | ⟨action, acted, payloadFailed | ⟨payload, paid,
    requestFailed | ⟨requestId, requested, tradeFailed | ⟨tradeIndex, traded, versionFailed⟩⟩⟩⟩
  · exact Or.inl (actionOf_error fields fault actionFailed)
  · exact Or.inl (payloadOf_error fields fault payloadFailed)
  · rcases optionalInt_error fields _ fault requestFailed with content | ⟨rfl, infinite⟩
    · exact Or.inl content
    · exact Or.inr ⟨rfl, ⟨action, acted⟩, ⟨payload, paid⟩, Or.inl infinite⟩
  · rcases optionalInt_error fields _ fault tradeFailed with content | ⟨rfl, infinite⟩
    · exact Or.inl content
    · exact Or.inr ⟨rfl, ⟨action, acted⟩, ⟨payload, paid⟩,
        Or.inr ⟨⟨requestId, requested⟩, Or.inl infinite⟩⟩
  · rcases Fields.getD_error fields _ _ fault versionFailed with content | ⟨rfl, infinite⟩
    · exact Or.inl content
    · exact Or.inr ⟨rfl, ⟨action, acted⟩, ⟨payload, paid⟩,
        Or.inr ⟨⟨requestId, requested⟩, Or.inr ⟨⟨tradeIndex, traded⟩, infinite⟩⟩⟩

theorem ofInner_overflow (kind : String) (fields : Fields) (overflows : FieldsOverflow fields) :
    ofInner kind fields = .error .tooLarge := by
  rcases overflows with ⟨⟨action, acted⟩, ⟨payload, paid⟩, infinite⟩
  rw [ofInner_eq, acted, paid]
  rcases infinite with request | ⟨⟨requestId, requested⟩, trade | ⟨⟨tradeIndex, traded⟩, version⟩⟩
  · rw [optionalInt_infinite fields _ request]
    rfl
  · rw [requested, optionalInt_infinite fields _ trade]
    rfl
  · have failed : versionOf fields = .error .tooLarge := Fields.getD_infinite fields _ _ version
    rw [requested, traded, failed]
    rfl

theorem unlist_error (value : Json) (fault : ValueFault) (failed : unlist value = .error fault) :
    fault.isContentOrType := by
  unfold unlist at failed
  split at failed
  · cases failed
    rfl
  · cases failed
  · cases failed

theorem oneKey_error (value : Json) (fault : ValueFault) (failed : oneKey value = .error fault) :
    fault.isContentOrType := by
  unfold oneKey at failed
  split at failed
  · cases failed
  · cases failed
    rfl

theorem oneKey_ok (value : Json) (field : String × Json) (keyed : oneKey value = .ok field) :
    value = .obj [field] := by
  unfold oneKey at keyed
  split at keyed
  · cases keyed
    rfl
  · cases keyed

def Overflows (value : Json) : Prop :=
  ∃ kind fields, unlist value = .ok (.obj [(kind, .obj fields)]) ∧ FieldsOverflow fields

theorem overflowing_ofJson : Json.Overflowing ofJson (·.isContentOrType) Overflows where
  malformed := rfl
  decode_error value fault failed := by
    simp only [ofJson, Except.bind_eq_error] at failed
    rcases failed with unlisted | ⟨body, listed, unkeyed | ⟨⟨kind, inner⟩, keyed, failed⟩⟩
    · exact Or.inl (unlist_error value fault unlisted)
    · exact Or.inl (oneKey_error body fault unkeyed)
    · have same := oneKey_ok body _ keyed
      subst same
      cases inner with
      | obj fields =>
          rcases ofInner_error kind fields fault failed with content | ⟨rfl, overflows⟩
          · exact Or.inl content
          · exact Or.inr ⟨rfl, kind, fields, listed, overflows⟩
      | null | bool _ | int _ | float _ | str _ | arr _ =>
          cases failed
          exact Or.inl rfl
  decode_overflow value overflows := by
    rcases overflows with ⟨kind, fields, listed, overflows⟩
    have failed := ofInner_overflow kind fields overflows
    simp only [ofJson, listed, oneKey]
    exact failed

end Message

end TradeWire
