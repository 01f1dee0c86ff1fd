import TradeWire.Message
import TradeWire.Proofs.Json.RoundTrip
import TradeWire.Proofs.Outcome
/-! Messages come back from their text. -/

namespace TradeWire.Message

def actionOf (fields : Fields) : Except ValueFault String :=
  match fields.get? "action" with
  | some (.str action) => .ok action
  | _ => .error (.refused .noAction)

def versionOf (fields : Fields) : Except ValueFault Int :=
  ((fields.get? "version").getD (.int 1)).toInt

theorem ofInner_eq (kind : String) (fields : Fields) :
    ofInner kind fields = do
      let action ← actionOf fields
      let payload ← payloadOf fields
      let requestId ← optionalInt fields "request_id"
      let tradeIndex ← optionalInt fields "trade_index"
      let version ← versionOf fields
      return {
        action, requestId, tradeIndex, payload, kind, version
        id := (Json.present? (fields.get? "id")).map Json.describe } := by
  unfold ofInner actionOf versionOf
  rcases fields.get? "action" with _ | action
  · rfl
  · cases action <;> rfl

/-- Whether the payload of a message is written exactly: without a float that is no word, and with
each key of an object once, as mappings have their keys. -/
def isExact (message : Message) : Bool :=
  let payload := Json.ofOption .obj message.payload
  payload.everywhere Json.isExact && payload.everywhere Json.hasDistinctKeys

theorem payloadOf_innerFields (message : Message) :
    payloadOf message.innerFields = .ok message.payload := by
  cases found : message.payload <;>
    simp [payloadOf, innerFields, found, Json.ofOption, Json.present?]

theorem optionalInt_ofOption (fields : Fields) (key : String) (value : Option Int)
    (found : fields.get? key = some (Json.ofOption .int value)) :
    optionalInt fields key = .ok value := by
  cases value <;> simp [optionalInt, found, Json.ofOption, Json.present?, Json.toInt, Except.map]

theorem ofInner_innerFields (message : Message) :
    ofInner message.kind message.innerFields = .ok message := by
  have action : message.innerFields.get? "action" = some (.str message.action) := by
    simp [innerFields]
  have requestId := optionalInt_ofOption message.innerFields "request_id" message.requestId
    (by simp [innerFields])
  have tradeIndex := optionalInt_ofOption message.innerFields "trade_index" message.tradeIndex
    (by simp [innerFields])
  have version : message.innerFields.get? "version" = some (.int message.version) := by
    simp [innerFields]
  have id : (Json.present? (message.innerFields.get? "id")).map Json.describe = message.id := by
    cases found : message.id <;>
      simp [innerFields, found, Json.ofOption, Json.present?, Json.describe]
  simp only [ofInner_eq, actionOf, versionOf, action, payloadOf_innerFields, requestId, tradeIndex,
    version, id]
  rfl

theorem ofJson_toJson (message : Message) : ofJson message.toJson = .ok message :=
  ofInner_innerFields message

theorem everywhere_toJson (message : Message) (exact : message.isExact) :
    message.toJson.everywhere Json.isExact ∧ message.toJson.everywhere Json.hasDistinctKeys := by
  rw [isExact, Bool.and_eq_true] at exact
  have id : (Json.ofOption .str message.id).everywhere Json.isExact ∧
      (Json.ofOption .str message.id).everywhere Json.hasDistinctKeys := by
    cases message.id <;> exact ⟨rfl, rfl⟩
  have number (value : Option Int) : (Json.ofOption .int value).everywhere Json.isExact ∧
      (Json.ofOption .int value).everywhere Json.hasDistinctKeys := by
    cases value <;> exact ⟨rfl, rfl⟩
  have request := number message.requestId
  have trade := number message.tradeIndex
  constructor
  · simp [toJson, innerFields, Json.everywhere, Json.everyField, Json.isExact, exact.1, id.1,
      request.1, trade.1]
  · simp [toJson, innerFields, Json.everywhere, Json.everyField, Json.hasDistinctKeys, exact.2,
      id.2, request.2, trade.2]

theorem body_eq_ok (message : Message) (text : String) (written : message.body = .ok text) :
    message.toJson.writable ∧ text = message.toJson.render .compact := by
  rw [body] at written
  split at written
  · cases written
    exact ⟨‹_›, rfl⟩
  · cases written

theorem body_of_writable (message : Message) (fits : message.toJson.writable) :
    message.body = .ok (message.toJson.render .compact) := if_pos fits

theorem signedText_eq (value : Json) (signature : Option String) :
    signedText (value.render .compact) signature =
      (Json.arr [value, Json.ofOption .str signature]).render .compact := by
  apply String.toList_injective
  simp [signedText, Json.render, Json.write, Json.writeItems, Json.Style.compact]

theorem parse_body (message : Message) (text : String) (exact : message.isExact)
    (written : message.body = .ok text) : parse text = .ok message := by
  rcases body_eq_ok message text written with ⟨fits, rfl⟩
  rcases everywhere_toJson message exact with ⟨exactly, keyed⟩
  rw [parse, Json.parse_render _ Json.Style.separates_compact _ exactly keyed fits]
  exact ofJson_toJson message

theorem json_signedText (message : Message) (text : String) (signature : Option String)
    (exact : message.isExact) (written : message.body = .ok text) :
    Json.parse (signedText text signature) =
      .ok (.arr [message.toJson, Json.ofOption .str signature]) := by
  rcases body_eq_ok message text written with ⟨fits, rfl⟩
  rcases everywhere_toJson message exact with ⟨exactly, keyed⟩
  rw [signedText_eq, Json.parse_render _ Json.Style.separates_compact]
  · cases signature <;>
      simp [Json.everywhere, Json.everyItem, Json.isExact, Json.ofOption, exactly]
  · cases signature <;>
      simp [Json.everywhere, Json.everyItem, Json.hasDistinctKeys, Json.ofOption, keyed]
  · cases signature <;> simp [Json.writable, Json.writableItems, Json.ofOption, fits]

theorem parse_signedText (message : Message) (text : String) (signature : Option String)
    (exact : message.isExact) (written : message.body = .ok text) :
    parse (signedText text signature) = .ok message := by
  rw [parse, json_signedText message text signature exact written]
  exact ofJson_toJson message

theorem text_eq_ok (message : Message) (signature : Option String) (text : String) :
    message.text signature = .ok text ↔
      ∃ body, message.body = .ok body ∧ text = signedText body signature := by
  rw [Message.text, Except.bind_eq_ok]
  simp only [pure, Except.pure, Except.ok.injEq, eq_comm]

theorem exists_text (message : Message) (signature : Option String) :
    (∃ text, message.text signature = .ok text) ↔ message.toJson.writable := by
  simp only [text_eq_ok]
  constructor
  · rintro ⟨_, body, written, -⟩
    exact (body_eq_ok message body written).1
  · intro fits
    exact ⟨_, _, body_of_writable message fits, rfl⟩

/-- A message whose integers are short enough has a text. It comes back from it, signed or bare, and
is written by the same characters again: those that a signature is made for. -/
theorem parse_text_same_body (message : Message) (exact : message.isExact) :
    (∀ signature, (∃ text, message.text signature = .ok text) ↔ message.toJson.writable) ∧
    (∀ signature text, message.text signature = .ok text →
      ∃ body, message.body = .ok body ∧ text = signedText body signature ∧
        Json.parse text = .ok (.arr [message.toJson, Json.ofOption .str signature]) ∧
        parse text = .ok message ∧ (parse text >>= Message.body) = .ok body) ∧
    ∀ body, message.body = .ok body →
      parse body = .ok message ∧ (parse body >>= Message.body) = .ok body := by
  refine ⟨message.exists_text, ?_, ?_⟩
  · intro signature text given
    obtain ⟨body, written, rfl⟩ := (text_eq_ok message signature text).mp given
    have parsed := parse_signedText message body signature exact written
    exact ⟨body, written, rfl, json_signedText message body signature exact written, parsed,
      (Except.bind_eq_ok _ _ _).mpr ⟨message, parsed, written⟩⟩
  · intro body written
    have parsed := parse_body message body exact written
    exact ⟨parsed, (Except.bind_eq_ok _ _ _).mpr ⟨message, parsed, written⟩⟩

/-- A message with what is hard to write: escapes, a character beyond the first plane, a long
integer, lists and objects inside each other. -/
def knotty : Message where
  action := "a\"\\\n\u0001"
  id := some "é 🦀"
  requestId := some (-1180591620717411303424)
  payload := some [
    ("🦀\t", .arr [.null, .obj [], .obj [("b", .int 36893488147419103232), ("a", .bool true)]]),
    ("", .str "/\u007f")]
  kind := "k"

theorem parse_text_same_body_knotty :
    knotty.isExact ∧ ∃ text, knotty.text (some "s\"") = .ok text ∧ parse text = .ok knotty ∧
      (parse text >>= Message.body) = knotty.body := by
  have exact : knotty.isExact := by decide
  have fits : knotty.toJson.writable := by
    simp [knotty, toJson, innerFields, Json.ofOption, Json.writable, Json.writableFields,
      Json.writableItems, Number.fits_of_lt]
  obtain ⟨returns, signed, -⟩ := parse_text_same_body knotty exact
  obtain ⟨text, given⟩ := (returns (some "s\"")).mpr fits
  obtain ⟨body, same, -, -, parsed, again⟩ := signed _ _ given
  exact ⟨exact, text, given, parsed, again.trans same.symm⟩

end TradeWire.Message
