import TradeWire.Proofs.Message
import TradeWire.Proofs.Order.Payload
import TradeWire.Proofs.Order.Tags
/-! Orders come back from their payloads, also when these travel inside the text of a message: those
with an id and a fiat amount as they are, those without a fiat amount with the amount zero. -/

namespace TradeWire

namespace Order

theorem optionalInt_ofOption (fields : Fields) (key : String) (value : Option Int)
    (found : fields.get? key = some (Json.ofOption .int value)) :
    optionalInt fields key = .ok value := by
  rw [optionalInt, found]
  cases value <;> rfl

theorem sideOf_toPayload (order : Order) : sideOf order.toPayload = .ok order.side := by
  have found : order.toPayload.get? "kind" =
      some (Json.ofOption (fun side => .str side.name) order.side) := by
    simp [toPayload]
  rw [sideOf, found]
  cases order.side with
  | none => rfl
  | some side => cases side <;> rfl

theorem idOf_toPayload (order : Order) :
    idOf order.toPayload =
      if order.id = "" then .error (.decode (.missing "id")) else .ok order.id := by
  have found : order.toPayload.get? "id" =
      some (if order.id = "" then .null else .str order.id) := by
    simp [toPayload]
  rw [idOf, found]
  by_cases unnamed : order.id = "" <;> simp [unnamed, Json.isTrue, Json.describe]

theorem statusOf_toPayload (order : Order) : statusOf order.toPayload = order.status := by
  have found : order.toPayload.get? "status" =
      some (Json.ofOption (fun status => .str status.name) order.status) := by
    simp [toPayload]
  rw [statusOf, found]
  cases order.status with
  | none => rfl
  | some status => exact congrArg some (Status.ofNameOrPending_name status)

theorem textOf_str (fields : Fields) (key text : String)
    (found : fields.get? key = some (.str text)) : textOf fields key = text := by
  rw [textOf, found]
  by_cases empty : text = "" <;> simp [empty, Json.isTrue, Json.describe]

theorem numbersOf_toPayload (order : Order) :
    numbersOf order.toPayload = .ok {
      amount := some order.amount
      premium := some order.premium
      createdAt := none
      low := order.fiat.bind Fiat.low?
      high := order.fiat.bind Fiat.high?
      fiatAmount := some ((order.fiat.bind Fiat.amount?).getD 0) } := by
  have amount := optionalInt_ofOption order.toPayload "amount" (some order.amount)
    (by simp [toPayload, Json.ofOption])
  have premium := optionalInt_ofOption order.toPayload "premium" (some order.premium)
    (by simp [toPayload, Json.ofOption])
  have createdAt : optionalInt order.toPayload "created_at" = .ok none := by
    simp [optionalInt, toPayload, Json.present?]
  have low := optionalInt_ofOption order.toPayload "min_amount" (order.fiat.bind Fiat.low?)
    (by simp [toPayload])
  have high := optionalInt_ofOption order.toPayload "max_amount" (order.fiat.bind Fiat.high?)
    (by simp [toPayload])
  have fiatAmount := optionalInt_ofOption order.toPayload "fiat_amount"
    (some ((order.fiat.bind Fiat.amount?).getD 0)) (by simp [toPayload, Json.ofOption])
  rw [numbersOf, amount, premium, createdAt, low, high, fiatAmount]
  rfl

theorem fiatOf_fields (fiat : Option Fiat) :
    fiatOf (some ((fiat.bind Fiat.amount?).getD 0)) (fiat.bind Fiat.low?) (fiat.bind Fiat.high?) =
      .ok (some (fiat.getD (.fixed 0))) := by
  rcases fiat with _ | fiat
  · rfl
  · cases fiat with
    | fixed amount => rfl
    | range low high ordered => exact dif_pos ordered

def returned (order : Order) : Order :=
  { order with fiat := some (order.fiat.getD (.fixed 0)), createdAt := none }

theorem ofPayload_toPayload (order : Order) :
    ofPayload order.toPayload =
      if order.id = "" then .error (.decode (.missing "id")) else .ok order.returned := by
  have fiatCode := textOf_str order.toPayload "fiat_code" order.fiatCode (by simp [toPayload])
  have paymentMethod := textOf_str order.toPayload "payment_method" order.paymentMethod
    (by simp [toPayload])
  rw [ofPayload_eq, sideOf_toPayload, idOf_toPayload, numbersOf_toPayload, fiatCode, paymentMethod,
    statusOf_toPayload]
  by_cases unnamed : order.id = ""
  · rw [if_pos unnamed, if_pos unnamed]
    rfl
  · rw [if_neg unnamed, if_neg unnamed]
    simp only [bind, Except.bind, fiatOf_fields]
    rfl

theorem returned_sameTrade (order : Order) :
    order.returned.sameTrade order ↔ order.fiat.isSome := by
  rw [sameTrade, decide_eq_true_eq]
  cases order with
  | mk id side fiatCode paymentMethod amount fiat premium status createdAt =>
      cases fiat <;> simp [returned]

end Order

theorem Order.everywhere_toPayload (order : Order) :
    (Json.obj order.toPayload).everywhere Json.isExact ∧
      (Json.obj order.toPayload).everywhere Json.hasDistinctKeys := by
  have texts (test : Json → Bool) (null : test .null) (text : ∀ text, test (.str text)) :
      (if order.id = "" then Json.null else .str order.id).everywhere test ∧
        (Json.ofOption (fun side : Side => .str side.name) order.side).everywhere test ∧
        (Json.ofOption (fun status : Status => .str status.name) order.status).everywhere test := by
    refine ⟨?_, ?_, ?_⟩
    · split
      · exact null
      · exact text _
    · exact Json.everywhere_ofOption test _ _ null fun side => text _
    · exact Json.everywhere_ofOption test _ _ null fun status => text _
  have number (test : Json → Bool) (null : test .null) (int : ∀ n, test (.int n)) (n : Option Int) :
      (Json.ofOption .int n).everywhere test := Json.everywhere_ofOption test _ _ null int
  constructor
  · have texts := texts Json.isExact rfl fun _ => rfl
    have number := number Json.isExact rfl fun _ => rfl
    simp [toPayload, Json.everywhere, Json.everyField, Json.isExact, texts, number]
  · have texts := texts Json.hasDistinctKeys rfl fun _ => rfl
    have number := number Json.hasDistinctKeys rfl fun _ => rfl
    simp [toPayload, Json.everywhere, Json.everyField, Json.hasDistinctKeys, texts, number]

theorem Order.writable_toPayload (order : Order) (fits : order.Fits) :
    (Json.obj order.toPayload).writable := by
  have id : (if order.id = "" then Json.null else .str order.id).writable := by
    split <;> rfl
  have side := Json.writable_ofOption (fun side : Side => .str side.name) order.side
    fun _ _ => rfl
  have status := Json.writable_ofOption (fun status : Status => .str status.name) order.status
    fun _ _ => rfl
  have bound (bound? : Fiat → Option Int)
      (among : ∀ fiat n, bound? fiat = some n → n ∈ fiat.numbers) :
      (Json.ofOption .int (order.fiat.bind bound?)).writable := by
    apply Json.writable_ofOption
    intro n found
    obtain ⟨fiat, present, bound⟩ := Option.bind_eq_some_iff.mp found
    exact fits.fiat fiat present n (among fiat n bound)
  have low := bound Fiat.low? (by
    intro fiat n found
    cases fiat <;> simp_all [Fiat.low?, Fiat.numbers])
  have high := bound Fiat.high? (by
    intro fiat n found
    cases fiat <;> simp_all [Fiat.high?, Fiat.numbers])
  have amount : Number.fits ((order.fiat.bind Fiat.amount?).getD 0) := by
    rcases fiat : order.fiat with _ | ⟨amount⟩ | _
    · exact Number.fits_of_lt 0 (by decide)
    · exact fits.fiat _ fiat amount (by simp [Fiat.numbers])
    · exact Number.fits_of_lt 0 (by decide)
  simp [toPayload, Json.writable, Json.writableFields, id, side, status, low, high, amount,
    fits.amount, fits.premium]

namespace Message

structure Fits (message : Message) : Prop where
  requestId : ∀ n, message.requestId = some n → Number.fits n
  tradeIndex : ∀ n, message.tradeIndex = some n → Number.fits n
  version : Number.fits message.version

def placed (key? : Option String) (fields : Fields) : Fields :=
  match key? with
  | some key => [(key, .obj fields)]
  | none => fields

def found? (key? : Option String) (payload : Fields) : Option Fields :=
  match key? with
  | some key =>
      match payload.get? key with
      | some (.obj fields) => some fields
      | _ => none
  | none => some payload

theorem found_placed (key? : Option String) (fields : Fields) :
    found? key? (placed key? fields) = some fields := by
  cases key? <;> simp [found?, placed]

def carrying (message : Message) (key? : Option String) (order : Order) : Message :=
  { message with payload := some (placed key? order.toPayload) }

theorem everywhere_placed (test : Json → Bool) (key? : Option String) (fields : Fields)
    (single : ∀ key value, test (.obj [(key, value)]))
    (inside : (Json.obj fields).everywhere test) :
    (Json.obj (placed key? fields)).everywhere test := by
  cases key? with
  | none => exact inside
  | some key =>
      rw [placed, Json.everywhere, Json.everyField, Json.everyField, inside, single]
      rfl

theorem isExact_carrying (message : Message) (key? : Option String) (order : Order) :
    (message.carrying key? order).isExact := by
  obtain ⟨exact, keyed⟩ := order.everywhere_toPayload
  have exactly := everywhere_placed Json.isExact key? order.toPayload (fun _ _ => rfl) exact
  have distinct := everywhere_placed Json.hasDistinctKeys key? order.toPayload
    (fun _ _ => by simp [Json.hasDistinctKeys]) keyed
  simp only [isExact, carrying, Json.ofOption, exactly, distinct, Bool.and_self]

theorem writable_carrying (message : Message) (key? : Option String) (order : Order)
    (fits : message.Fits) (short : order.Fits) :
    (message.carrying key? order).toJson.writable := by
  have payload : (Json.ofOption .obj (message.carrying key? order).payload).writable := by
    change (Json.obj (placed key? order.toPayload)).writable = true
    cases key? with
    | none => exact order.writable_toPayload short
    | some key =>
        rw [placed, Json.writable, Json.writableFields, order.writable_toPayload short]
        rfl
  have id := Json.writable_ofOption .str message.id fun _ _ => rfl
  have requestId := Json.writable_ofOption .int message.requestId fits.requestId
  have tradeIndex := Json.writable_ofOption .int message.tradeIndex fits.tradeIndex
  simp only [toJson, innerFields, Json.writable, Json.writableFields, payload, Bool.and_true]
  simp [carrying, id, requestId, tradeIndex, fits.version]

theorem exists_text_carrying (message : Message) (key? : Option String) (order : Order)
    (signature : Option String) (fits : message.Fits) (short : order.Fits) :
    ∃ text back, (message.carrying key? order).text signature = .ok text ∧
      parse text = .ok back ∧ back.payload.bind (found? key?) = some order.toPayload := by
  have writable := message.writable_carrying key? order fits short
  obtain ⟨text, written⟩ := ((message.carrying key? order).exists_text signature).mpr writable
  obtain ⟨body, bodied, rfl⟩ := (text_eq_ok _ signature text).mp written
  have parsed := parse_signedText _ body signature (message.isExact_carrying key? order) bodied
  exact ⟨_, _, written, parsed, found_placed key? order.toPayload⟩

end Message

namespace Order

/-- An order comes back from its payload exactly if it has an id and a fiat amount. Without an id it
is refused, and without a fiat amount it comes back with the amount zero. In the text of a message
nothing is different. -/
theorem ofPayload_toPayload_iff (order : Order) :
    ((∃ back, ofPayload order.toPayload = .ok back ∧ back.sameTrade order) ↔
      order.id ≠ "" ∧ ((∃ amount, order.fiat = some (.fixed amount)) ∨
        ∃ low high ordered, order.fiat = some (.range low high ordered))) ∧
    (order.id = "" → ofPayload order.toPayload = .error (.decode (.missing "id"))) ∧
    (order.id ≠ "" → order.fiat = none → ∃ back, ofPayload order.toPayload = .ok back ∧
      back.sameTrade { order with fiat := some (.fixed 0) }) ∧
    ∀ (message : Message) (key? : Option String) (signature : Option String),
      message.Fits → order.Fits → ∃ text back fields,
        (message.carrying key? order).text signature = .ok text ∧ Message.parse text = .ok back ∧
          back.payload.bind (Message.found? key?) = some fields ∧
          ofPayload fields = ofPayload order.toPayload := by
  have result := order.ofPayload_toPayload
  have shapes : order.fiat.isSome ↔ (∃ amount, order.fiat = some (.fixed amount)) ∨
      ∃ low high ordered, order.fiat = some (.range low high ordered) := by
    rcases order.fiat with _ | ⟨amount⟩ | ⟨low, high, ordered⟩
    · simp
    · simp
    · exact iff_of_true rfl (.inr ⟨low, high, ordered, rfl⟩)
  refine ⟨?_, ?_, ?_, ?_⟩
  · rw [← shapes, result]
    by_cases unnamed : order.id = ""
    · simp [unnamed]
    · simp [unnamed, returned_sameTrade]
  · intro unnamed
    rw [result, if_pos unnamed]
  · intro named free
    rw [result, if_neg named]
    refine ⟨_, rfl, ?_⟩
    simp [returned, sameTrade, free]
  · intro message key? signature fits short
    obtain ⟨text, back, written, parsed, found⟩ :=
      message.exists_text_carrying key? order signature fits short
    exact ⟨text, back, _, written, parsed, found, rfl⟩

theorem ofPayload_toPayload_iff_rangeOffer :
    (∃ back, ofPayload rangeOffer.toPayload = .ok back ∧ back.sameTrade rangeOffer) ∧
    ∃ text back fields,
      (Message.carrying { action := "new-order", requestId := some 7 } (some "order")
        rangeOffer).text (some "s") = .ok text ∧ Message.parse text = .ok back ∧
        back.payload.bind (Message.found? (some "order")) = some fields ∧
        ofPayload fields = ofPayload rangeOffer.toPayload := by
  have fits : Message.Fits { action := "new-order", requestId := some 7 } := by
    refine ⟨?_, nofun, Number.fits_of_lt 1 (by decide)⟩
    intro n same
    cases same
    exact Number.fits_of_lt 7 (by decide)
  have short : rangeOffer.Fits := by
    refine ⟨Number.fits_of_lt 0 (by decide), Number.fits_of_lt (-3) (by decide), ?_⟩
    intro fiat same n member
    cases same
    simp only [Fiat.numbers, List.mem_cons, List.not_mem_nil, or_false] at member
    rcases member with rfl | rfl
    · exact Number.fits_of_lt 10 (by decide)
    · exact Number.fits_of_lt 250 (by decide)
  obtain ⟨comesBack, -, -, travels⟩ := ofPayload_toPayload_iff rangeOffer
  exact ⟨comesBack.mpr ⟨by decide, .inr ⟨10, 250, by decide, rfl⟩⟩,
    travels _ (some "order") (some "s") fits short⟩

end Order

end TradeWire
