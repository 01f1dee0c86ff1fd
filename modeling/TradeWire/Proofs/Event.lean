import TradeWire.Event
import TradeWire.Proofs.Json.RoundTrip
import TradeWire.Proofs.Outcome
/-! Events come back from their JSON form. -/

namespace TradeWire.Event

theorem tagOfJson_texts (tag : Tag) : tagOfJson (.arr (tag.map .str)) = .ok tag := by
  simp [tagOfJson, Json.describe, Function.comp_def]

theorem tagsOfJson_tagsToJson (tags : List Tag) : tagsOfJson (tagsToJson tags) = .ok tags := by
  rw [tagsToJson, tagsOfJson, List.mapM_map]
  induction tags with
  | nil => rfl
  | cons tag tags ih =>
      rw [List.mapM_cons, Function.comp_apply, tagOfJson_texts, ih]
      rfl

def idOf (fields : Fields) : Except ValueFault String :=
  match fields.get? "id" with
  | none => .error .missingKey
  | some (.str id) => if id = "" then .error (.refused .eventId) else .ok id
  | some _ => .error (.refused .eventId)

def timeOf (fields : Fields) : Except ValueFault Int :=
  ((fields.get? "created_at").getD (.int 0)).toInt

def kindOf (fields : Fields) : Except ValueFault Int :=
  match fields.get? "kind" with
  | none => .error .missingKey
  | some kind => kind.toInt

theorem ofFields_eq (fields : Fields) :
    ofFields fields = do
      let id ← idOf fields
      let createdAt ← timeOf fields
      let kind ← kindOf fields
      let tags ← tagsOfJson ((fields.get? "tags").getD (.arr []))
      return {
        id, createdAt, kind, tags
        pubkey := textOf fields "pubkey"
        content := textOf fields "content"
        signature := textOf fields "sig" } := by
  unfold ofFields idOf timeOf kindOf
  generalize fields.get? "id" = id
  cases fields.get? "kind" with
  | none | some kind =>
      rcases id with _ | id
      · rfl
      · cases id with
        | str text =>
            by_cases empty : text = ""
            · simp only [if_pos empty]
            · simp only [if_neg empty]
              rfl
        | null | bool _ | int _ | float _ | arr _ | obj _ => rfl

structure ReadFrom (fields : Fields) (event : Event) : Prop where
  id : fields.get? "id" = some (.str event.id)
  named : event.id ≠ ""
  createdAt : ((fields.get? "created_at").getD (.int 0)).toInt = .ok event.createdAt
  kind : ∃ kind, fields.get? "kind" = some kind ∧ kind.toInt = .ok event.kind
  tags : tagsOfJson ((fields.get? "tags").getD (.arr [])) = .ok event.tags
  pubkey : textOf fields "pubkey" = event.pubkey
  content : textOf fields "content" = event.content
  signature : textOf fields "sig" = event.signature

theorem ofFields_of_readFrom (fields : Fields) (event : Event) (found : ReadFrom fields event) :
    ofFields fields = .ok event := by
  rcases found.kind with ⟨kind, hasKind, isKind⟩
  simp only [ofFields_eq, idOf, timeOf, kindOf, found.id, if_neg found.named, found.createdAt,
    hasKind, isKind, found.tags, found.pubkey, found.content, found.signature]
  rfl

theorem idOf_eq_ok (fields : Fields) (id : String) (read : idOf fields = .ok id) :
    fields.get? "id" = some (.str id) ∧ id ≠ "" := by
  unfold idOf at read
  split at read
  · cases read
  · rename_i text found
    split at read
    · cases read
    · rename_i named
      cases read
      exact ⟨found, named⟩
  · cases read

theorem kindOf_eq_ok (fields : Fields) (n : Int) (read : kindOf fields = .ok n) :
    ∃ kind, fields.get? "kind" = some kind ∧ kind.toInt = .ok n := by
  unfold kindOf at read
  split at read
  · cases read
  · rename_i kind found
    exact ⟨kind, found, read⟩

theorem readFrom_of_ofFields (fields : Fields) (event : Event)
    (read : ofFields fields = .ok event) : ReadFrom fields event := by
  rw [ofFields_eq] at read
  simp only [Except.bind_eq_ok] at read
  obtain ⟨id, isId, createdAt, isTime, kind, isKind, tags, isTags, same⟩ := read
  cases same
  have named := idOf_eq_ok fields id isId
  exact ⟨named.1, named.2, isTime, kindOf_eq_ok fields kind isKind, isTags, rfl, rfl, rfl⟩

theorem ofFields_toFields (event : Event) (named : event.id ≠ "") :
    ofFields event.toFields = .ok event := by
  apply ofFields_of_readFrom
  constructor
  case named => exact named
  case kind => exact ⟨.int event.kind, by simp [toFields], rfl⟩
  all_goals simp [toFields, textOf, Json.toInt, Json.describe, tagsOfJson_tagsToJson]

section Written

variable (test : Json → Bool) (texts : ∀ text, test (.str text))
  (lists : ∀ items, test (.arr items))
include texts lists

theorem everywhere_tag (tag : Tag) : (Json.arr (tag.map .str)).everywhere test := by
  have items : Json.everyItem test (tag.map .str) := by
    induction tag with
    | nil => rfl
    | cons text tag ih => simp [Json.everyItem, Json.everywhere, texts, ih]
  simp [Json.everywhere, lists, items]

theorem everywhere_tagsToJson (tags : List Tag) : (tagsToJson tags).everywhere test := by
  have items : Json.everyItem test (tags.map fun tag => .arr (tag.map .str)) := by
    induction tags with
    | nil => rfl
    | cons tag tags ih =>
        rw [List.map_cons, Json.everyItem, everywhere_tag test texts lists, ih]
        rfl
  simp [tagsToJson, Json.everywhere, lists, items]

end Written

theorem writable_tagsToJson (tags : List Tag) : (tagsToJson tags).writable := by
  have texts (tag : Tag) : Json.writableItems (tag.map .str) := by
    induction tag with
    | nil => rfl
    | cons text tag ih => simp [Json.writableItems, Json.writable, ih]
  rw [tagsToJson, Json.writable]
  induction tags with
  | nil => rfl
  | cons tag tags ih =>
      rw [List.map_cons, Json.writableItems, Json.writable, texts, ih]
      rfl

theorem everywhere_toJson (event : Event) :
    event.toJson.everywhere Json.isExact ∧ event.toJson.everywhere Json.hasDistinctKeys := by
  have exact := everywhere_tagsToJson Json.isExact (fun _ => rfl) (fun _ => rfl) event.tags
  have keyed := everywhere_tagsToJson Json.hasDistinctKeys (fun _ => rfl) (fun _ => rfl) event.tags
  constructor
  · simp [toJson, toFields, Json.everywhere, Json.everyField, Json.isExact, exact]
  · simp [toJson, toFields, Json.everywhere, Json.everyField, Json.hasDistinctKeys, keyed]

theorem writable_toJson (event : Event) (createdAt : Number.fits event.createdAt)
    (kind : Number.fits event.kind) : event.toJson.writable := by
  simp [toJson, toFields, Json.writable, Json.writableFields, createdAt, kind,
    writable_tagsToJson]

theorem ofJson_render (style : Json.Style) (separates : style.Separates) (event : Event)
    (named : event.id ≠ "") (createdAt : Number.fits event.createdAt)
    (kind : Number.fits event.kind) :
    Json.parse (event.toJson.render style) = .ok event.toJson ∧
      ofJson event.toJson = .ok event := by
  rcases everywhere_toJson event with ⟨exact, keyed⟩
  exact ⟨Json.parse_render style separates _ exact keyed (writable_toJson event createdAt kind),
    ofFields_toFields event named⟩

end TradeWire.Event
