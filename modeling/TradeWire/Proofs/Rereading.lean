import TradeWire.Proofs.Event
import TradeWire.Proofs.Json.Bounded
/-! However loosely an event is given, once it has been read it is read again as it is, from its
fields and from the texts in which it is published and wrapped. -/

namespace TradeWire

def Json.Style.published : Style := { spaced with asciiOnly := true }

theorem Json.Style.separates_published : published.Separates :=
  ⟨separates_spaced.comma, separates_spaced.colon, separates_spaced.ends⟩

namespace Event

theorem fits_of_parse (text : String) (raw : Fields) (event : Event)
    (parsed : Json.parse text = .ok (.obj raw)) (found : ReadFrom raw event) :
    Number.fits event.createdAt ∧ Number.fits event.kind := by
  have bounded := Json.parse_bounded text (.obj raw) parsed
  rw [Json.everywhere, Bool.and_eq_true] at bounded
  have within (key : String) (value : Json) (present : raw.get? key = some value) :=
    Json.everywhere_get Json.isBounded raw key value present bounded.2
  have time : ((raw.get? "created_at").getD (.int 0)).everywhere Json.isBounded := by
    cases present : raw.get? "created_at" with
    | none => simpa [Json.everywhere, Json.isBounded] using Number.fits_of_lt 0 (by decide)
    | some createdAt => exact within "created_at" createdAt present
  obtain ⟨kind, present, read⟩ := found.kind
  exact ⟨Json.fits_toInt _ time _ found.createdAt,
    Json.fits_toInt kind (within "kind" kind present) _ read⟩

/-- Whatever an event was read from, its own fields are read as the same event, and so are its
texts, in ASCII or not, if its numbers can be written. Those of an event that came in a text can be.
-/
theorem ofFields_settled (raw : Fields) (event : Event) (accepted : ofFields raw = .ok event) :
    ofJson event.toJson = .ok event ∧
    (event.toJson.writable →
      Json.parse (event.toJson.render .published) = .ok event.toJson ∧
      Json.parse (event.toJson.render .spaced) = .ok event.toJson) ∧
    ∀ text, Json.parse text = .ok (.obj raw) → event.toJson.writable := by
  have found := readFrom_of_ofFields raw event accepted
  refine ⟨ofFields_toFields event found.named, ?_, ?_⟩
  · intro writable
    obtain ⟨exact, keyed⟩ := everywhere_toJson event
    exact ⟨Json.parse_render _ Json.Style.separates_published _ exact keyed writable,
      Json.parse_render _ Json.Style.separates_spaced _ exact keyed writable⟩
  · intro text parsed
    obtain ⟨createdAt, kind⟩ := fits_of_parse text raw event parsed found
    exact writable_toJson event createdAt kind

/-- An event with a text as its time, a truth value as its kind, and tags of three forms. -/
def looseFields : Fields := [
  ("id", .str "e1"),
  ("created_at", .str " +1_7"),
  ("kind", .bool true),
  ("tags", .arr [.str "ab", .obj [("k", .null)], .arr [.int 7, .float (.infinite true)]]),
  ("content", .str "🦀\x7f")]

def settled : Event :=
  ⟨"e1", "", 17, 1, [["a", "b"], ["k"], ["7", "-inf"]], "🦀\x7f", ""⟩

theorem ofFields_settled_loose : ofJson settled.toJson = .ok settled ∧ settled.toJson.writable ∧
    Json.parse (settled.toJson.render .published) = .ok settled.toJson ∧
    Json.parse (settled.toJson.render .spaced) = .ok settled.toJson := by
  have parsed : Json.parse ((Json.obj looseFields).render .compact) = .ok (.obj looseFields) :=
    Json.parse_render _ Json.Style.separates_compact _ (by decide) (by decide)
      (by simp [looseFields, Json.writable, Json.writableFields, Json.writableItems,
        Number.fits_of_lt])
  have accepted : ofFields looseFields = .ok settled := by decide +kernel
  have again := ofFields_settled looseFields settled accepted
  have writable := again.2.2 _ parsed
  exact ⟨again.1, writable, again.2.1 writable⟩

end Event

end TradeWire
