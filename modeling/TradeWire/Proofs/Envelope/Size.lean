import TradeWire.Proofs.Envelope.Layers
/-! How long the layers of a wrap are, and that contents of moderate length can always be wrapped:
each layer stays below the largest text that can be encrypted. -/

namespace TradeWire

def byteSize (chars : List Char) : Nat := (chars.flatMap String.utf8EncodeChar).length

theorem byteSize_append (front back : List Char) :
    byteSize (front ++ back) = byteSize front + byteSize back := by
  simp [byteSize]

theorem byteSize_cons (c : Char) (chars : List Char) :
    byteSize (c :: chars) = c.utf8Size + byteSize chars := by
  simp [byteSize]

theorem Bytes.length_ofText (text : String) : (ofText text).length = byteSize text.toList := by
  rw [ofText_eq, byteSize]

theorem byteSize_ascii (chars : List Char) (ascii : ∀ c ∈ chars, c.toNat ≤ 127) :
    byteSize chars = chars.length := by
  induction chars with
  | nil => rfl
  | cons c chars ih =>
      rw [List.forall_mem_cons] at ascii
      have one : c.utf8Size = 1 := by
        rw [Char.utf8Size_eq_one_iff, UInt32.le_iff_toNat_le]
        exact ascii.1
      rw [byteSize_cons, one, ih ascii.2, List.length_cons, Nat.add_comm]

def isPlain (c : Char) : Bool := 32 ≤ c.toNat && c.toNat ≤ 126 && c != '"' && c != '\\'

theorem byteSize_plain (chars : List Char) (plain : ∀ c ∈ chars, isPlain c) :
    byteSize chars = chars.length := by
  apply byteSize_ascii
  intro c member
  have bounds := plain c member
  simp only [isPlain, Bool.and_eq_true, decide_eq_true_eq] at bounds
  omega

structure PlainText (text : String) (size : Nat) : Prop where
  length : text.toList.length = size
  plain : ∀ c ∈ text.toList, isPlain c

theorem Text.length_fixedHex (width n : Nat) : (fixedHex width n).length = width := by
  induction width generalizing n with
  | zero => rfl
  | succ width ih => rw [fixedHex, List.length_append, ih, List.length_singleton]

theorem Text.fixedHex_plain (width n : Nat) : ∀ c ∈ fixedHex width n, isPlain c := by
  have digits : ∀ d < 16, isPlain (hexDigit d) := by decide
  induction width generalizing n with
  | zero => simp [fixedHex]
  | succ width ih =>
      intro c member
      rw [fixedHex, List.mem_append, List.mem_singleton] at member
      rcases member with front | rfl
      · exact ih _ c front
      · exact digits _ (Nat.mod_lt _ (by decide))

theorem Bytes.toHex_plain (bytes : Bytes) (size : Nat) (length : bytes.length = size) :
    PlainText bytes.toHex (2 * size) := by
  constructor
  · rw [toHex, String.toList_ofList,
      ChaCha20.length_flatMap_const _ _ 2 (fun _ _ => Text.length_fixedHex 2 _), length,
      Nat.mul_comm]
  · intro c member
    rw [toHex, String.toList_ofList, List.mem_flatMap] at member
    rcases member with ⟨byte, _, digit⟩
    exact Text.fixedHex_plain 2 byte.toNat c digit

theorem Bytes.Base64.encode_plain (bytes : Bytes) :
    PlainText (String.ofList (encode bytes)) (4 * ((bytes.length + 2) / 3)) := by
  have symbols : ∀ n < 64, isPlain (symbol n) := by decide
  constructor
  · rw [String.toList_ofList, length_encode]
  · intro c member
    rw [String.toList_ofList, encode_eq, List.mem_append] at member
    rcases member with front | back
    · rcases List.mem_map.mp front with ⟨n, inside, rfl⟩
      exact symbols n (sextets_lt bytes n inside)
    · rw [(List.mem_replicate.mp back).2]
      decide

namespace Json

theorem escapeChar_plain (asciiOnly : Bool) (c : Char) (plain : isPlain c) :
    escapeChar asciiOnly c = [c] := by
  simp only [isPlain, Bool.and_eq_true, decide_eq_true_eq, bne_iff_ne] at plain
  rcases plain with ⟨⟨⟨low, high⟩, noQuote⟩, noSlash⟩
  have noControl (d : Char) (control : d.toNat < 32) : c ≠ d := by
    intro same
    subst same
    omega
  rw [escapeChar]
  rw [if_neg noQuote, if_neg noSlash, if_neg (noControl _ (by decide)),
    if_neg (noControl _ (by decide)), if_neg (noControl _ (by decide)),
    if_neg (noControl _ (by decide)), if_neg (noControl _ (by decide)), if_neg (by omega),
    if_neg (by omega)]

theorem writeText_plain (asciiOnly : Bool) (text : String) (size : Nat)
    (plain : PlainText text size) : writeText asciiOnly text = '"' :: text.toList ++ ['"'] := by
  have same : text.toList.flatMap (escapeChar asciiOnly) = text.toList := by
    calc
      text.toList.flatMap (escapeChar asciiOnly) = text.toList.flatMap fun c => [c] := by
        rw [List.flatMap_def, List.flatMap_def]
        congr 1
        apply List.map_congr_left
        intro c member
        exact escapeChar_plain asciiOnly c (plain.plain c member)
      _ = text.toList := List.flatMap_singleton' _
  rw [writeText, same]

theorem byteSize_writeText_plain (text : String) (size : Nat) (plain : PlainText text size) :
    byteSize (writeText false text) = 2 + size := by
  have counted := byteSize_plain _ plain.plain
  have quote : byteSize ['"'] = 1 := by decide
  have quoteSize : '"'.utf8Size = 1 := by decide
  rw [writeText_plain false text size plain, List.cons_append, byteSize_cons, byteSize_append,
    counted, plain.length, quote, quoteSize]
  omega

theorem byteSize_unitEscape (unit : Nat) : byteSize (unitEscape unit) = 6 := by
  have digits := byteSize_plain _ (Text.fixedHex_plain 4 unit)
  have front : byteSize ['\\', 'u'] = 2 := by decide
  calc
    byteSize (unitEscape unit) = byteSize ['\\', 'u'] + byteSize (Text.fixedHex 4 unit) :=
      byteSize_append ['\\', 'u'] _
    _ = 6 := by rw [front, digits, Text.length_fixedHex]

theorem byteSize_escapeChar (c : Char) : byteSize (escapeChar false c) ≤ 6 := by
  rw [escapeChar]
  iterate 7
    split
    · decide
  split
  · exact Nat.le_of_eq (byteSize_unitEscape _)
  · rw [if_neg (by simp), byteSize_cons]
    have := c.utf8Size_le_four
    simp only [byteSize, List.flatMap_nil, List.length_nil]
    omega

theorem byteSize_writeText_le (text : String) :
    byteSize (writeText false text) ≤ 2 + 6 * text.toList.length := by
  have escaped (chars : List Char) :
      byteSize (chars.flatMap (escapeChar false)) ≤ 6 * chars.length := by
    induction chars with
    | nil => exact Nat.le_refl _
    | cons c chars ih =>
        have first := byteSize_escapeChar c
        rw [List.flatMap_cons, byteSize_append, List.length_cons]
        omega
  have quote : byteSize ['"'] = 1 := by decide
  have quoteSize : '"'.utf8Size = 1 := by decide
  have middle := escaped text.toList
  rw [writeText, List.cons_append, byteSize_cons, byteSize_append, quote, quoteSize]
  omega

theorem byteSize_int (n : Int) (fits : Number.fits n) : 
    byteSize (toString n).toList ≤ Number.maxDigits + 1 := by
  have short (k : Nat) (small : k < 10 ^ Number.maxDigits) :
      byteSize (Nat.toDigits 10 k) ≤ Number.maxDigits := by
    rw [byteSize_ascii]
    · exact (Nat.length_toDigits_le_iff (by decide) (by decide)).mpr small
    · intro c member
      have digit := Json.Token.isDigit_toDigits k c member
      simp only [Char.isDigit, Bool.and_eq_true, decide_eq_true_eq, UInt32.le_iff_toNat_le] at digit
      exact Nat.le_trans digit.2 (by decide)
  have bound := (Number.fits_iff n).mp fits
  rw [Int.toString_eq_repr]
  cases n with
  | ofNat n =>
      rw [Token.toList_ofNat]
      exact Nat.le_succ_of_le (short n bound)
  | negSucc n =>
      have sign : '-'.utf8Size = 1 := by decide
      have digits := short (n + 1) bound
      rw [Token.toList_negSucc, byteSize_cons, sign]
      omega

def fieldSize (field : String × Json) : Nat :=
  4 + byteSize (writeText false field.1) + byteSize (write .spaced field.2)

theorem byteSize_writeFields (fields : Fields) :
    byteSize (writeFields .spaced fields) = 1 + (fields.map fieldSize).sum := by
  have comma : byteSize Style.spaced.comma = 2 := by decide
  have colon : byteSize Style.spaced.colon = 2 := by decide
  induction fields with
  | nil => decide
  | cons field fields ih =>
      rw [writeFields, byteSize_append, byteSize_append, byteSize_append, byteSize_append, ih,
        comma, colon, List.map_cons, List.sum_cons, fieldSize]
      simp only [Style.spaced]
      omega

theorem byteSize_write_obj (field : String × Json) (fields : Fields) :
    byteSize (write .spaced (.obj (field :: fields))) = ((field :: fields).map fieldSize).sum := by
  have colon : byteSize Style.spaced.colon = 2 := by decide
  have brace : '\x7b'.utf8Size = 1 := by decide
  rw [write, byteSize_cons, byteSize_append, byteSize_append, byteSize_append,
    byteSize_writeFields, colon, brace, List.map_cons, List.sum_cons, fieldSize]
  simp only [Style.spaced]
  omega

theorem byteSize_write_obj_pos (style : Style) (fields : Fields) :
    1 ≤ byteSize (write style (.obj fields)) := by
  have brace := Char.utf8Size_pos '\x7b'
  cases fields with
  | nil =>
      rw [write, byteSize_cons]
      omega
  | cons field fields =>
      rw [write, byteSize_cons]
      omega

end Json

def Nip44.payloadLength (size : Nat) : Nat := 4 * ((69 + paddedLength size) / 3)

theorem Curve.length_sign (scalar : Nat) (digest : Bytes) : (sign scalar digest).length = 64 := by
  simp only [sign, List.length_append, Bytes.length_ofNat]

namespace Keys

theorem publicKey_plain (keys : Keys) : PlainText keys.publicKey 64 := by
  rw [keys.derived, Curve.publicHex]
  exact Bytes.toHex_plain _ 32 (Bytes.length_ofNat 32 _)

theorem signText_plain (keys : Keys) (text : String) : PlainText (keys.signText text) 128 :=
  Bytes.toHex_plain _ 64 (Curve.length_sign _ _)

theorem digest_of_fits (pubkey : String) (createdAt kind : Int) (tags : List Tag)
    (content : String) (timeFits : Number.fits createdAt) (kindFits : Number.fits kind) :
    ∃ hash, Event.digest pubkey createdAt kind tags content = .ok hash ∧ hash.length = 32 := by
  rw [Event.digest, if_pos (by rw [timeFits, kindFits]; rfl)]
  exact ⟨_, rfl, Sha256.length_hash _⟩

theorem exists_rumor (keys : Keys) (kind createdAt : Int) (tags : List Tag) (content : String)
    (timeFits : Number.fits createdAt) (kindFits : Number.fits kind) :
    ∃ event, keys.rumor kind tags content createdAt = .ok event ∧ PlainText event.id 64 := by
  obtain ⟨hash, digested, length⟩ :=
    digest_of_fits keys.publicKey createdAt kind tags content timeFits kindFits
  rw [rumor, digested]
  exact ⟨_, rfl, Bytes.toHex_plain hash 32 length⟩

theorem exists_signed (keys : Keys) (kind createdAt : Int) (tags : List Tag) (content : String)
    (timeFits : Number.fits createdAt) (kindFits : Number.fits kind) :
    ∃ event, keys.signEvent kind tags content createdAt = .ok event ∧ PlainText event.id 64 ∧
      PlainText event.signature 128 := by
  obtain ⟨hash, digested, length⟩ :=
    digest_of_fits keys.publicKey createdAt kind tags content timeFits kindFits
  rw [signEvent, digested]
  exact ⟨_, rfl, Bytes.toHex_plain hash 32 length,
    Bytes.toHex_plain _ 64 (Curve.length_sign _ _)⟩

theorem sum_fieldSize (event : Event) (idPlain : PlainText event.id 64)
    (keyPlain : PlainText event.pubkey 64) (untagged : event.tags = []) :
    (event.unsignedFields.map Json.fieldSize).sum =
      203 + byteSize (toString event.createdAt).toList + byteSize (toString event.kind).toList +
        byteSize (Json.writeText false event.content) := by
  have id := Json.byteSize_writeText_plain _ _ idPlain
  have key := Json.byteSize_writeText_plain _ _ keyPlain
  have names : ["id", "pubkey", "created_at", "kind", "tags", "content"].map
      (fun name => byteSize (Json.writeText false name)) = [4, 8, 12, 6, 6, 9] := by decide
  have tags : byteSize ['[', ']'] = 2 := by decide
  simp only [List.map_cons, List.map_nil, List.cons.injEq, and_true] at names
  rw [Event.unsignedFields_eq]
  simp only [Event.toFields, List.take, untagged, Event.tagsToJson, List.map_nil, List.map_cons,
    List.sum_cons, List.sum_nil, Json.fieldSize, Json.write, Json.Style.spaced, id, key]
  omega

theorem byteSize_rumorText (event : Event) (idPlain : PlainText event.id 64)
    (keyPlain : PlainText event.pubkey 64) (untagged : event.tags = []) :
    byteSize (rumorText event).toList =
      203 + byteSize (toString event.createdAt).toList + byteSize (toString event.kind).toList +
        byteSize (Json.writeText false event.content) := by
  have fields := sum_fieldSize event idPlain keyPlain untagged
  rw [Event.unsignedFields_eq] at fields
  rw [rumorText, Json.render, String.toList_ofList, Event.unsignedFields_eq, ← fields]
  exact Json.byteSize_write_obj _ _

theorem byteSize_sealText (event : Event) (idPlain : PlainText event.id 64)
    (keyPlain : PlainText event.pubkey 64) (signaturePlain : PlainText event.signature 128)
    (untagged : event.tags = []) :
    byteSize (sealText event).toList =
      342 + byteSize (toString event.createdAt).toList + byteSize (toString event.kind).toList +
        byteSize (Json.writeText false event.content) := by
  have fields := sum_fieldSize event idPlain keyPlain untagged
  have signature := Json.byteSize_writeText_plain _ _ signaturePlain
  have name : byteSize (Json.writeText false "sig") = 5 := by decide
  have whole : byteSize (sealText event).toList = (event.toFields.map Json.fieldSize).sum := by
    rw [sealText, Json.render, String.toList_ofList]
    exact Json.byteSize_write_obj _ _
  have all : event.toFields = event.unsignedFields ++ [("sig", .str event.signature)] := by
    simp [Event.unsignedFields, Event.toFields]
  rw [whole, all, List.map_append, List.sum_append, fields, List.map_singleton,
    List.sum_singleton, Json.fieldSize, Json.write, name]
  simp only [Json.Style.spaced, signature]
  omega

theorem encryptWith_plain (keys : Keys) (nonce : Bytes) (text recipient payload : String)
    (whole : nonce.length = 32) (done : keys.encryptWith nonce text recipient = .ok payload) :
    PlainText payload (Nip44.payloadLength (byteSize text.toList)) := by
  rcases (encryptWith_eq_ok _ _ _ _ _).mp done with ⟨key, _, encrypted⟩
  rcases Nip44.encrypt_eq_ok key nonce text payload encrypted with ⟨bytes, padded, rfl⟩
  have length := Nip44.length_pad _ _ padded
  have locked := Nip44.length_lock key nonce bytes whole
  rw [Bytes.length_ofText] at length
  have size : 4 * (((Nip44.lock key nonce bytes).length + 2) / 3) =
      Nip44.payloadLength (byteSize text.toList) := by
    rw [locked, length, Nip44.payloadLength]
    omega
  exact size ▸ Bytes.Base64.encode_plain (Nip44.lock key nonce bytes)

theorem exists_encrypted (keys : Keys) (nonce key : Bytes) (text recipient : String)
    (whole : nonce.length = 32) (keyed : keys.conversationKey recipient = .ok key)
    (filled : 1 ≤ byteSize text.toList) (fits : byteSize text.toList ≤ Nip44.maxPlaintext) :
    ∃ payload size, keys.encryptWith nonce text recipient = .ok payload ∧
      PlainText payload size ∧ 3 * size ≤ 4 * byteSize text.toList + 33044 := by
  have bound := Nip44.paddedLength_le_add _ fits
  rw [← Bytes.length_ofText] at filled fits
  rcases Nip44.encrypt_of_fits key nonce text filled fits with ⟨bytes, padded, encrypted⟩
  have done := (encryptWith_eq_ok keys nonce text recipient _).mpr ⟨key, keyed, encrypted⟩
  refine ⟨_, _, done, encryptWith_plain keys nonce text recipient _ whole done, ?_⟩
  rw [Nip44.payloadLength]
  omega

theorem rumorText_pos (event : Event) : 1 ≤ byteSize (rumorText event).toList := by
  rw [rumorText, Json.render, String.toList_ofList]
  exact Json.byteSize_write_obj_pos _ _

theorem sealText_pos (event : Event) : 1 ≤ byteSize (sealText event).toList := by
  rw [sealText, Json.render, String.toList_ofList]
  exact Json.byteSize_write_obj_pos _ _

theorem length_signedText (body signature : String) (size : Nat)
    (plain : PlainText signature size) :
    (Message.signedText body (some signature)).toList.length = body.toList.length + size + 5 := by
  have quoted := Json.writeText_plain true signature size plain
  have length := plain.length
  simp only [Message.signedText, Json.ofOption, Json.render, Json.write, Json.Style.compact, quoted,
    String.toList_append, String.toList_ofList, List.length_append, List.length_cons, length,
    List.length_nil]
  have marks : "[".toList.length + ",".toList.length + "]".toList.length = 3 := by decide
  omega

section Wrapped

variable (keys throwaway : Keys) (recipient : String) (createdAt : Option Int) (supply : Supply)
  (sealKey wrapKey : Bytes) (enough : 2 ≤ supply.nonces.length)
  (whole : ∀ nonce ∈ supply.nonces, nonce.length = 32)
  (drawn : supply.throwaway.head? = some throwaway.text)
  (sealKeyed : keys.conversationKey recipient = .ok sealKey)
  (wrapKeyed : throwaway.conversationKey recipient = .ok wrapKey)
  (timeFits : Number.fits (createdAt.getD supply.now))
  (pastFits : ∀ offset ∈ 0 :: supply.offsets, Number.fits (supply.now - offset))
include enough whole drawn sealKeyed wrapKeyed timeFits pastFits

theorem exists_wrap (content : String) (short : content.toList.length ≤ 4000) :
    ∃ wrapped after, (keys.wrap recipient content createdAt).Gives supply wrapped after := by
  obtain ⟨first, second, others, nonces, firstWhole, secondWhole⟩ := supply.two_nonces enough whole
  have sealPast := pastFits (supply.offsets.headD 0) (by
    cases supply.offsets <;> simp)
  have wrapPast := pastFits (supply.offsets.tail.headD 0) (by
    rcases supply.offsets with _ | ⟨_, _ | ⟨_, _⟩⟩ <;> simp)
  -- The rumor holds the content, the seal the encrypted rumor, the wrap the encrypted seal.
  obtain ⟨rumor, rumorMade, rumorId⟩ := exists_rumor keys Event.rumorKind
    (createdAt.getD supply.now) [] content timeFits (Number.fits_of_lt _ (by decide))
  have rumorIssued := (rumor_issues _ _ _ _ _ _ rumorMade).1
  have rumorSize := byteSize_rumorText rumor rumorId
    (rumorIssued.author ▸ publicKey_plain keys) rumorIssued.tagged
  have contentSize := Json.byteSize_writeText_le rumor.content
  have rumorTime := Json.byteSize_int _ rumorIssued.timeFits
  have rumorKind := Json.byteSize_int _ rumorIssued.kindFits
  rw [Number.maxDigits] at rumorTime rumorKind
  rw [rumorIssued.filled] at contentSize rumorSize
  obtain ⟨sealContent, sealSize, sealFilled, sealPlain, sealShort⟩ := exists_encrypted keys first
    sealKey (rumorText rumor) recipient firstWhole sealKeyed (rumorText_pos rumor) (by
      rw [Nip44.maxPlaintext]
      omega)
  obtain ⟨sealed, sealSigned, sealId, sealSignature⟩ := exists_signed keys Event.sealKind
    (supply.now - supply.offsets.headD 0) [] sealContent sealPast (Number.fits_of_lt _ (by decide))
  have sealIssued := signEvent_issues _ _ _ _ _ _ sealSigned
  have sealTextSize := byteSize_sealText sealed sealId
    (sealIssued.author ▸ publicKey_plain keys) sealSignature sealIssued.tagged
  have sealTime := Json.byteSize_int _ sealIssued.timeFits
  have sealKind := Json.byteSize_int _ sealIssued.kindFits
  rw [Number.maxDigits] at sealTime sealKind
  rw [sealIssued.filled, Json.byteSize_writeText_plain _ _ sealPlain] at sealTextSize
  obtain ⟨wrapContent, _, wrapFilled, _⟩ := exists_encrypted throwaway second
    wrapKey (sealText sealed) recipient secondWhole wrapKeyed (sealText_pos sealed) (by
      rw [Nip44.maxPlaintext]
      omega)
  obtain ⟨wrapped, wrapSigned, _⟩ := exists_signed throwaway Event.giftWrapKind
    (supply.now - supply.offsets.tail.headD 0) [["p", recipient]] wrapContent wrapPast
    (Number.fits_of_lt _ (by decide))
  have wrapIssued := signEvent_issues _ _ _ _ _ _ wrapSigned
  refine ⟨wrapped, (gives_wrap _ _ _ _ _ _).mpr ⟨rumor, sealed, throwaway, ?_⟩⟩
  constructor
  case rumorMade => exact rumorMade
  case sealFilled => rw [nonces, sealIssued.filled]; exact sealFilled
  case sealSigned => rw [sealIssued.filled]; exact sealSigned
  case keyRead => exact ofText_headD throwaway _ drawn
  case wrapFilled => rw [nonces, wrapIssued.filled]; exact wrapFilled
  case wrapSigned => rw [wrapIssued.filled]; exact wrapSigned

theorem exists_wrapMessage (message : Message) (writable : message.toJson.writable)
    (short : (message.toJson.render .compact).toList.length ≤ 3800) :
    ∃ wrapped after,
      (keys.wrapMessage recipient message createdAt).run.run supply = (.ok wrapped, after) := by
  have written := message.body_of_writable writable
  have size := length_signedText (message.toJson.render .compact) _ 128
    (signText_plain keys (message.toJson.render .compact))
  obtain ⟨wrapped, after, given⟩ := exists_wrap keys throwaway recipient createdAt supply sealKey
    wrapKey enough whole drawn sealKeyed wrapKeyed timeFits pastFits _
    (Nat.le_trans (Nat.le_of_eq size) (by omega))
  exact ⟨wrapped, after, (gives_wrapMessage _ _ _ _ _ _ _).mpr ⟨_, written, given⟩⟩

end Wrapped

end Keys

end TradeWire
