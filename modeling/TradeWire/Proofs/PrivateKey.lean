import TradeWire.Proofs.Curve.Secret
import TradeWire.Proofs.Envelope.Layers
/-! A private key is read twice: as bytes, for the public key and for signatures, and as one number,
for the secrets that it shares. Blanks around the digits are skipped both times, those between two
bytes only the first time. -/

namespace TradeWire

namespace Bytes

open Text (isAsciiBlank)

theorem nibble?_blank (c : Char) (blank : isAsciiBlank c) : nibble? c = none := by
  cases found : nibble? c with
  | none => rfl
  | some value =>
      rw [isAsciiBlank_of_nibble c value found] at blank
      cases blank

theorem readHex_blank (c : Char) (rest : List Char) (blank : isAsciiBlank c) :
    readHex? (c :: rest) = readHex? rest := by
  rw [readHex?.eq_def]
  exact if_pos blank

theorem readHex_pair (c d : Char) (rest : List Char) (solid : isAsciiBlank c = false) :
    readHex? (c :: d :: rest) = (nibble? c).bind fun high => (nibble? d).bind fun low =>
      (readHex? rest).map (UInt8.ofNat (high * 16 + low) :: ·) := by
  rw [readHex?, solid, if_neg Bool.false_ne_true]
  cases nibble? c <;> cases nibble? d <;> cases readHex? rest <;> rfl

theorem readHex_blanks_append (front rest : List Char) (leading : ∀ c ∈ front, isAsciiBlank c) :
    readHex? (front ++ rest) = readHex? rest := by
  induction front with
  | nil => rfl
  | cons c front ih =>
      rw [List.cons_append, readHex_blank c _ (leading c (by simp))]
      exact ih fun d member => leading d (List.mem_cons_of_mem _ member)

theorem readHex_append_blank (front back : List Char) (c : Char) (blank : isAsciiBlank c) :
    readHex? (front ++ c :: back) =
      (readHex? front).bind fun first => (readHex? back).map (first ++ ·) := by
  fun_induction readHex? front with
  | case1 =>
      rw [List.nil_append, readHex_blank c back blank]
      cases readHex? back <;> rfl
  | case2 d rest divides ih => rw [List.cons_append, readHex_blank d _ divides, ih]
  | case3 d solid =>
      rw [List.cons_append, List.nil_append,
        readHex_pair d c back (Bool.eq_false_iff.mpr solid), nibble?_blank c blank]
      cases nibble? d <;> rfl
  | case4 d solid e more ih =>
      rw [List.cons_append, List.cons_append, readHex_pair d e _ (Bool.eq_false_iff.mpr solid), ih]
      cases nibble? d <;> cases nibble? e <;> cases readHex? more <;> cases readHex? back <;> rfl

theorem nibble_of_readHex (chars : List Char) (bytes : Bytes) (read : readHex? chars = some bytes) :
    ∀ c ∈ chars, isAsciiBlank c = false → (nibble? c).isSome := by
  fun_induction readHex? chars generalizing bytes with
  | case1 => simp
  | case2 c rest blank ih =>
      intro d member solid
      rcases List.mem_cons.mp member with rfl | member
      · rw [solid] at blank
        cases blank
      · exact ih bytes read d member solid
  | case3 c solid => cases read
  | case4 c solid d more ih =>
      simp only [Option.bind_eq_bind, Option.bind_eq_some_iff] at read
      rcases read with ⟨high, first, low, second, others, rest, _⟩
      intro e member solid
      simp only [List.mem_cons] at member
      rcases member with rfl | rfl | member
      · rw [first]; rfl
      · rw [second]; rfl
      · exact ih others rest e member solid

theorem readHex_eq_nil_iff (chars : List Char) :
    readHex? chars = some [] ↔ ∀ c ∈ chars, isAsciiBlank c := by
  constructor
  · intro read
    fun_induction readHex? chars with
    | case1 => simp
    | case2 c rest blank ih => exact List.forall_mem_cons.mpr ⟨blank, ih read⟩
    | case3 c solid => cases read
    | case4 c solid d more ih =>
        simp only [Option.bind_eq_bind, Option.bind_eq_some_iff] at read
        rcases read with ⟨high, _, low, _, others, _, cons⟩
        cases cons
  · intro blanks
    rw [← List.append_nil chars, readHex_blanks_append chars [] blanks]
    rfl

theorem ne_nil_iff_solid (chars : List Char) (bytes : Bytes) (read : readHex? chars = some bytes) :
    bytes ≠ [] ↔ ∃ c ∈ chars, isAsciiBlank c = false := by
  have blanks := readHex_eq_nil_iff chars
  rw [read, Option.some_inj] at blanks
  rw [Ne, blanks]
  simp

/-- A blank stands between two bytes: the text divides at it into two, and either has a byte. -/
def Divided (chars : List Char) : Prop :=
  ∃ front c back first second, chars = front ++ c :: back ∧ isAsciiBlank c ∧
    readHex? front = some first ∧ readHex? back = some second ∧ first ≠ [] ∧ second ≠ []

theorem divided_iff_parted (chars : List Char) (bytes : Bytes)
    (read : readHex? chars = some bytes) : Divided chars ↔ Text.Parted isAsciiBlank chars := by
  constructor
  · rintro ⟨front, c, back, first, second, rfl, blank, before, after, filled, more⟩
    exact ⟨front, c, back, rfl, blank, (ne_nil_iff_solid front first before).mp filled,
      (ne_nil_iff_solid back second after).mp more⟩
  · rintro ⟨front, c, back, rfl, blank, solid, more⟩
    rw [readHex_append_blank front back c blank, Option.bind_eq_some_iff] at read
    rcases read with ⟨first, before, read⟩
    rcases Option.map_eq_some_iff.mp read with ⟨second, after, _⟩
    exact ⟨front, c, back, first, second, rfl, blank, before, after,
      (ne_nil_iff_solid front first before).mpr solid,
      (ne_nil_iff_solid back second after).mpr more⟩

theorem readHex_framed (chars front run back : List Char)
    (framed : Text.Framed isAsciiBlank chars front run back) :
    readHex? chars = readHex? run := by
  rcases framed with ⟨rfl, leading, _, trailing⟩
  rw [List.append_assoc, readHex_blanks_append front _ leading]
  cases back with
  | nil => rw [List.append_nil]
  | cons c back =>
      have none := (readHex_eq_nil_iff back).mpr fun d member => trailing d (by simp [member])
      rw [readHex_append_blank run back c (trailing c (by simp)), none]
      cases readHex? run <;> simp

end Bytes

namespace Number

open Text (isAsciiBlank)

theorem isMargin_blank (c : Char) (blank : isAsciiBlank c) : isMargin c := by
  simp [isMargin, blank]

theorem digit_of_digitRun (digit? : Char → Option Nat) (unmarked : digit? '_' = none)
    (chars : List Char) (digits : List Nat) (read : digitRun digit? chars = some digits) (c : Char)
    (member : c ∈ chars) (noMark : c ≠ '_') : (digit? c).isSome := by
  have told : digit? c ∈ (chars.filter (· ≠ '_')).map digit? :=
    List.mem_map_of_mem (List.mem_filter.mpr ⟨member, by simpa using noMark⟩)
  rw [map_of_digitRun digit? unmarked chars digits read] at told
  rcases List.mem_map.mp told with ⟨digit, _, found⟩
  rw [← found]
  rfl

theorem mem_splitSign (c : Char) (chars : List Char) (member : c ∈ chars) (noMinus : c ≠ '-')
    (noPlus : c ≠ '+') : c ∈ (splitSign chars).2 := by
  unfold splitSign
  split
  · simpa [noMinus] using member
  · simpa [noPlus] using member
  · exact member

theorem mem_dropHexMark (c : Char) (chars : List Char) (member : c ∈ chars)
    (noDigit : Text.decimalDigit? c = none) (noLower : c ≠ 'x') (noUpper : c ≠ 'X')
    (noUnderscore : c ≠ '_') : c ∈ dropHexMark chars := by
  unfold dropHexMark
  split
  · rename_i zero mark rest
    split
    · rename_i marked
      have noZero : c ≠ zero := by
        rintro rfl
        rw [noDigit] at marked
        cases marked.1
      have later : c ∈ rest := by
        rcases marked.2 with rfl | rfl
        · simpa [noZero, noLower] using member
        · simpa [noZero, noUpper] using member
      split
      · simpa [noUnderscore] using later
      · exact later
    · exact member
  · exact member

theorem decimalDigit_of_low (c : Char) (low : c.toNat ≤ 32) : Text.decimalDigit? c = none := by
  have above : ∀ first ∈ Text.digitZeros, 32 < first := by decide
  rw [Text.decimalDigit?, Option.map_eq_none_iff, List.find?_eq_none]
  intro first member
  have := above first member
  simp only [Bool.and_eq_true, decide_eq_true_eq]
  omega

theorem hexDigit_of_low (c : Char) (low : c.toNat ≤ 32) : hexDigit? c = none := by
  simp only [hexDigit?]
  rw [if_neg (by omega), if_neg (by omega), decimalDigit_of_low c low]

/-- No number is read where a blank is left after the margins: the codes of signs, marks and digits
are above those of the blanks. -/
theorem readHex_of_blank (chars : List Char) (c : Char) (blank : isAsciiBlank c)
    (member : c ∈ Text.trimBoth isMargin chars) : readHex? chars = none := by
  have low := Text.code_of_isAsciiBlank c blank
  have other (d : Char) (high : 32 < d.toNat) : c ≠ d := by
    rintro rfl
    omega
  have signed := mem_splitSign c _ member (other '-' (by decide)) (other '+' (by decide))
  have noMark := other '_' (by decide)
  have left := mem_dropHexMark c _ signed (decimalDigit_of_low c low) (other 'x' (by decide))
    (other 'X' (by decide)) noMark
  apply Option.eq_none_iff_forall_ne_some.mpr
  intro n read
  simp only [readHex?, Option.bind_eq_bind, Option.bind_eq_some_iff] at read
  rcases read with ⟨digits, ran, _⟩
  have digit := digit_of_digitRun hexDigit? (by decide) _ digits ran c left noMark
  rw [hexDigit_of_low c low] at digit
  cases digit

section Accepted

variable (chars : List Char) (bytes : Bytes) (read : Bytes.readHex? chars = some bytes)
include read

theorem margin_of_accepted (c : Char) (member : c ∈ chars) (solid : isAsciiBlank c = false) :
    isMargin c = false := by
  have digit := Bytes.nibble_of_readHex chars bytes read c member solid
  exact isMargin_of_nibble c _ (Bytes.nibble?_of_isSome c digit)

theorem readHex_of_divided (divided : Bytes.Divided chars) : readHex? chars = none := by
  rcases (Bytes.divided_iff_parted chars bytes read).mp divided with
    ⟨front, c, back, rfl, blank, ⟨d, before, first⟩, e, after, last⟩
  apply readHex_of_blank _ c blank
  apply Text.mem_trimBoth
  · exact ⟨d, before, margin_of_accepted _ bytes read d (by simp [before]) first⟩
  · exact ⟨e, after, margin_of_accepted _ bytes read e (by simp [after]) last⟩

theorem readHex_of_undivided (filled : bytes ≠ []) (undivided : ¬Bytes.Divided chars) :
    readHex? chars = some (bytes.toNat : Int) := by
  rcases Text.parted_or_framed isAsciiBlank chars with parted | ⟨front, run, back, framed⟩
  · exact absurd ((Bytes.divided_iff_parted chars bytes read).mpr parted) undivided
  have inside (c : Char) (member : c ∈ run) : c ∈ chars := by
    rw [framed.whole]
    simp [member]
  have digits : Bytes.IsHexRun run := fun c member =>
    Bytes.nibble_of_readHex chars bytes read c (inside c member) (framed.solid c member)
  have margins : Text.Framed isMargin chars front run back :=
    { whole := framed.whole
      leading := fun c member => isMargin_blank c (framed.leading c member)
      solid := fun c member =>
        margin_of_accepted chars bytes read c (inside c member) (framed.solid c member)
      trailing := fun c member => isMargin_blank c (framed.trailing c member) }
  have same : readHex? chars = readHex? run := by
    simp only [readHex?, Text.trimBoth_framed isMargin chars front run back margins,
      Text.trimBoth_eq_self isMargin run margins.solid]
  rw [Bytes.readHex_framed chars front run back framed] at read
  rw [same, readHex_of_bytes run digits bytes filled read]

end Accepted

end Number

namespace Keys

/-- A private key of no more than 32 bytes that is accepted is one number, however it is read. It is
not read as a number exactly if a blank stands between two of its bytes; then no secret is shared.
-/
theorem ofText_readings (text : String) (keys : Keys) (accepted : ofText text = .ok keys) :
    ∃ bytes, Bytes.ofHex? text = some bytes ∧
      (bytes.length ≤ 32 →
        keys.scalar = bytes.toNat ∧ keys.publicKey = Curve.publicHex bytes.toNat ∧
        (Number.readHex? text.toList = some (bytes.toNat : Int) ∧
            Curve.scalarOfNumber? text = some bytes.toNat ∨
          Number.readHex? text.toList = none ∧
            ∀ peer, Curve.sharedSecret text peer = .error .malformed) ∧
        (Number.readHex? text.toList = none ↔ Bytes.Divided text.toList)) := by
  obtain rfl := (ofText_eq_ok text keys).mp accepted
  obtain ⟨bytes, read, filled, positive, small, scalar⟩ := keys.exists_bytes
  refine ⟨bytes, read, fun short => ?_⟩
  rw [List.take_of_length_le short] at scalar
  refine ⟨scalar, by rw [keys.derived, scalar], ?_⟩
  by_cases divided : Bytes.Divided keys.text.toList
  · have unread := Number.readHex_of_divided _ bytes read divided
    have secretless (peer : String) : Curve.sharedSecret keys.text peer = .error .malformed := by
      simp [Curve.sharedSecret, Curve.sharedSecret?, Curve.scalarOfNumber?, unread]
    exact ⟨Or.inr ⟨unread, secretless⟩, iff_of_true unread divided⟩
  · have number := Number.readHex_of_undivided _ bytes read filled divided
    have found := Curve.scalarOfNumber_of_readHex keys.text bytes.toNat number positive small
    refine ⟨Or.inl ⟨number, found⟩, iff_of_false ?_ divided⟩
    rw [number]
    exact Option.some_ne_none _

def keysParted : Keys := ⟨" 06\t00\n", 1536, Curve.publicHex 1536, by decide +kernel, rfl⟩

theorem ofText_readings_parted :
    ofText " 06\t00\n" = .ok keysParted ∧ Bytes.ofHex? " 06\t00\n" = some [6, 0] ∧
      [6, 0].length ≤ 32 ∧ keysParted.scalar = Bytes.toNat [6, 0] ∧
      Bytes.Divided " 06\t00\n".toList ∧ Number.readHex? " 06\t00\n".toList = none := by
  have accepted : ofText " 06\t00\n" = .ok keysParted := ofText_text keysParted
  have read : Bytes.ofHex? " 06\t00\n" = some [6, 0] := by decide +kernel
  have short : [6, 0].length ≤ 32 := by decide
  have divided : Bytes.Divided " 06\t00\n".toList :=
    ⟨[' ', '0', '6'], '\t', ['0', '0', '\n'], [6], [0], by decide +kernel⟩
  obtain ⟨bytes, found, agrees⟩ := ofText_readings " 06\t00\n" keysParted accepted
  obtain rfl : bytes = [6, 0] := Option.some.inj (found.symm.trans read)
  obtain ⟨scalar, _, _, unread⟩ := agrees short
  exact ⟨accepted, read, short, scalar, divided, unread.mpr divided⟩

end Keys

end TradeWire
