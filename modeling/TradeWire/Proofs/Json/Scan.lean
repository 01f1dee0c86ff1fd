import Mathlib.Algebra.GroupWithZero.Nat
import TradeWire.Json.Reader
import TradeWire.Json.Writer
/-! Written texts and integers are scanned back as one token. -/

namespace TradeWire

theorem Number.fits_iff (n : Int) : fits n ↔ n.natAbs < 10 ^ maxDigits := by
  simp only [fits, decide_eq_true_eq, Nat.pow_eq]

theorem Number.fits_of_lt (n : Int) (small : n.natAbs < 10 ^ 100) : fits n := by
  have digits : 100 ≤ maxDigits := by decide
  rw [fits_iff]
  exact Nat.lt_of_lt_of_le small (Nat.pow_le_pow_right (by decide) digits)

namespace Json

namespace Token

theorem hexUnit_hexDigit (digits : List Char) (value d : Nat) (small : d < 16)
    (read : hexUnit? digits = some value) :
    hexUnit? (digits ++ [Text.hexDigit d]) = some (value * 16 + d) := by
  have place : ∀ d < 16,
      let c := Text.hexDigit d
      (c.isDigit ∧ c.toNat - 48 = d) ∨
        (c.isDigit = false ∧ 97 ≤ c.toNat ∧ c.toNat ≤ 102 ∧ c.toNat - 87 = d) := by
    decide
  unfold hexUnit? at read ⊢
  rw [List.foldl_append, read]
  rcases place d small with ⟨isDigit, same⟩ | ⟨noDigit, low, high, same⟩
  · simp [isDigit, same]
  · simp [noDigit, low, high, same]

theorem hexUnit_fixedHex (width n : Nat) (small : n < 16 ^ width) :
    hexUnit? (Text.fixedHex width n) = some n := by
  induction width generalizing n with
  | zero =>
      have : n = 0 := by simpa using small
      subst this
      rfl
  | succ width ih =>
      have rest : n / 16 < 16 ^ width := by
        rw [Nat.div_lt_iff_lt_mul (by decide)]
        simpa [Nat.pow_succ] using small
      rw [Text.fixedHex, hexUnit_hexDigit _ _ _ (Nat.mod_lt n (by decide)) (ih (n / 16) rest)]
      congr 1
      omega

theorem fixedHex_four (n : Nat) :
    ∃ a b c d, Text.fixedHex 4 n = [a, b, c, d] := by
  simp [Text.fixedHex]

theorem scanText_unitEscape (unit : Nat) (small : unit < 0x10000) (done rest : List Char) :
    scanText .plain done (unitEscape unit ++ rest) =
      if isHighHalf unit then scanText (.half unit) done rest
      else if isLowHalf unit then none
      else scanText .plain (Char.ofNat unit :: done) rest := by
  have value := hexUnit_fixedHex 4 unit (by simpa using small)
  rcases fixedHex_four unit with ⟨a, b, c, d, digits⟩
  rw [digits] at value
  simp [unitEscape, digits, scanText, value]

theorem scanText_lowHalf (high unit : Nat) (small : unit < 0x10000) (low : isLowHalf unit)
    (done rest : List Char) :
    scanText (.half high) done (unitEscape unit ++ rest) =
      scanText .plain (pairChar high unit :: done) rest := by
  have value := hexUnit_fixedHex 4 unit (by simpa using small)
  rcases fixedHex_four unit with ⟨a, b, c, d, digits⟩
  rw [digits] at value
  simp [unitEscape, digits, scanText, value, low]

theorem toNat_lt (c : Char) : c.toNat < 0x110000 := by
  rcases c.valid with low | ⟨_, high⟩
  · exact Nat.lt_trans low (by decide)
  · exact high

theorem not_half (c : Char) : isHighHalf c.toNat = false ∧ isLowHalf c.toNat = false := by
  have valid : c.toNat < 0xD800 ∨ 0xDFFF < c.toNat ∧ c.toNat < 0x110000 := c.valid
  simp only [isHighHalf, isLowHalf, Bool.and_eq_false_iff, decide_eq_false_iff_not]
  omega

theorem scanText_charEscape (c : Char) (small : c.toNat < 0x10000) (done rest : List Char) :
    scanText .plain done (unitEscape c.toNat ++ rest) = scanText .plain (c :: done) rest := by
  rw [scanText_unitEscape c.toNat small, (not_half c).1, (not_half c).2]
  simp [Char.ofNat_toNat]

theorem scanText_pairEscape (c : Char) (large : 0x10000 ≤ c.toNat) (done rest : List Char) :
    scanText .plain done (pairEscape c.toNat ++ rest) = scanText .plain (c :: done) rest := by
  have bound := toNat_lt c
  have high : isHighHalf (0xD800 + (c.toNat - 0x10000) / 0x400) = true := by
    simp only [isHighHalf, Bool.and_eq_true, decide_eq_true_eq]
    omega
  have low : isLowHalf (0xDC00 + (c.toNat - 0x10000) % 0x400) = true := by
    simp only [isLowHalf, Bool.and_eq_true, decide_eq_true_eq]
    omega
  have joined : pairChar (0xD800 + (c.toNat - 0x10000) / 0x400)
      (0xDC00 + (c.toNat - 0x10000) % 0x400) = c := by
    have number : 0x10000 + (0xD800 + (c.toNat - 0x10000) / 0x400 - 0xD800) * 0x400 +
        (0xDC00 + (c.toNat - 0x10000) % 0x400 - 0xDC00) = c.toNat := by
      omega
    rw [pairChar, number, Char.ofNat_toNat]
  rw [pairEscape, List.append_assoc, scanText_unitEscape _ (by omega), if_pos high,
    scanText_lowHalf _ _ (by omega) low, joined]

theorem scanText_escapeChar (asciiOnly : Bool) (c : Char) (done rest : List Char) :
    scanText .plain done (escapeChar asciiOnly c ++ rest) = scanText .plain (c :: done) rest := by
  rw [escapeChar]
  split
  · subst c; simp [scanText, shortEscape?]
  split
  · subst c; simp [scanText, shortEscape?]
  split
  · subst c; simp [scanText, shortEscape?]
  split
  · subst c; simp [scanText, shortEscape?]
  split
  · subst c; simp [scanText, shortEscape?]
  split
  · subst c; simp [scanText, shortEscape?]
  split
  · subst c; simp [scanText, shortEscape?]
  split
  · exact scanText_charEscape c (by omega) done rest
  split
  · split
    · exact scanText_charEscape c ‹_› done rest
    · exact scanText_pairEscape c (by omega) done rest
  · rename_i noQuote noBackslash _ _ _ _ _ noControl _
    simp [scanText, noQuote, noBackslash, noControl]

theorem scanText_escaped (asciiOnly : Bool) (chars done rest : List Char) :
    scanText .plain done (chars.flatMap (escapeChar asciiOnly) ++ '"' :: rest) =
      some (done.reverse ++ chars, rest) := by
  induction chars generalizing done with
  | nil => simp [scanText]
  | cons c chars ih =>
      rw [List.flatMap_cons, List.append_assoc, scanText_escapeChar, ih]
      simp

end Token

open Token

theorem tokens_cons (c : Char) (rest : List Char) (token : Token) (more : List Char)
    (visible : isSpace c = false) (scanned : next c rest = (token, more))
    (proper : token ≠ .junk) : tokens (c :: rest) = token :: tokens more := by
  rw [tokens, if_neg (by simp [visible])]
  split
  · rename_i found
    rw [scanned] at found
    cases found
    exact absurd rfl proper
  · rename_i found
    rw [scanned] at found
    cases found
    rfl

theorem tokens_writeText (asciiOnly : Bool) (text : String) (rest : List Char) :
    tokens (writeText asciiOnly text ++ rest) = .text text :: tokens rest := by
  have scanned : scanText .plain [] (text.toList.flatMap (escapeChar asciiOnly) ++ ['"'] ++ rest) =
      some (text.toList, rest) := by
    simpa using scanText_escaped asciiOnly text.toList [] rest
  have token : next '"' (text.toList.flatMap (escapeChar asciiOnly) ++ ['"'] ++ rest) =
      (.text text, rest) := by
    rw [next, quotedText, scanned]
    simp
  exact tokens_cons _ _ _ _ rfl token Token.noConfusion

def endsNumber : List Char → Bool
  | [] => true
  | c :: _ => !c.isDigit && c != '.' && c != 'e' && c != 'E'

namespace Token

theorem takeWhile_digits (digits rest : List Char) (allDigits : ∀ c ∈ digits, c.isDigit)
    (ends : endsNumber rest) :
    (digits ++ rest).takeWhile Char.isDigit = digits ∧
      (digits ++ rest).dropWhile Char.isDigit = rest := by
  induction digits with
  | nil =>
      cases rest with
      | nil => simp
      | cons c rest =>
          have noDigit : c.isDigit = false := by
            simp only [endsNumber, Bool.and_eq_true, Bool.not_eq_true'] at ends
            exact ends.1.1.1
          simp [noDigit]
  | cons digit digits ih =>
      have first := allDigits digit (by simp)
      have others := ih fun c member => allDigits c (List.mem_cons_of_mem _ member)
      simp [first, others]

theorem scanFraction_ends (rest : List Char) (ends : endsNumber rest) :
    scanFraction rest = ([], rest) := by
  cases rest with
  | nil => rfl
  | cons c rest =>
      have noPoint : c ≠ '.' := by
        simp only [endsNumber, Bool.and_eq_true, bne_iff_ne] at ends
        exact ends.1.1.2
      unfold scanFraction
      split
      · rename_i same
        cases same
        exact absurd rfl noPoint
      · rfl

theorem scanPower_ends (rest : List Char) (ends : endsNumber rest) :
    scanPower rest = (none, rest) := by
  cases rest with
  | nil => rfl
  | cons c rest =>
      simp only [endsNumber, Bool.and_eq_true, bne_iff_ne] at ends
      simp [scanPower, ends.1.2, ends.2]

theorem ofDigits_toDigits (n : Nat) :
    Number.ofDigits 10 (digitsOf (Nat.toDigits 10 n)) = n := by
  calc
    Number.ofDigits 10 (digitsOf (Nat.toDigits 10 n)) =
        Nat.ofDigitChars 10 (Nat.toDigits 10 n) 0 := by
      rw [Nat.ofDigitChars_eq_foldl, Number.ofDigits, digitsOf, List.foldl_map]
      simp only [Nat.mul_comm, Char.reduceToNat]
    _ = n := Nat.ofDigitChars_ten_toDigits

theorem isDigit_toDigits (n : Nat) : ∀ c ∈ Nat.toDigits 10 n, c.isDigit :=
  fun _ member => Nat.isDigit_of_mem_toDigits (by decide) (by decide) member

theorem exists_toDigits (n : Nat) : ∃ c digits, Nat.toDigits 10 n = c :: digits ∧ c.isDigit := by
  cases written : Nat.toDigits 10 n with
  | nil => exact absurd written Nat.toDigits_ne_nil
  | cons c digits =>
      exact ⟨c, digits, rfl, isDigit_toDigits n c (written ▸ List.mem_cons_self)⟩

theorem toList_ofNat (n : Nat) : (Int.ofNat n).repr.toList = Nat.toDigits 10 n := by
  rw [Int.repr, Nat.toList_repr]

theorem toList_negSucc (n : Nat) :
    (Int.negSucc n).repr.toList = '-' :: Nat.toDigits 10 (n + 1) := by
  simp [Int.repr, Nat.toList_repr]

theorem toDigits_head (n : Nat) (positive : 0 < n) :
    ∃ c digits, Nat.toDigits 10 n = c :: digits ∧ c ≠ '0' := by
  induction n using Nat.strongRecOn with
  | ind n ih =>
      by_cases small : n < 10
      · refine ⟨n.digitChar, [], Nat.toDigits_of_lt_base small, ?_⟩
        have nonzero : ∀ d < 10, 0 < d → d.digitChar ≠ '0' := by decide
        exact nonzero n small positive
      · rcases ih (n / 10) (by omega) (by omega) with ⟨c, digits, written, nonzero⟩
        refine ⟨c, digits ++ [(n % 10).digitChar], ?_, nonzero⟩
        rw [Nat.toDigits_of_base_le (by decide) (by omega), written]
        rfl

theorem scanNumber_toDigits (negative : Bool) (n : Nat) (fits : n < 10 ^ Number.maxDigits)
    (rest : List Char) (ends : endsNumber rest) :
    scanNumber negative (Nat.toDigits 10 n ++ rest) =
      (scalar (.int (Number.withSign negative n)), rest) := by
  have short : (Nat.toDigits 10 n).length ≤ Number.maxDigits :=
    (Nat.length_toDigits_le_iff (by decide) (by decide)).mpr fits
  have scanned : number negative (Nat.toDigits 10 n) rest =
      (scalar (.int (Number.withSign negative n)), rest) := by
    simp only [number, scanFraction_ends rest ends, scanPower_ends rest ends]
    rw [if_pos short, ofDigits_toDigits]
  rcases Nat.eq_zero_or_pos n with zero | positive
  · subst n
    exact scanned
  · rcases toDigits_head n positive with ⟨c, digits, written, nonzero⟩
    have allDigits : ∀ d ∈ c :: digits, d.isDigit := written ▸ isDigit_toDigits n
    have split := takeWhile_digits digits rest
      (fun d member => allDigits d (List.mem_cons_of_mem _ member)) ends
    rw [written] at scanned ⊢
    rw [List.cons_append, scanNumber]
    · rw [if_pos (allDigits c (by simp)), split.1, split.2, scanned]
    · simpa using nonzero

end Token

theorem next_digit (c : Char) (rest : List Char) (digit : c.isDigit) :
    isSpace c = false ∧ next c rest = scanNumber false (c :: rest) := by
  have differs (d : Char) (noDigit : d.isDigit = false) : c ≠ d := by
    intro same
    subst same
    rw [digit] at noDigit
    cases noDigit
  constructor
  · simp only [isSpace, Bool.or_eq_false_iff, beq_eq_false_iff_ne]
    exact ⟨⟨⟨differs _ rfl, differs _ rfl⟩, differs _ rfl⟩, differs _ rfl⟩
  · unfold next
    split
    case h_14 => rfl
    all_goals exact absurd rfl (differs _ rfl)

theorem tokens_toDigits (n : Nat) (fits : n < 10 ^ Number.maxDigits) (rest : List Char)
    (ends : endsNumber rest) :
    tokens (Nat.toDigits 10 n ++ rest) = .scalar (.int n) :: tokens rest := by
  have scanned := scanNumber_toDigits false n fits rest ends
  rcases exists_toDigits n with ⟨c, digits, written, digit⟩
  rcases next_digit c (digits ++ rest) digit with ⟨visible, first⟩
  rw [written] at scanned ⊢
  exact tokens_cons c (digits ++ rest) _ _ visible (first.trans scanned) Token.noConfusion

theorem tokens_int (n : Int) (fits : Number.fits n) (rest : List Char) (ends : endsNumber rest) :
    tokens ((toString n).toList ++ rest) = .scalar (.int n) :: tokens rest := by
  have bound := (Number.fits_iff n).mp fits
  rw [Int.toString_eq_repr]
  cases n with
  | ofNat n =>
      rw [toList_ofNat]
      exact tokens_toDigits n bound rest ends
  | negSucc n =>
      rw [toList_negSucc]
      exact tokens_cons '-' _ _ _ rfl (scanNumber_toDigits true (n + 1) bound rest ends)
        Token.noConfusion

end Json

end TradeWire
