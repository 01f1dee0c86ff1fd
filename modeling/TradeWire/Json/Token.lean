import TradeWire.Json.Basic
/-! The tokens of a JSON text. -/

namespace TradeWire.Json

open Number

inductive Token where
  | openList | closeList | openObject | closeObject | comma | colon
  | scalar (value : Json)
  | text (content : String)
  | halved
  | tooLong
  | junk

namespace Token

def digitsOf (chars : List Char) : List Nat := chars.map fun c => c.toNat - 48

/-- The digits behind a point; a point without digits is left alone. -/
def scanFraction : List Char → List Char × List Char
  | '.' :: rest =>
      if (rest.takeWhile Char.isDigit).isEmpty then ([], '.' :: rest)
      else (rest.takeWhile Char.isDigit, rest.dropWhile Char.isDigit)
  | chars => ([], chars)

/-- The power behind an `e`; an `e` without digits is left alone. -/
def scanPower : List Char → Option Int × List Char
  | [] => (none, [])
  | mark :: rest =>
      let (negative, body) := splitSign rest
      let digits := body.takeWhile Char.isDigit
      if (mark = 'e' ∨ mark = 'E') ∧ !digits.isEmpty then
        (some (withSign negative (ofDigits 10 (digitsOf digits))), body.dropWhile Char.isDigit)
      else (none, mark :: rest)

def number (negative : Bool) (whole rest : List Char) : Token × List Char :=
  let (fraction, afterFraction) := scanFraction rest
  let (power, more) := scanPower afterFraction
  match fraction, power with
  | [], none =>
      if whole.length ≤ maxDigits then
        (scalar (.int (withSign negative (ofDigits 10 (digitsOf whole)))), more)
      else (tooLong, more)
  | _, _ =>
      (scalar (.float (Double.ofWritten negative (digitsOf whole) (digitsOf fraction)
        (power.getD 0))), more)

def afterWord? (word : String) (chars : List Char) : Option (List Char) :=
  if word.toList.isPrefixOf chars then some (chars.drop word.toList.length) else none

def word (word : String) (value : Json) (chars : List Char) : Token × List Char :=
  match afterWord? word chars with
  | some rest => (scalar value, rest)
  | none => (junk, [])

def scanNumber (negative : Bool) (chars : List Char) : Token × List Char :=
  match chars with
  | '0' :: rest => number negative ['0'] rest
  | c :: rest =>
      if c.isDigit then
        number negative (c :: rest.takeWhile Char.isDigit) (rest.dropWhile Char.isDigit)
      else if negative then word "Infinity" (.float (.infinite true)) chars
      else (junk, [])
  | [] => (junk, [])

def hexUnit? (chars : List Char) : Option Nat :=
  chars.foldl
    (fun value c => do
      let value ← value
      if c.isDigit then some (value * 16 + (c.toNat - 48))
      else if 97 ≤ c.toNat ∧ c.toNat ≤ 102 then some (value * 16 + (c.toNat - 87))
      else if 65 ≤ c.toNat ∧ c.toNat ≤ 70 then some (value * 16 + (c.toNat - 55))
      else none)
    (some 0)

def pairChar (high low : Nat) : Char :=
  Char.ofNat (0x10000 + (high - 0xD800) * 0x400 + (low - 0xDC00))

def shortEscape? : Char → Option Char
  | '"' => some '"'
  | '\\' => some '\\'
  | '/' => some '/'
  | 'b' => some '\x08'
  | 'f' => some '\x0c'
  | 'n' => some '\n'
  | 'r' => some '\r'
  | 't' => some '\t'
  | _ => none

/-- Where the reader stands inside a text. A character beyond the first plane is written as two
units, a high and a low half; one half alone is no character, and its text is only skipped. -/
inductive TextState where
  | plain
  | escape
  | unit (digits : List Char)
  | half (high : Nat)
  | halfEscape (high : Nat)
  | halfUnit (high : Nat) (digits : List Char)

def isHighHalf (unit : Nat) : Bool := 0xD800 ≤ unit && unit ≤ 0xDBFF
def isLowHalf (unit : Nat) : Bool := 0xDC00 ≤ unit && unit ≤ 0xDFFF

def scanText (state : TextState) (done : List Char) : List Char → Option (List Char × List Char)
  | [] => none
  | c :: rest =>
      match state with
      | .plain =>
          if c = '"' then some (done.reverse, rest)
          else if c = '\\' then scanText .escape done rest
          else if c.toNat < 32 then none
          else scanText .plain (c :: done) rest
      | .escape =>
          if c = 'u' then scanText (.unit []) done rest
          else
            match shortEscape? c with
            | some short => scanText .plain (short :: done) rest
            | none => none
      | .unit digits =>
          if digits.length < 3 then scanText (.unit (c :: digits)) done rest
          else
            match hexUnit? (c :: digits).reverse with
            | some unit =>
                if isHighHalf unit then scanText (.half unit) done rest
                else if isLowHalf unit then none
                else scanText .plain (Char.ofNat unit :: done) rest
            | none => none
      | .half high => if c = '\\' then scanText (.halfEscape high) done rest else none
      | .halfEscape high => if c = 'u' then scanText (.halfUnit high []) done rest else none
      | .halfUnit high digits =>
          if digits.length < 3 then scanText (.halfUnit high (c :: digits)) done rest
          else
            match hexUnit? (c :: digits).reverse with
            | some unit =>
                if isLowHalf unit then scanText .plain (pairChar high unit :: done) rest else none
            | none => none

inductive SkipState where
  | plain
  | escape
  | unit (digits : List Char)

def skipText (state : SkipState) : List Char → Option (List Char)
  | [] => none
  | c :: rest =>
      match state with
      | .plain =>
          if c = '"' then some rest
          else if c = '\\' then skipText .escape rest
          else if c.toNat < 32 then none
          else skipText .plain rest
      | .escape =>
          if c = 'u' then skipText (.unit []) rest
          else (shortEscape? c).bind fun _ => skipText .plain rest
      | .unit digits =>
          if digits.length < 3 then skipText (.unit (c :: digits)) rest
          else (hexUnit? (c :: digits).reverse).bind fun _ => skipText .plain rest

def quotedText (chars : List Char) : Token × List Char :=
  match scanText .plain [] chars with
  | some (content, more) => (text (String.ofList content), more)
  | none =>
      match skipText .plain chars with
      | some more => (halved, more)
      | none => (junk, [])

/-- The token that starts with `c`, and the text behind it. -/
def next (c : Char) (rest : List Char) : Token × List Char :=
  match c with
  | '[' => (openList, rest)
  | ']' => (closeList, rest)
  | '{' => (openObject, rest)
  | '}' => (closeObject, rest)
  | ',' => (comma, rest)
  | ':' => (colon, rest)
  | '"' => quotedText rest
  | 'n' => word "ull" .null rest
  | 't' => word "rue" (.bool true) rest
  | 'f' => word "alse" (.bool false) rest
  | 'N' => word "aN" (.float .nan) rest
  | 'I' => word "nfinity" (.float (.infinite false)) rest
  | '-' => scanNumber true rest
  | c => scanNumber false (c :: rest)

theorem scanFraction_length (chars : List Char) :
    (scanFraction chars).2.length ≤ chars.length := by
  unfold scanFraction
  split
  · split
    · simp
    · rename_i rest _
      have shorter := (List.dropWhile_suffix (l := rest) Char.isDigit).length_le
      simp only [List.length_cons]
      omega
  · simp

theorem splitSign_length (chars : List Char) : (splitSign chars).2.length ≤ chars.length := by
  unfold splitSign
  split <;> simp

theorem scanPower_length (chars : List Char) : (scanPower chars).2.length ≤ chars.length := by
  unfold scanPower
  split
  · simp
  · rename_i mark rest
    have shorter := (List.dropWhile_suffix (l := (splitSign rest).2) Char.isDigit).length_le
    have signed := splitSign_length rest
    simp only []
    split
    · simp only [List.length_cons]
      omega
    · simp

theorem number_length (negative : Bool) (whole rest : List Char) :
    (number negative whole rest).2.length ≤ rest.length := by
  have fraction := scanFraction_length rest
  have power := scanPower_length (scanFraction rest).2
  unfold number
  simp only []
  split
  · split <;> exact Nat.le_trans power fraction
  · exact Nat.le_trans power fraction

theorem word_length (name : String) (value : Json) (chars : List Char) :
    (word name value chars).2.length ≤ chars.length := by
  unfold word afterWord?
  split
  · rename_i rest found
    split at found
    · cases found
      simp only [List.length_drop]
      omega
    · cases found
  · simp

theorem scanNumber_length (negative : Bool) (chars : List Char) (c : Char) (rest : List Char)
    (same : chars = c :: rest) (junkOrDigit : negative = false) :
    (scanNumber negative chars).2.length ≤ rest.length := by
  subst same junkOrDigit
  unfold scanNumber
  split
  · rename_i more shape
    cases shape
    exact number_length ..
  · rename_i head tail _ shape
    cases shape
    split
    · have shorter := (List.dropWhile_suffix (l := rest) Char.isDigit).length_le
      exact Nat.le_trans (number_length ..) shorter
    · simp
  · simp

theorem scanNumber_length_le (negative : Bool) (chars : List Char) :
    (scanNumber negative chars).2.length ≤ chars.length := by
  unfold scanNumber
  split
  · exact Nat.le_trans (number_length ..) (by simp)
  · rename_i head tail _
    split
    · have shorter := (List.dropWhile_suffix (l := tail) Char.isDigit).length_le
      have := number_length negative (head :: tail.takeWhile Char.isDigit)
        (tail.dropWhile Char.isDigit)
      simp only [List.length_cons]
      omega
    · split
      · exact word_length ..
      · simp
  · simp

theorem scanText_length (chars : List Char) :
    ∀ (state : TextState) (done content more : List Char),
      scanText state done chars = some (content, more) → more.length ≤ chars.length := by
  induction chars with
  | nil => intro state done content more found; simp [scanText] at found
  | cons c rest ih =>
      intro state done content more found
      have step : ∀ state done, scanText state done rest = some (content, more) →
          more.length ≤ (c :: rest).length := by
        intro state done later
        have := ih state done content more later
        simp only [List.length_cons]
        omega
      have stop : ∀ text : List Char, some (text, rest) = some (content, more) →
          more.length ≤ (c :: rest).length := by
        intro text ended
        cases ended
        simp
      unfold scanText at found
      repeat' split at found
      all_goals first
        | exact step _ _ found
        | exact stop _ found
        | cases found

theorem skipText_length (chars : List Char) :
    ∀ (state : SkipState) (more : List Char),
      skipText state chars = some more → more.length ≤ chars.length := by
  induction chars with
  | nil => intro state more found; simp [skipText] at found
  | cons c rest ih =>
      intro state more found
      have step : ∀ state, skipText state rest = some more → more.length ≤ (c :: rest).length := by
        intro state later
        have := ih state more later
        simp only [List.length_cons]
        omega
      unfold skipText at found
      repeat' split at found
      case h_1.isTrue =>
        cases found
        simp
      case h_2.isFalse | h_3.isFalse =>
        rcases Option.bind_eq_some_iff.mp found with ⟨_, _, later⟩
        exact step _ later
      all_goals first | exact step _ found | cases found

theorem quotedText_length (chars : List Char) : (quotedText chars).2.length ≤ chars.length := by
  unfold quotedText
  split
  · rename_i content more found
    exact scanText_length chars _ _ _ _ found
  · split
    · rename_i more found
      exact skipText_length chars _ _ found
    · simp

theorem next_length (c : Char) (rest : List Char) : (next c rest).2.length ≤ rest.length := by
  unfold next
  split
  case h_7 => exact quotedText_length rest
  case h_13 => exact scanNumber_length_le ..
  case h_14 => exact scanNumber_length false _ c rest rfl rfl
  all_goals first | exact Nat.le_refl _ | exact word_length ..

end Token

def isSpace (c : Char) : Bool := c == ' ' || c == '\t' || c == '\n' || c == '\r'

def tokens : List Char → List Token
  | [] => []
  | c :: rest =>
      if isSpace c then tokens rest
      else
        match h : Token.next c rest with
        | (.junk, _) => [.junk]
        | (token, more) =>
            have : more.length < rest.length + 1 := by
              have shorter := Token.next_length c rest
              rw [h] at shorter
              exact Nat.lt_succ_of_le shorter
            token :: tokens more
  termination_by chars => chars.length

end TradeWire.Json
