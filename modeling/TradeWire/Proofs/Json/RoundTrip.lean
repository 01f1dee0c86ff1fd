import TradeWire.Proofs.Json.Scan
import TradeWire.Proofs.Json.Skimming
/-! What is written is read back: a value without finite floats, in any of the styles of writing. -/

namespace TradeWire.Json

mutual

def everywhere (test : Json → Bool) : Json → Bool
  | arr items => test (arr items) && everyItem test items
  | obj fields => test (obj fields) && everyField test fields
  | value => test value

def everyItem (test : Json → Bool) : List Json → Bool
  | [] => true
  | item :: items => everywhere test item && everyItem test items

def everyField (test : Json → Bool) : List (String × Json) → Bool
  | [] => true
  | (_, value) :: fields => everywhere test value && everyField test fields

end

/-- Of the floats only the infinite ones, which are written as words. -/
def isExact : Json → Bool
  | float (.infinite _) => true
  | float _ => false
  | _ => true

def hasDistinctKeys : Json → Bool
  | obj fields => decide (fields.map (·.1)).Nodup
  | _ => true

theorem everywhere_ofOption {α : Type} (test : Json → Bool) (encode : α → Json) (a : Option α)
    (null : test .null) (proper : ∀ a, (encode a).everywhere test) :
    (ofOption encode a).everywhere test := by
  cases a with
  | none => exact null
  | some a => exact proper a

theorem writable_ofOption {α : Type} (encode : α → Json) (a : Option α)
    (fits : ∀ value, a = some value → (encode value).writable) : (ofOption encode a).writable := by
  cases a with
  | none => rfl
  | some a => exact fits a rfl

mutual

def tokensOf : Json → List Token
  | str text => [.text text]
  | arr [] => [.openList, .closeList]
  | arr (item :: items) => .openList :: (tokensOf item ++ tokensOfItems items)
  | obj [] => [.openObject, .closeObject]
  | obj ((key, value) :: fields) =>
      .openObject :: .text key :: .colon :: (tokensOf value ++ tokensOfFields fields)
  | value => [.scalar value]

def tokensOfItems : List Json → List Token
  | [] => [.closeList]
  | item :: items => .comma :: (tokensOf item ++ tokensOfItems items)

def tokensOfFields : List (String × Json) → List Token
  | [] => [.closeObject]
  | (key, value) :: fields =>
      .comma :: .text key :: .colon :: (tokensOf value ++ tokensOfFields fields)

end

structure Style.Separates (style : Style) : Prop where
  comma : ∀ rest, tokens (style.comma ++ rest) = .comma :: tokens rest
  colon : ∀ rest, tokens (style.colon ++ rest) = .colon :: tokens rest
  ends : ∀ rest, endsNumber (style.comma ++ rest)

theorem Style.separates_compact : Style.compact.Separates where
  comma _ := tokens_cons _ _ _ _ rfl rfl Token.noConfusion
  colon _ := tokens_cons _ _ _ _ rfl rfl Token.noConfusion
  ends _ := rfl

theorem tokens_blank (rest : List Char) : tokens (' ' :: rest) = tokens rest := by
  rw [tokens, if_pos (show isSpace ' ' = true from rfl)]

theorem Style.separates_spaced : Style.spaced.Separates where
  comma rest := (tokens_cons _ _ _ _ rfl rfl Token.noConfusion).trans
    (congrArg _ (tokens_blank rest))
  colon rest := (tokens_cons _ _ _ _ rfl rfl Token.noConfusion).trans
    (congrArg _ (tokens_blank rest))
  ends _ := rfl

theorem endsNumber_writeItems (style : Style) (separates : style.Separates) (items : List Json)
    (rest : List Char) : endsNumber (writeItems style items ++ rest) := by
  cases items with
  | nil => rfl
  | cons item items =>
      rw [writeItems, List.append_assoc, List.append_assoc]
      exact separates.ends _

theorem endsNumber_writeFields (style : Style) (separates : style.Separates)
    (fields : List (String × Json)) (rest : List Char) :
    endsNumber (writeFields style fields ++ rest) := by
  cases fields with
  | nil => rfl
  | cons field fields =>
      simp only [writeFields, List.append_assoc]
      exact separates.ends _

theorem tokens_word (c : Char) (name : String) (value : Json) (rest : List Char)
    (visible : isSpace c = false)
    (scanned : Token.next c (name.toList ++ rest) = Token.word name value (name.toList ++ rest)) :
    tokens (c :: name.toList ++ rest) = .scalar value :: tokens rest := by
  have found : Token.word name value (name.toList ++ rest) = (.scalar value, rest) := by
    simp [Token.word, Token.afterWord?]
  exact tokens_cons c _ _ _ visible (scanned.trans found) Token.noConfusion

mutual

theorem tokens_write (style : Style) (separates : style.Separates) : (value : Json) →
    value.everywhere isExact → value.writable → (rest : List Char) → endsNumber rest →
      tokens (write style value ++ rest) = tokensOf value ++ tokens rest
  | null => fun _ _ rest _ => tokens_word 'n' "ull" null rest rfl rfl
  | bool true => fun _ _ rest _ => tokens_word 't' "rue" (bool true) rest rfl rfl
  | bool false => fun _ _ rest _ => tokens_word 'f' "alse" (bool false) rest rfl rfl
  | int n => by
      intro _ fits rest ends
      simp only [writable] at fits
      simp only [write]
      exact tokens_int n fits rest ends
  | float (.infinite false) => fun _ _ rest _ => tokens_word 'I' "nfinity" _ rest rfl rfl
  | float (.infinite true) => fun _ _ rest _ => tokens_word '-' "Infinity" _ rest rfl rfl
  | float .nan | float (.finite _ _ _) => fun exact => by cases exact
  | str text => fun _ _ rest _ => tokens_writeText style.asciiOnly text rest
  | arr [] => by
      intro _ _ rest _
      have close : tokens (']' :: rest) = .closeList :: tokens rest :=
        tokens_cons _ _ _ _ rfl rfl Token.noConfusion
      exact (tokens_cons _ _ _ _ rfl rfl Token.noConfusion).trans (congrArg _ close)
  | arr (item :: items) => by
      intro exact fits rest _
      simp only [everywhere, everyItem, Bool.and_eq_true] at exact
      simp only [writable, writableItems, Bool.and_eq_true] at fits
      have first := tokens_write style separates item exact.2.1 fits.1
        (writeItems style items ++ rest) (endsNumber_writeItems style separates items rest)
      have others := tokens_writeItems style separates items exact.2.2 fits.2 rest
      rw [write, tokensOf, List.cons_append, List.append_assoc,
        tokens_cons '[' _ .openList _ rfl rfl Token.noConfusion, first, others]
      simp
  | obj [] => by
      intro _ _ rest _
      have close : tokens ('\x7d' :: rest) = .closeObject :: tokens rest :=
        tokens_cons _ _ _ _ rfl rfl Token.noConfusion
      exact (tokens_cons _ _ _ _ rfl rfl Token.noConfusion).trans (congrArg _ close)
  | obj ((key, value) :: fields) => by
      intro exact fits rest _
      simp only [everywhere, everyField, Bool.and_eq_true] at exact
      simp only [writable, writableFields, Bool.and_eq_true] at fits
      have first := tokens_write style separates value exact.2.1 fits.1
        (writeFields style fields ++ rest) (endsNumber_writeFields style separates fields rest)
      have others := tokens_writeFields style separates fields exact.2.2 fits.2 rest
      simp only [write, tokensOf, List.cons_append, List.append_assoc]
      rw [tokens_cons '\x7b' _ .openObject _ rfl rfl Token.noConfusion, tokens_writeText,
        separates.colon, first, others]

theorem tokens_writeItems (style : Style) (separates : style.Separates) : (items : List Json) →
    everyItem isExact items → writableItems items →
      (rest : List Char) →
        tokens (writeItems style items ++ rest) = tokensOfItems items ++ tokens rest
  | [] => fun _ _ rest => tokens_cons _ _ _ _ rfl rfl Token.noConfusion
  | item :: items => by
      intro exact fits rest
      simp only [everyItem, Bool.and_eq_true] at exact
      simp only [writableItems, Bool.and_eq_true] at fits
      have first := tokens_write style separates item exact.1 fits.1
        (writeItems style items ++ rest) (endsNumber_writeItems style separates items rest)
      have others := tokens_writeItems style separates items exact.2 fits.2 rest
      simp only [writeItems, tokensOfItems, List.cons_append, List.append_assoc]
      rw [separates.comma, first, others]

theorem tokens_writeFields (style : Style) (separates : style.Separates) :
    (fields : List (String × Json)) →
    everyField isExact fields → writableFields fields →
      (rest : List Char) →
        tokens (writeFields style fields ++ rest) = tokensOfFields fields ++ tokens rest
  | [] => fun _ _ rest => tokens_cons _ _ _ _ rfl rfl Token.noConfusion
  | (key, value) :: fields => by
      intro exact fits rest
      simp only [everyField, Bool.and_eq_true] at exact
      simp only [writableFields, Bool.and_eq_true] at fits
      have first := tokens_write style separates value exact.1 fits.1
        (writeFields style fields ++ rest) (endsNumber_writeFields style separates fields rest)
      have others := tokens_writeFields style separates fields exact.2 fits.2 rest
      simp only [writeFields, tokensOfFields, List.cons_append, List.append_assoc]
      rw [separates.comma, tokens_writeText, separates.colon, first, others]

end

def Expecting.run (state : Expecting) (tokens : List Token) : Except ReadFault Expecting :=
  tokens.foldlM Expecting.step state

open Expecting

theorem run_cons (state next : Expecting) (token : Token) (rest : List Token)
    (stepped : state.step token = .ok next) : state.run (token :: rest) = next.run rest := by
  rw [run, List.foldlM_cons, stepped]
  rfl

theorem tokensOf_head (value : Json) :
    ∃ first rest, tokensOf value = first :: rest ∧ first ≠ .closeList := by
  match value with
  | null | bool _ | int _ | float _ | str _ | arr [] | arr (_ :: _) | obj [] | obj (_ :: _) =>
      exact ⟨_, _, rfl, Token.noConfusion⟩

theorem run_itemOrClose (value : Json) (outer : List Level) (rest : List Token) :
    (itemOrClose outer).run (tokensOf value ++ rest) =
      (needValue (.list [] :: outer)).run (tokensOf value ++ rest) := by
  rcases tokensOf_head value with ⟨first, more, tokens, notClose⟩
  have stepped : (itemOrClose outer).step first = (needValue (.list [] :: outer)).step first := by
    cases first with
    | closeList => exact absurd rfl notClose
    | _ => rfl
  rw [tokens, List.cons_append, run, run, List.foldlM_cons, List.foldlM_cons, stepped]

@[simp] theorem get_nil (key : String) : Fields.get? [] key = none := rfl

@[simp] theorem get_cons (name key : String) (value : Json) (fields : Fields) :
    Fields.get? ((name, value) :: fields) key =
      if key = name then some value else fields.get? key := by
  rw [Fields.get?, List.lookup_cons]
  by_cases same : key = name
  · simp [same]
  · rw [if_neg same, beq_eq_false_iff_ne.mpr same]
    rfl

theorem put_new (fields : Fields) (key : String) (value : Json)
    (unused : key ∉ fields.map (·.1)) : fields.put key value = fields ++ [(key, value)] := by
  induction fields with
  | nil => rfl
  | cons field fields ih =>
      simp only [List.map_cons, List.mem_cons, not_or] at unused
      rw [Fields.put, if_neg (Ne.symm unused.1), ih unused.2, List.cons_append]

mutual

theorem run_tokensOf : (value : Json) → value.everywhere hasDistinctKeys →
    (outer : List Level) → (rest : List Token) →
      (needValue outer).run (tokensOf value ++ rest) = (deliver value outer).run rest
  | null => fun _ _ _ => run_cons _ _ _ _ rfl
  | bool _ => fun _ _ _ => run_cons _ _ _ _ rfl
  | int _ => fun _ _ _ => run_cons _ _ _ _ rfl
  | float _ => fun _ _ _ => run_cons _ _ _ _ rfl
  | str _ => fun _ _ _ => run_cons _ _ _ _ rfl
  | arr [] => fun _ outer rest =>
      (run_cons (needValue outer) _ .openList (.closeList :: rest) rfl).trans
        (run_cons _ _ _ _ rfl)
  | arr (item :: items) => by
      intro keyed outer rest
      simp only [everywhere, everyItem, Bool.and_eq_true] at keyed
      have first := run_tokensOf item keyed.2.1 (.list [] :: outer) (tokensOfItems items ++ rest)
      have others := run_tokensOfItems items keyed.2.2 [item] outer rest
      rw [tokensOf, List.cons_append, List.append_assoc, run_cons _ (itemOrClose outer) _ _ rfl,
        run_itemOrClose, first]
      exact others
  | obj [] => fun _ outer rest =>
      (run_cons (needValue outer) _ .openObject (.closeObject :: rest) rfl).trans
        (run_cons _ _ _ _ rfl)
  | obj ((key, value) :: fields) => by
      intro keyed outer rest
      simp only [everywhere, everyField, hasDistinctKeys, Bool.and_eq_true,
        decide_eq_true_eq] at keyed
      have first := run_tokensOf value keyed.2.1 (.object [] key :: outer)
        (tokensOfFields fields ++ rest)
      have others := run_tokensOfFields fields keyed.2.2 [(key, value)] keyed.1 outer rest
      simp only [tokensOf, List.cons_append, List.append_assoc]
      rw [run_cons _ (keyOrClose outer) _ _ rfl, run_cons _ (needColon [] key outer) _ _ rfl,
        run_cons _ (needValue (.object [] key :: outer)) _ _ rfl, first]
      exact others

theorem run_tokensOfItems : (items : List Json) → everyItem hasDistinctKeys items →
    (before : List Json) → (outer : List Level) → (rest : List Token) →
      (afterItem before outer).run (tokensOfItems items ++ rest) =
        (deliver (.arr (before.reverse ++ items)) outer).run rest
  | [] => by
      intro _ before outer rest
      rw [List.append_nil]
      exact run_cons _ _ _ _ rfl
  | item :: items => by
      intro keyed before outer rest
      simp only [everyItem, Bool.and_eq_true] at keyed
      have first := run_tokensOf item keyed.1 (.list before :: outer)
        (tokensOfItems items ++ rest)
      have others := run_tokensOfItems items keyed.2 (item :: before) outer rest
      simp only [tokensOfItems, List.cons_append, List.append_assoc]
      rw [run_cons _ (needValue (.list before :: outer)) _ _ rfl, first]
      rw [List.reverse_cons, List.append_assoc] at others
      exact others

theorem run_tokensOfFields : (fields : List (String × Json)) →
    everyField hasDistinctKeys fields → (before : Fields) →
      ((before ++ fields).map (·.1)).Nodup → (outer : List Level) → (rest : List Token) →
        (afterField before outer).run (tokensOfFields fields ++ rest) =
          (deliver (.obj (before ++ fields)) outer).run rest
  | [] => by
      intro _ before _ outer rest
      rw [List.append_nil]
      exact run_cons _ _ _ _ rfl
  | (key, value) :: fields => by
      intro keyed before distinct outer rest
      simp only [everyField, Bool.and_eq_true] at keyed
      have unused : key ∉ before.map (·.1) := by
        rw [List.map_append, List.nodup_append] at distinct
        intro member
        exact distinct.2.2 key member key (by simp) rfl
      have added : before ++ (key, value) :: fields = before.put key value ++ fields := by
        rw [put_new before key value unused, List.append_assoc]
        rfl
      have first := run_tokensOf value keyed.1 (.object before key :: outer)
        (tokensOfFields fields ++ rest)
      have others := run_tokensOfFields fields keyed.2 (before.put key value)
        (added ▸ distinct) outer rest
      simp only [tokensOfFields, List.cons_append, List.append_assoc]
      rw [run_cons _ (needKey before outer) _ _ rfl,
        run_cons _ (needColon before key outer) _ _ rfl,
        run_cons _ (needValue (.object before key :: outer)) _ _ rfl, first, added]
      exact others

end

mutual

theorem whole_tokensOf : (value : Json) → (tokensOf value).any Token.isHalved = false
  | null | bool _ | int _ | float _ | str _ | arr [] | obj [] => rfl
  | arr (item :: items) => by
      simp [tokensOf, Token.isHalved, whole_tokensOf item, whole_tokensOfItems items]
  | obj ((key, value) :: fields) => by
      simp [tokensOf, Token.isHalved, whole_tokensOf value, whole_tokensOfFields fields]

theorem whole_tokensOfItems :
    (items : List Json) → (tokensOfItems items).any Token.isHalved = false
  | [] => rfl
  | item :: items => by
      simp [tokensOfItems, Token.isHalved, whole_tokensOf item, whole_tokensOfItems items]

theorem whole_tokensOfFields :
    (fields : List (String × Json)) → (tokensOfFields fields).any Token.isHalved = false
  | [] => rfl
  | (key, value) :: fields => by
      simp [tokensOfFields, Token.isHalved, whole_tokensOf value, whole_tokensOfFields fields]

end

theorem read_write (style : Style) (separates : style.Separates) (value : Json)
    (exact : value.everywhere isExact) (keyed : value.everywhere hasDistinctKeys)
    (fits : value.writable) : read (write style value) = .ok value := by
  have scanned : tokens (write style value) = tokensOf value ++ [] := by
    simpa [tokens] using tokens_write style separates value exact fits [] rfl
  rw [read_none_eq_ok, scanned]
  refine ⟨by rw [List.append_nil]; exact whole_tokensOf value, deliver value [], ?_, rfl⟩
  calc
    (needValue []).run (tokensOf value ++ []) = (deliver value []).run [] :=
      run_tokensOf value keyed [] []
    _ = .ok (deliver value []) := rfl

theorem parse_render (style : Style) (separates : style.Separates) (value : Json)
    (exact : value.everywhere isExact) (keyed : value.everywhere hasDistinctKeys)
    (fits : value.writable) : parse (value.render style) = .ok value := by
  rw [parse, render, String.toList_ofList]
  exact read_write style separates value exact keyed fits

end TradeWire.Json
