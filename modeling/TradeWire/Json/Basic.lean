import TradeWire.Number.Decimal
/-! JSON values. Fields keep their order, integers are exact and apart from floats. -/

namespace TradeWire

open Number (Double)

inductive Json where
  | null
  | bool (value : Bool)
  | int (value : Int)
  | float (value : Double)
  | str (text : String)
  | arr (items : List Json)
  | obj (fields : List (String × Json))
  deriving Inhabited

/-- The fields of an object, in order; the readers never give one key twice. -/
abbrev Fields := List (String × Json)

namespace Fields

def get? (fields : Fields) (key : String) : Option Json := fields.lookup key

def has (fields : Fields) (key : String) : Bool := fields.any (·.1 == key)

/-- A key that is present keeps its place and takes the new value. -/
def put (fields : Fields) (key : String) (value : Json) : Fields :=
  match fields with
  | [] => [(key, value)]
  | (name, old) :: rest =>
      if name = key then (name, value) :: rest else (name, old) :: put rest key value

end Fields

namespace Json

/-- False are null, false, zero and whatever is empty. -/
def isTrue : Json → Bool
  | null => false
  | bool value => value
  | int value => value != 0
  | float value => !value.isZero
  | str text => text != ""
  | arr items => !items.isEmpty
  | obj fields => !fields.isEmpty

def present? : Option Json → Option Json
  | some null => none
  | value => value

def ofOption {α : Type} (encode : α → Json) : Option α → Json
  | some a => encode a
  | none => null

def integer? : Json → Option Int
  | bool value => some (if value then 1 else 0)
  | int value => some value
  | _ => none

def sameDouble : Double → Double → Bool
  | .infinite a, .infinite b => a == b
  | a, b =>
      match a.toRat?, b.toRat? with
      | some x, some y => x == y
      | _, _ => false

def sameAtom (a b : Json) : Bool :=
  match a, b with
  | null, null => true
  | str x, str y => x == y
  | float x, float y => sameDouble x y
  | float x, b =>
      match b.integer?, x.toRat? with
      | some n, some r => r == (n : Rat)
      | _, _ => false
  | a, float y =>
      match a.integer?, y.toRat? with
      | some n, some r => r == (n : Rat)
      | _, _ => false
  | a, b =>
      match a.integer?, b.integer? with
      | some m, some n => m == n
      | _, _ => false

mutual

/-- Equality by value: `1`, `1.0` and `true` are the same, and the order of fields does not count.
-/
def same : Json → Json → Bool
  | arr items, other =>
      match other with
      | arr others => sameItems items others
      | _ => false
  | obj fields, other =>
      match other with
      | obj others => fields.length == others.length && sameFields fields others
      | _ => false
  | a, b => sameAtom a b

def sameItems : List Json → List Json → Bool
  | [], [] => true
  | a :: as, b :: bs => same a b && sameItems as bs
  | _, _ => false

def sameFields : List (String × Json) → Fields → Bool
  | [], _ => true
  | (key, a) :: rest, others =>
      (match others.get? key with
      | some b => same a b
      | none => false) && sameFields rest others

end

end Json

end TradeWire
