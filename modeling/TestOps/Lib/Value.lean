import Mathlib

/-! Values of decoded documents, as a dynamically typed language has them: a number or a flag stands
    for the same number, a text only for itself.

      null  False  0  0.0  ""  [ ]  empty dict     are false where a test reads them
      True  1  1.0                                 are one number -/

inductive Value where
  | null
  | bool (b : Bool)
  | int (n : Int)
  /-- A floating point number; without a value, it is infinite or not a number. -/
  | float (x : Option ℚ)
  | str (s : String)
  | list (items : List Value)
  | dict (members : List (String × Value))

/-- The members of an object, each name once. -/
abbrev Dict := List (String × Value)

/-- The value of a member, or a default without one. -/
def Dict.getD (d : Dict) (key : String) (default : Value) : Value := (d.lookup key).getD default

/-- The value of a member, `null` without one. -/
def Dict.get (d : Dict) (key : String) : Value := (d.lookup key).getD .null

namespace Value

def truthy : Value → Bool
  | null => false
  | bool b => b
  | int n => n ≠ 0
  | float x => x ≠ some 0
  | str s => s ≠ ""
  | list items => !items.isEmpty
  | dict members => !members.isEmpty

/-- `v or w` -/
def orElse (v w : Value) : Value := if v.truthy then v else w

/-- The number the value is equal to. -/
def number? : Value → Option ℚ
  | bool b => some (if b then 1 else 0)
  | int n => some n
  | float x => x
  | null | str _ | list _ | dict _ => none

def str? : Value → Option String
  | str s => some s
  | null | bool _ | int _ | float _ | list _ | dict _ => none

def list? : Value → Option (List Value)
  | list items => some items
  | null | bool _ | int _ | float _ | str _ | dict _ => none

def dict? : Value → Option Dict
  | dict members => some members
  | null | bool _ | int _ | float _ | str _ | list _ => none

/-- What a loop over the value goes through: items, characters, or names of members. -/
def iterate? : Value → Option (List Value)
  | list items => some items
  | str s => some (s.toList.map fun c => str (String.ofList [c]))
  | dict members => some (members.map fun m => str m.1)
  | null | bool _ | int _ | float _ => none

/-- `text in v`: an item, a part of a text, or the name of a member. -/
def contains? (text : String) : Value → Option Bool
  | list items => some (items.any fun item => item.str? = some text)
  | str s => some (decide (text.toList <:+: s.toList))
  | dict members => some (members.any fun m => m.1 = text)
  | null | bool _ | int _ | float _ => none

/-- The value can be an element of a set. -/
def hashable : Value → Bool
  | list _ | dict _ => false
  | null | bool _ | int _ | float _ | str _ => true

mutual

/-- `v == w` -/
def eq : Value → Value → Bool
  | null, w => match w with | null => true | _ => false
  | str s, w => w.str? = some s
  | bool b, w => w.number? = some (if b then 1 else 0)
  | int n, w => w.number? = some (n : ℚ)
  | float x, w => x.isSome ∧ w.number? = x
  | list items, w => match w with | list others => eqItems items others | _ => false
  | dict members, w =>
    match w with
    | dict others => members.length = others.length && eqMembers members others
    | _ => false

def eqItems : List Value → List Value → Bool
  | [], [] => true
  | v :: items, w :: others => eq v w && eqItems items others
  | [], _ :: _ | _ :: _, [] => false

/-- Every member is one of the others. -/
def eqMembers : List (String × Value) → List (String × Value) → Bool
  | [], _ => true
  | (key, v) :: members, others =>
    (match others.lookup key with | some w => eq v w | none => false) && eqMembers members others

end

variable {v : Value} {s : String} {n : ℚ}

theorem str?_eq_some : v.str? = some s ↔ v = .str s := by
  cases v <;> simp [str?]

theorem list?_eq_some {items : List Value} : v.list? = some items ↔ v = .list items := by
  cases v <;> simp [list?]

theorem dict?_eq_some {members : Dict} : v.dict? = some members ↔ v = .dict members := by
  cases v <;> simp [dict?]

@[simp] theorem number?_int {n : Int} : (int n).number? = some (n : ℚ) := rfl

end Value
