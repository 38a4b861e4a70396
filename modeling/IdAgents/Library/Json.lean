import Mathlib.Data.List.Basic

/-- A JSON value. A number is kept as the text it is printed with, and an object keeps the order
of its fields, so that equal values are exactly those with equal `JSON.stringify` texts. -/
inductive Json where
  | null
  | bool (b : Bool)
  | num (text : String)
  | str (s : String)
  | arr (xs : List Json)
  | obj (fields : List (String × Json))

namespace Json

mutual
def decEq : (a b : Json) → Decidable (a = b)
  | .null, .null => isTrue rfl
  | .bool a, .bool b => decidable_of_iff (a = b) (by simp)
  | .num a, .num b => decidable_of_iff (a = b) (by simp)
  | .str a, .str b => decidable_of_iff (a = b) (by simp)
  | .arr xs, .arr ys => have := decEqList xs ys; decidable_of_iff (xs = ys) (by simp)
  | .obj xs, .obj ys => have := decEqFields xs ys; decidable_of_iff (xs = ys) (by simp)
  | .null, .bool _ | .null, .num _ | .null, .str _ | .null, .arr _ | .null, .obj _
  | .bool _, .null | .bool _, .num _ | .bool _, .str _ | .bool _, .arr _ | .bool _, .obj _
  | .num _, .null | .num _, .bool _ | .num _, .str _ | .num _, .arr _ | .num _, .obj _
  | .str _, .null | .str _, .bool _ | .str _, .num _ | .str _, .arr _ | .str _, .obj _
  | .arr _, .null | .arr _, .bool _ | .arr _, .num _ | .arr _, .str _ | .arr _, .obj _
  | .obj _, .null | .obj _, .bool _ | .obj _, .num _ | .obj _, .str _ | .obj _, .arr _ =>
    isFalse (by simp)

def decEqList : (xs ys : List Json) → Decidable (xs = ys)
  | [], [] => isTrue rfl
  | [], _ :: _ => isFalse (by simp)
  | _ :: _, [] => isFalse (by simp)
  | x :: xs, y :: ys =>
    have := decEq x y
    have := decEqList xs ys
    decidable_of_iff (x = y ∧ xs = ys) (by simp)

def decEqFields : (xs ys : List (String × Json)) → Decidable (xs = ys)
  | [], [] => isTrue rfl
  | [], _ :: _ => isFalse (by simp)
  | _ :: _, [] => isFalse (by simp)
  | (n, x) :: xs, (m, y) :: ys =>
    have := decEq x y
    have := decEqFields xs ys
    decidable_of_iff (n = m ∧ x = y ∧ xs = ys) (by simp [and_assoc])
end

instance : DecidableEq Json := decEq

/-- The field `v.name` of an object; `none` is `undefined`. -/
def field? (name : String) : Json → Option Json
  | .obj fields => (fields.find? (·.1 = name)).map Prod.snd
  | _ => none

/-- `typeof v.name === "string"` with the value. -/
def strField? (name : String) (v : Json) : Option String :=
  match v.field? name with
  | some (.str s) => some s
  | _ => none

/-- `v.name === true` -/
def isTrueField (name : String) (v : Json) : Bool := v.field? name = some (.bool true)

/-- A character inside a text that `JSON.stringify` prints. -/
def escapeChar (c : Char) : String :=
  if c = '\x22' then "\\\"" else if c = '\x5c' then "\\\\"
  else if c = '\x08' then "\\b" else if c = '\x0c' then "\\f"
  else if c = '\n' then "\\n" else if c = '\r' then "\\r" else if c = '\t' then "\\t"
  else if c.toNat < 32 then
    "\\u00" ++ String.ofList [Nat.digitChar (c.toNat / 16), Nat.digitChar (c.toNat % 16)]
  else String.ofList [c]

def quote (s : String) : String := "\"" ++ String.join (s.toList.map escapeChar) ++ "\""

mutual
/-- `JSON.stringify(v)` -/
def stringify : Json → String
  | .null => "null"
  | .bool b => if b then "true" else "false"
  | .num text => text
  | .str s => quote s
  | .arr xs => "[" ++ ",".intercalate (stringifyList xs) ++ "]"
  | .obj fields => "\x7b" ++ ",".intercalate (stringifyFields fields) ++ "\x7d"

def stringifyList : List Json → List String
  | [] => []
  | x :: xs => stringify x :: stringifyList xs

def stringifyFields : List (String × Json) → List String
  | [] => []
  | (n, x) :: xs => (quote n ++ ":" ++ stringify x) :: stringifyFields xs
end

example : stringify (.obj [("a\n", .arr [.num "1", .null]), ("b", .str "\"")]) =
    "\x7b\"a\\n\":[1,null],\"b\":\"\\\"\"\x7d" := by decide +kernel

def isObj : Json → Bool
  | .obj _ => true
  | _ => false

end Json
