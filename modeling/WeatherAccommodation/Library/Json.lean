/-
# JSON values and the casts a dictionary is read through

What `JSONSerialization` returns, and the conditional casts `as? Int`, `as? Bool`,
`as? String`, `as? [String: Any]` that programs apply to it.  A JSON number is its exact
rational value.  It bridges to `Int` when it is a whole number of 64 bits, and truth values
bridge to the numbers 0 and 1 in both directions.
-/
import Mathlib.Algebra.Group.Int.Defs
import Mathlib.Data.Rat.Defs
import Mathlib.Tactic.Common

namespace Foundation

/-- A JSON value. -/
inductive Json where
  | null
  | bool (b : Bool)
  | num (q : ℚ)
  | str (s : String)
  | arr (items : List Json)
  | obj (fields : List (String × Json))
  deriving Repr, Inhabited

/-- `[String: Any]`. -/
abbrev Dict := List (String × Json)

/-- The values of a Swift `Int`. -/
def InInt (n : Int) : Prop := -2 ^ 63 ≤ n ∧ n < 2 ^ 63

instance (n : Int) : Decidable (InInt n) := inferInstanceAs (Decidable (_ ∧ _))

namespace Json

/-- `as? Int` -/
def asInt? : Json → Option Int
  | .num q => if q.den = 1 ∧ InInt q.num then some q.num else none
  | .bool b => some (if b then 1 else 0)
  | _ => none

/-- `as? Double`, exact. -/
def asDouble? : Json → Option ℚ
  | .num q => some q
  | .bool b => some (if b then 1 else 0)
  | _ => none

/-- `as? Bool` -/
def asBool? : Json → Option Bool
  | .bool b => some b
  | .num q => if q = 0 then some false else if q = 1 then some true else none
  | _ => none

/-- `as? String` -/
def asString? : Json → Option String
  | .str s => some s
  | _ => none

/-- `as? [String: Any]` -/
def asDict? : Json → Option Dict
  | .obj d => some d
  | _ => none

/-- `as? NSArray` -/
def asArray? : Json → Option (List Json)
  | .arr xs => some xs
  | _ => none

mutual

/-- A property list: no null anywhere inside. -/
def isPropertyList : Json → Bool
  | .null => false
  | .arr items => arePropertyLists items
  | .obj fields => haveOnlyPropertyLists fields
  | _ => true

def arePropertyLists : List Json → Bool
  | [] => true
  | j :: items => isPropertyList j && arePropertyLists items

def haveOnlyPropertyLists : List (String × Json) → Bool
  | [] => true
  | (_, j) :: fields => isPropertyList j && haveOnlyPropertyLists fields

end

mutual

/-- The two values are the same. -/
def same : Json → Json → Bool
  | .null, .null => true
  | .bool a, .bool b => a == b
  | .num p, .num q => p == q
  | .str s, .str t => s == t
  | .arr xs, .arr ys => sameItems xs ys
  | .obj d, .obj e => sameFields d e
  | _, _ => false

def sameItems : List Json → List Json → Bool
  | [], [] => true
  | x :: xs, y :: ys => same x y && sameItems xs ys
  | _, _ => false

def sameFields : List (String × Json) → List (String × Json) → Bool
  | [], [] => true
  | (k, x) :: d, (l, y) :: e => k == l && same x y && sameFields d e
  | _, _ => false

end

mutual

theorem same_iff : ∀ {a b : Json}, same a b = true ↔ a = b
  | .null, b => by cases b <;> simp [same]
  | .bool _, b => by cases b <;> simp [same]
  | .num _, b => by cases b <;> simp [same]
  | .str _, b => by cases b <;> simp [same]
  | .arr l, b => by cases b <;> simp [same, sameItems_iff (l := l)]
  | .obj d, b => by cases b <;> simp [same, sameFields_iff (d := d)]

theorem sameItems_iff : ∀ {l m : List Json}, sameItems l m = true ↔ l = m
  | [], m => by cases m <;> simp [sameItems]
  | a :: l, m => by cases m <;> simp [sameItems, same_iff (a := a), sameItems_iff (l := l)]

theorem sameFields_iff : ∀ {d e : List (String × Json)}, sameFields d e = true ↔ d = e
  | [], e => by cases e <;> simp [sameFields]
  | (k, a) :: d, e => by
    cases e <;> simp [sameFields, same_iff (a := a), sameFields_iff (d := d), Prod.ext_iff]

end

instance : DecidableEq Json := fun _ _ => decidable_of_iff _ same_iff

/-- The number an `Int` is written as. -/
def ofInt (n : Int) : Json := .num n

@[simp] theorem asString?_str (s : String) : (Json.str s).asString? = some s := rfl

@[simp] theorem asDict?_obj (d : Dict) : (Json.obj d).asDict? = some d := rfl

theorem asDict?_eq_some {j : Json} {d : Dict} : j.asDict? = some d ↔ j = .obj d := by
  cases j with
  | obj fields => simp [asDict?]
  | _ => simp [asDict?]

/-- A 64-bit integer is read back from the number it is written as. -/
@[simp] theorem asInt?_ofInt {n : Int} (h : InInt n) : (ofInt n).asInt? = some n := by
  simp [ofInt, asInt?, h]

end Json

namespace Dict

/-- `dict[key]` -/
def get? (d : Dict) (key : String) : Option Json := d.lookup key

/-- `dict[key] as? Int` -/
def int? (d : Dict) (key : String) : Option Int := (get? d key).bind Json.asInt?

/-- `dict[key] as? Double` -/
def double? (d : Dict) (key : String) : Option ℚ := (get? d key).bind Json.asDouble?

/-- `dict[key] as? Bool` -/
def bool? (d : Dict) (key : String) : Option Bool := (get? d key).bind Json.asBool?

/-- `dict[key] as? String` -/
def string? (d : Dict) (key : String) : Option String := (get? d key).bind Json.asString?

/-- `dict[key] as? [String: Any]` -/
def dict? (d : Dict) (key : String) : Option Dict := (get? d key).bind Json.asDict?

/-- `dict[key] as? NSArray` -/
def array? (d : Dict) (key : String) : Option (List Json) := (get? d key).bind Json.asArray?

@[simp] theorem get?_nil (key : String) : get? [] key = none := rfl

@[simp] theorem int?_nil (key : String) : int? [] key = none := rfl

end Dict

end Foundation
