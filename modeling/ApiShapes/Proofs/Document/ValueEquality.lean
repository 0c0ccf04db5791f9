import ApiShapes.Value
import Mathlib.Tactic

/-!
# Equality of values

Whether two values are the same can be computed, entry by entry in their order.
-/

namespace ApiShapes.Value

mutual

def isSame : Value → Value → Bool
  | .null, .null => true
  | .bool a, .bool b => a = b
  | .int a, .int b => a = b
  | .float a, .float b => a = b
  | .text a, .text b => a = b
  | .list a, .list b => areSame a b
  | .record a, .record b => areSameEntries a b
  | .bytes a, .bytes b => a = b
  | .date a, .date b => a = b
  | .moment a, .moment b => a = b
  | .set a, .set b => areSame a b
  | .pair a b, .pair c d => isSame a c && isSame b d
  | _, _ => false

def areSame : List Value → List Value → Bool
  | [], [] => true
  | v :: vs, w :: ws => isSame v w && areSame vs ws
  | _, _ => false

def areSameEntries : List (Value × Value) → List (Value × Value) → Bool
  | [], [] => true
  | (key, v) :: vs, (other, w) :: ws => isSame key other && isSame v w && areSameEntries vs ws
  | _, _ => false

end

mutual

theorem isSame_iff : (v w : Value) → (isSame v w = true ↔ v = w)
  | .null, w => by cases w <;> simp [isSame]
  | .bool b, w => by cases w <;> simp [isSame]
  | .int n, w => by cases w <;> simp [isSame]
  | .float x, w => by cases w <;> simp [isSame]
  | .text s, w => by cases w <;> simp [isSame]
  | .list items, w => by cases w <;> simp [isSame, areSame_iff items]
  | .record entries, w => by cases w <;> simp [isSame, areSameEntries_iff entries]
  | .bytes octets, w => by cases w <;> simp [isSame]
  | .date d, w => by cases w <;> simp [isSame]
  | .moment t, w => by cases w <;> simp [isSame]
  | .set items, w => by cases w <;> simp [isSame, areSame_iff items]
  | .pair a b, w => by cases w <;> simp [isSame, isSame_iff a, isSame_iff b]

theorem areSame_iff : (vs ws : List Value) → (areSame vs ws = true ↔ vs = ws)
  | [], ws => by cases ws <;> simp [areSame]
  | v :: vs, ws => by cases ws <;> simp [areSame, isSame_iff v, areSame_iff vs]

theorem areSameEntries_iff :
    (vs ws : List (Value × Value)) → (areSameEntries vs ws = true ↔ vs = ws)
  | [], ws => by cases ws <;> simp [areSameEntries]
  | (key, v) :: vs, ws => by
    cases ws <;>
      simp [areSameEntries, isSame_iff key, isSame_iff v, areSameEntries_iff vs, Prod.ext_iff]

end

instance : DecidableEq Value :=
  fun v w => decidable_of_iff (isSame v w = true) (isSame_iff v w)

end ApiShapes.Value
