import ApiShapes.Decimal.Digits
import ApiShapes.Value

/-!
# Faults of document values

A value that does not have the expected shape is refused with all its faults, in the order in
which the parts are declared and depth first.  A fault tells the problem, the path to it and the
value found there.
-/

namespace ApiShapes

/-- A step from a value to one of its parts. -/
inductive Step where
  | field (name : String)
  | item (index : Nat)
  deriving DecidableEq

def Step.text : Step → String
  | .field name => name
  | .item index => String.ofList (Decimal.digits index)

inductive Problem where
  | missing
  | notText
  | undecodableText
  | notList
  | notRecord
  | notModel (model : String)
  | notBool
  | unreadableBool
  | notAmong (choices : List String)
  | notInteger
  | unreadableInteger
  | fractionalInteger
  | oversizedInteger
  | notFinite
  | unknownField
  | broken (rule : String)
  deriving DecidableEq

/-- Choices in quotes, the last two joined by `or`. -/
def choiceText : List String → String
  | [] => ""
  | [a] => "'" ++ a ++ "'"
  | [a, b] => "'" ++ a ++ "' or '" ++ b ++ "'"
  | a :: rest => "'" ++ a ++ "', " ++ choiceText rest

def Problem.message : Problem → String
  | .missing => "Field required"
  | .notText => "Input should be a valid string"
  | .undecodableText =>
    "Input should be a valid string, unable to parse raw data as a unicode string"
  | .notList => "Input should be a valid list"
  | .notRecord => "Input should be a valid dictionary"
  | .notModel model => "Input should be a valid dictionary or instance of " ++ model
  | .notBool => "Input should be a valid boolean"
  | .unreadableBool => "Input should be a valid boolean, unable to interpret input"
  | .notAmong choices => "Input should be " ++ choiceText choices
  | .notInteger => "Input should be a valid integer"
  | .unreadableInteger =>
    "Input should be a valid integer, unable to parse string as an integer"
  | .fractionalInteger =>
    "Input should be a valid integer, got a number with a fractional part"
  | .oversizedInteger => "Unable to parse input string as an integer, exceeded maximum size"
  | .notFinite => "Input should be a finite number"
  | .unknownField => "Extra inputs are not permitted"
  | .broken rule => "Value error, " ++ rule

structure Fault where
  problem : Problem
  path : List Step
  input : Value

/-- The faults of a refused value; there is at least one. -/
structure Faults where
  first : Fault
  rest : List Fault

def Faults.toList (faults : Faults) : List Fault :=
  faults.first :: faults.rest

def Faults.append (f g : Faults) : Faults :=
  ⟨f.first, f.rest ++ g.toList⟩

def Fault.under (step : Step) (fault : Fault) : Fault :=
  { fault with path := step :: fault.path }

def Faults.under (step : Step) (faults : Faults) : Faults :=
  ⟨faults.first.under step, faults.rest.map (·.under step)⟩

/-- A value of the expected shape, or the faults for which it was refused. -/
inductive Checked (α : Type) where
  | valid (a : α)
  | invalid (faults : Faults)

namespace Checked

variable {α β : Type}

def map (f : α → β) : Checked α → Checked β
  | valid a => valid (f a)
  | invalid faults => invalid faults

/-- Both parts are checked; the faults of the first come first. -/
def apply (f : Checked (α → β)) (a : Checked α) : Checked β :=
  match f, a with
  | valid f, valid a => valid (f a)
  | valid _, invalid faults => invalid faults
  | invalid faults, valid _ => invalid faults
  | invalid faults, invalid more => invalid (faults.append more)

instance : Applicative Checked where
  pure := valid
  map := map
  seq f a := apply f (a ())

/-- A further check of a valid value. -/
def andThen (a : Checked α) (f : α → Checked β) : Checked β :=
  match a with
  | valid a => f a
  | invalid faults => invalid faults

def under (step : Step) : Checked α → Checked α
  | valid a => valid a
  | invalid faults => invalid (faults.under step)

/-- Refuses a value for one problem of its own. -/
def refuse (problem : Problem) (input : Value) : Checked α :=
  invalid ⟨⟨problem, [], input⟩, []⟩

@[simp] theorem map_valid (f : α → β) (a : α) : f <$> valid a = valid (f a) := rfl

@[simp] theorem valid_seq_valid (f : α → β) (a : α) : valid f <*> valid a = valid (f a) := rfl

@[simp] theorem under_valid (step : Step) (a : α) : under step (valid a) = valid a := rfl

@[simp] theorem andThen_valid (a : α) (f : α → Checked β) : andThen (valid a) f = f a := rfl

/-- A function applied to checked arguments is valid only if both are. -/
theorem seq_eq_valid_iff (f : Checked (α → β)) (a : Checked α) (b : β) :
    f <*> a = valid b ↔ ∃ g x, f = valid g ∧ a = valid x ∧ g x = b := by
  change apply f a = valid b ↔ _
  cases f <;> cases a <;> simp [apply]

end Checked

end ApiShapes
