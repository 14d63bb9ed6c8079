/-!
# Comparison operators

The six operators that a condition may use, and what each says about the order of two values.
-/

namespace KitchenFlow

/-- A comparison operator. -/
inductive Operator where
  | eq
  | ne
  | gt
  | lt
  | ge
  | le
deriving DecidableEq, Repr, Inhabited

namespace Operator

def all : List Operator := [.eq, .ne, .gt, .lt, .ge, .le]

/-- The sign of an operator. -/
def sign : Operator → String
  | .eq => "=="
  | .ne => "!="
  | .gt => ">"
  | .lt => "<"
  | .ge => ">="
  | .le => "<="

def ofSign? (s : String) : Option Operator := all.find? (·.sign == s)

@[simp] theorem ofSign?_sign (o : Operator) : ofSign? o.sign = some o := by
  cases o <;> rfl

/-- Reads the sign of an operator; the error says which sign is none. -/
def parse (s : String) : Except String Operator :=
  match ofSign? s with
  | some o => .ok o
  | none => .error ("unknown operator '" ++ s ++ "'")

/-- Whether an operator holds of two values in a given order. -/
def holds : Operator → Ordering → Bool
  | .eq, o => o == .eq
  | .ne, o => o != .eq
  | .gt, o => o == .gt
  | .lt, o => o == .lt
  | .ge, o => o != .lt
  | .le, o => o != .gt

end Operator
end KitchenFlow
