import PrintForge.Numeric.Decimal
import PrintForge.Relational.Transaction
import PrintForge.Text.Strings

/-!
# What the services share

What a handler may throw, the two ways a property of a request body can be missing, the check
that a row belongs to the tenant that asks for it, and rupees and paise: price arithmetic is done
in whole paise, and a `Decimal` is crossed into paise here.
-/

namespace PrintForge

open Relational Numeric

/-- The exceptions a handler throws, and the errors of the database that handlers catch. -/
inductive HttpError where
  | badRequest (message : String)
  | unauthorized (message : String)
  | forbidden (message : String)
  | notFound (message : String)
  | conflict (message : String)
  | unprocessableEntity (message : String)
  | uniqueViolation
  | recordNotFound
  | other (message : String)
deriving DecidableEq, Repr

instance : DatabaseError HttpError where
  uniqueViolation := .uniqueViolation
  recordNotFound := .recordNotFound

namespace HttpError

def message : HttpError → String
  | badRequest text => text
  | unauthorized text => text
  | forbidden text => text
  | notFound text => text
  | conflict text => text
  | unprocessableEntity text => text
  | uniqueViolation => "P2002"
  | recordNotFound => "P2025"
  | other text => text

/-- A Prisma error with code `P2002`. -/
def isUniqueConstraintViolation : HttpError → Bool
  | uniqueViolation => true
  | _ => false

end HttpError

/-- An optional property of a request body. -/
inductive Property (α : Type) where
  | undefined
  | null
  | value (a : α)
deriving DecidableEq, Repr

namespace Property

variable {α : Type}

def toOption : Property α → Option α
  | value a => some a
  | undefined | null => none

/-- `!== undefined` -/
def isDefined : Property α → Bool
  | undefined => false
  | null | value _ => true

end Property

section

variable {m : Type → Type} [Monad m] [MonadExceptOf HttpError m] {α : Type}

/-- A row of another tenant is as good as none. -/
def assertObjectInTenant (tenantOf : α → Nat) (resource : Option α) (tenantId : Nat) : m α :=
  match resource with
  | none => throw (.notFound "Not Found")
  | some row =>
      if tenantOf row ≠ tenantId then
        throw (.notFound "Not Found")
      else
        return row

end

/-! ## Rupees and paise -/

def decimalToPaise (amount : Decimal) : Int :=
  (amount.times (Decimal.ofInt 100)).toDecimalPlacesZero

/-- A number of paise in rupees, with two places. -/
def paiseToDecimalString (paise : Int) : String :=
  let abs := paise.natAbs
  (if paise < 0 then "-" else "") ++ toString (abs / 100) ++ "." ++
    JavaScript.padStart (toString (abs % 100)) 2 '0'

example : paiseToDecimalString (-4905) = "-49.05" := by decide +kernel

/-- A value of a column of type `Decimal(10, 2)`, in units of its last digit. -/
structure Amount where
  paise : Int
  fits : paise.natAbs < 10 ^ 10
deriving DecidableEq, Repr

namespace Amount

def zero : Amount := ⟨0, by decide⟩

/-- The column's value, unless the number is too large for it. -/
def ofPaise? (n : Int) : Option Amount := if h : n.natAbs < 10 ^ 10 then some ⟨n, h⟩ else none

def toDecimal (a : Amount) : Decimal := ⟨a.paise, -2⟩

end Amount

end PrintForge
