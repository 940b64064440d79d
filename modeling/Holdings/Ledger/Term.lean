/-
# Operands

An operand of a step is written as a term: plain data with variables and newly built objects
anywhere in it.  A variable stands for its object itself, not for a copy.  Parts are evaluated from left
to right, and the first that fails is the failure of the whole.
-/
import Holdings.Ledger.Construction

namespace Holdings.Ledger

open Act

/-- What an operand is written as. -/
inductive Term where
  | plain (v : Plain)
  | list (xs : List Term)
  | dict (entries : List (String × Term))
  | var (name : String)
  | symbol (code precision : Term)
  | identity (value : Term)
  | quantity (amount code precision : Term)
  | holding (amount code precision owner : Term)
  deriving Inhabited

mutual

/-- The value of a term. -/
def Term.eval : Term → Act Item
  | plain v => pure (.ofPlain v)
  | list xs => do return .list (← Term.evalAll xs)
  | dict es => do return .dict (← Term.evalEntries es)
  | var name => readVariable name
  | symbol code precision => do
    let c ← code.eval
    let p ← precision.eval
    build .symbol [] [("code", c), ("precision", p)]
  | identity value => do
    let v ← value.eval
    build .identity [] [("value", v)]
  | quantity amount code precision => do
    let a ← amount.eval
    let c ← code.eval
    let p ← precision.eval
    let s ← build .symbol [] [("code", c), ("precision", p)]
    build .quantity [a, s] []
  | holding amount code precision owner => do
    let a ← amount.eval
    let c ← code.eval
    let p ← precision.eval
    let o ← owner.eval
    let s ← build .symbol [] [("code", c), ("precision", p)]
    let q ← build .quantity [a, s] []
    let i ← build .identity [] [("value", o)]
    build .holding [q, i] []

/-- The values of terms, in order. -/
def Term.evalAll : List Term → Act (List Item)
  | [] => pure []
  | x :: xs => do
    let v ← x.eval
    let vs ← Term.evalAll xs
    return v :: vs

/-- The values of named terms, in order. -/
def Term.evalEntries : List (String × Term) → Act (List (String × Item))
  | [] => pure []
  | (k, x) :: es => do
    let v ← x.eval
    let vs ← Term.evalEntries es
    return (k, v) :: vs

end

/-- Where the value of a term comes from: a variable keeps the origin of its value, and everything
else is new. -/
def Term.origin : Term → Act Origin
  | var name => do return (← readBinding name).origin
  | _ => newOrigin

/-- Where an attribute of the value of a term comes from. -/
def Term.originOfPart (field : String) : Term → Act Origin
  | var name => do
    match ← readVariable name with
    | .object r => return .part r field
    | _ => newOrigin
  | _ => newOrigin

end Holdings.Ledger
