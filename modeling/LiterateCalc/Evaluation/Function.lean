import LiterateCalc.Elementary.Circular
import LiterateCalc.Elementary.Exponential
import LiterateCalc.Elementary.Whole
import LiterateCalc.NameMap

namespace LiterateCalc.Evaluation

/-- How many arguments a function takes; without a maximum, any number from the minimum on. -/
structure Arity where
  minimum : Nat
  maximum : Option Nat
deriving DecidableEq, Inhabited

namespace Arity

def exactly (count : Nat) : Arity := ⟨count, some count⟩

def atLeast (count : Nat) : Arity := ⟨count, none⟩

def accepts (arity : Arity) (count : Nat) : Bool :=
  arity.minimum ≤ count && arity.maximum.all (count ≤ ·)

/-- The arity in words: `1`, `1 or 2`, `2 to 5`, `at least 1`. -/
def describe (arity : Arity) : String :=
  match arity.maximum with
  | none => s!"at least {arity.minimum}"
  | some maximum =>
    if maximum = arity.minimum then s!"{maximum}"
    else if maximum = arity.minimum + 1 then s!"{arity.minimum} or {maximum}"
    else s!"{arity.minimum} to {maximum}"

end Arity

structure Function where
  arity : Arity
  apply : List Float → Float

/-- No number, the answer to a call that the arity rules out. -/
def noNumber : Float := Elementary.notANumber

def infinity : Float := Elementary.infinite false

namespace Function

def ofUnary (operation : Float → Float) : Function :=
  ⟨.exactly 1, fun
    | x :: _ => operation x
    | [] => noNumber⟩

def ofBinary (operation : Float → Float → Float) : Function :=
  ⟨.exactly 2, fun
    | x :: y :: _ => operation x y
    | _ => noNumber⟩

end Function

/-- The sign as `-1` or `1`; a zero and what is no number stay as they are. -/
def sign (x : Float) : Float :=
  if 0.0 < x then 1.0 else if x < 0.0 then -1.0 else x

/-- The nearest whole number; a half goes up. -/
def roundHalfUp (x : Float) : Float :=
  let below := Elementary.floor x
  if 0.5 ≤ x - below then below + 1.0 else below

/-- Rounds to a number of decimal places, or, below zero, to a power of ten. -/
def roundTo (x places : Float) : Float :=
  let scale := Elementary.power 10.0 (Elementary.truncate places)
  roundHalfUp (x * scale) / scale

/-- The least argument, but no number if one argument is none. -/
def least (arguments : List Float) : Float :=
  if arguments.any Float.isNaN then noNumber
  else arguments.foldl (fun best x => if x < best then x else best) infinity

/-- The greatest argument, but no number if one argument is none. -/
def greatest (arguments : List Float) : Float :=
  if arguments.any Float.isNaN then noNumber
  else arguments.foldl (fun best x => if best < x then x else best) (-infinity)

/-- The square root of the sum of the squares, added from the left. An empty sum is `-0`, which
changes no term that is added to it. -/
def euclideanNorm (arguments : List Float) : Float :=
  (arguments.foldl (fun sum x => sum + x * x) (-0.0)).sqrt

/-- Functions by name. -/
abbrev Registry := NameMap Function

namespace Registry

def arithmetic : List (String × Function) :=
  [("sqrt", .ofUnary Float.sqrt),
   ("cbrt", .ofUnary Elementary.cubeRoot),
   ("abs", .ofUnary Float.abs),
   ("floor", .ofUnary Elementary.floor),
   ("ceil", .ofUnary Elementary.ceil),
   ("trunc", .ofUnary Elementary.truncate),
   ("sign", .ofUnary sign),
   ("round", ⟨⟨1, some 2⟩, fun
     | [x] => roundTo x 0.0
     | x :: places :: _ => roundTo x places
     | [] => noNumber⟩),
   ("min", ⟨.atLeast 1, least⟩),
   ("max", ⟨.atLeast 1, greatest⟩),
   ("hypot", ⟨.atLeast 1, euclideanNorm⟩)]

def exponential : List (String × Function) :=
  [("exp", .ofUnary Elementary.exp),
   ("ln", .ofUnary Elementary.ln),
   ("log", .ofUnary Elementary.ln),
   ("log10", .ofUnary Elementary.log10),
   ("log2", .ofUnary Elementary.log2),
   ("pow", .ofBinary Elementary.power)]

def trigonometric : List (String × Function) :=
  [("sin", .ofUnary Elementary.sin),
   ("cos", .ofUnary Elementary.cos),
   ("tan", .ofUnary Elementary.tan),
   ("asin", .ofUnary Elementary.asin),
   ("acos", .ofUnary Elementary.acos),
   ("atan", .ofUnary Elementary.atan),
   ("atan2", .ofBinary Elementary.atan2)]

/-- The functions that every expression can call. -/
def builtin : Registry := .ofList (arithmetic ++ exponential ++ trigonometric)

end Registry
end LiterateCalc.Evaluation
