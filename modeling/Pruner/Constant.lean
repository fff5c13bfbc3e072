import Pruner.Number.Binary64

/-!
Constants of the source language and their equality, dictionary keys made of them, and the values
that a literal can denote.

Numbers of all kinds are equal when they are the same complex number, and the truth values count
as one and zero.
-/
namespace Pruner

/-- A constant. Texts are lists of code points, bytes lists of numbers below 256. -/
inductive Constant
  | none
  | ellipsis
  | bool (value : Bool)
  | int (value : Int)
  | float (value : Binary64)
  | complex (real imaginary : Binary64)
  | str (points : List Nat)
  | bytes (values : List Nat)
  deriving DecidableEq, Repr

inductive RealNumber
  | whole (n : Int)
  | binary (x : Binary64)
  deriving DecidableEq, Repr

namespace RealNumber

def same : RealNumber → RealNumber → Bool
  | .whole m, .whole n => m == n
  | .whole m, .binary y => y.sameInt m
  | .binary x, .whole n => x.sameInt n
  | .binary x, .binary y => x.same y

end RealNumber

namespace Constant

def number? : Constant → Option (RealNumber × RealNumber)
  | .bool b => some (.whole (if b then 1 else 0), .whole 0)
  | .int n => some (.whole n, .whole 0)
  | .float x => some (.binary x, .whole 0)
  | .complex re im => some (.binary re, .binary im)
  | _ => Option.none

def same (a b : Constant) : Bool :=
  match a.number?, b.number? with
  | some (re, im), some (re', im') => re.same re' && im.same im'
  | _, _ => a == b

end Constant

inductive Key
  | constant (value : Constant)
  | name (id : String)
  | tuple (items : List Key)

namespace Key

mutual

def same : Key → Key → Bool
  | .constant a, .constant b => a.same b
  | .name x, .name y => x == y
  | .tuple xs, .tuple ys => sameAll xs ys
  | _, _ => false

def sameAll : List Key → List Key → Bool
  | [], [] => true
  | x :: xs, y :: ys => same x y && sameAll xs ys
  | _, _ => false

end

end Key

inductive Container
  | list
  | set
  | dict
  deriving DecidableEq, Repr

/-- What a literal denotes. Sets and dictionaries only occur where no key equals them, so their
content is not kept. -/
inductive Value
  | constant (value : Constant)
  | tuple (items : List Value)
  | container (kind : Container)

namespace Value

mutual

def isKey : Value → Key → Bool
  | .constant a, .constant b => a.same b
  | .tuple xs, .tuple ys => areKeys xs ys
  | _, _ => false

def areKeys : List Value → List Key → Bool
  | [], [] => true
  | x :: xs, y :: ys => isKey x y && areKeys xs ys
  | _, _ => false

end

mutual

def unhashable? : Value → Option Container
  | .constant _ => none
  | .tuple items => firstUnhashable? items
  | .container kind => some kind

def firstUnhashable? : List Value → Option Container
  | [] => none
  | v :: vs => (unhashable? v).or (firstUnhashable? vs)

end

end Value

end Pruner
