import Rulebook.Rule.Basic
import Rulebook.Rule.Result
import Rulebook.Value.Equality

/-!
Equality of rules and of results: the same shape, the same predicates, and equal values in every
place. The first difference ends a comparison.
-/

namespace Rulebook

/-- The second question, if the first is answered with yes. -/
def andAlso (a : Except Fault Bool) (b : Unit → Except Fault Bool) : Except Fault Bool := do
  if ← a then b () else return false

namespace Rule

mutual

/-- Whether two rules are equal. -/
def equal : Rule → Rule → Except Fault Bool
  | .key n p xs, .key m q ys =>
    andAlso (n.same m) fun _ => if p = q then Value.sameItems xs ys else .ok false
  | .val n p xs, .val m q ys =>
    andAlso (n.same m) fun _ => if p = q then Value.sameItems xs ys else .ok false
  | .each n r, .each m s => andAlso (n.same m) fun _ => r.equal s
  | .set n rs b, .set m ss c =>
    andAlso (n.same m) fun _ => andAlso (equalAll rs ss) fun _ => .ok (b = c)
  | .both o l r, .both o' l' r' =>
    if o = o' then andAlso (l.equal l') fun _ => r.equal r' else .ok false
  | _, _ => .ok false

def equalAll : List Rule → List Rule → Except Fault Bool
  | [], [] => .ok true
  | r :: rs, s :: ss => andAlso (r.equal s) fun _ => equalAll rs ss
  | _, _ => .ok false

end

mutual

/-- Whether the rule can be a member of a set: its names and arguments can. -/
def isKey : Rule → Bool
  | .key n _ xs | .val n _ xs => n.isKey && Value.areKeys xs
  | .each n r => n.isKey && r.isKey
  | .set n rs _ => n.isKey && areKeys rs
  | .both _ l r => l.isKey && r.isKey

def areKeys : List Rule → Bool
  | [] => true
  | r :: rest => r.isKey && areKeys rest

end

end Rule

def Success.equal (a b : Success) : Except Fault Bool :=
  Value.sameItems [a.input, a.name, a.value] [b.input, b.name, b.value]

def Success.isKey (s : Success) : Bool := Value.areKeys [s.input, s.name, s.value]

/-- Whether bound arguments have the same names and values. -/
def sameArguments : List (String × Value) → List (String × Value) → Except Fault Bool
  | [], [] => .ok true
  | (n, x) :: xs, (m, y) :: ys =>
    if n = m then andAlso (x.same y) fun _ => sameArguments xs ys else .ok false
  | _, _ => .ok false

namespace Failure

mutual

/-- Whether two failures are equal. -/
def equal : Failure → Failure → Except Fault Bool
  | ⟨x, n, p, xs, v, k, cs⟩, ⟨y, m, q, ys, w, l, ds⟩ =>
    andAlso (x.same y) fun _ => andAlso (n.same m) fun _ =>
      if p = q then
        andAlso (sameArguments xs ys) fun _ => andAlso (v.same w) fun _ =>
          if k.text = l.text then equalChildren cs ds else .ok false
      else .ok false

def equalChildren : List (Value × Failure) → List (Value × Failure) → Except Fault Bool
  | [], [] => .ok true
  | (n, f) :: cs, (m, g) :: ds =>
    andAlso (n.same m) fun _ => andAlso (f.equal g) fun _ => equalChildren cs ds
  | _, _ => .ok false

end

mutual

/-- Whether the failure can be a member of a set. -/
def isKey : Failure → Bool
  | ⟨x, n, _, xs, v, _, cs⟩ =>
    Value.areKeys [x, n] && Value.areKeys (xs.map (·.2)) && v.isKey && areChildrenKeys cs

def areChildrenKeys : List (Value × Failure) → Bool
  | [] => true
  | (n, f) :: rest => n.isKey && f.isKey && areChildrenKeys rest

end

end Failure

namespace Result

/-- Whether two results are equal. -/
def equal : Result → Result → Except Fault Bool
  | .success a, .success b => a.equal b
  | .failure a, .failure b => a.equal b
  | _, _ => .ok false

def equalAll : List Result → List Result → Except Fault Bool
  | [], [] => .ok true
  | r :: rs, s :: ss => andAlso (r.equal s) fun _ => equalAll rs ss
  | _, _ => .ok false

def isKey : Result → Bool
  | .success s => s.isKey
  | .failure f => f.isKey

end Result
end Rulebook
