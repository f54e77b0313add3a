
/-!
Strictly increasing lists under a given order: inserting an element keeps the order and replaces
what is equivalent to it.
-/

namespace FlowClients

/-- Put `x` before the first element above it; an element neither below nor above `x` gives way to
it. -/
def insertSorted (below : α → α → Bool) (x : α) : List α → List α
  | [] => [x]
  | y :: ys =>
    if below x y then x :: y :: ys
    else if below y x then y :: insertSorted below x ys
    else x :: ys

end FlowClients
