import Drafting.Geometry.Vector
/-! Closed polygons of the plane: winding, containment and ear clipping. -/
namespace Drafting.Polygon

def edges (l : List β) : List (β × β) := l.zip (l.drop 1 ++ l.take 1)

def wedges (l : List β) : List (β × β × β) :=
  (l.getLast?.toList ++ l.dropLast).zip (l.zip (l.drop 1 ++ l.take 1))

variable [Arith α]

/-- Twice the signed area, positive when counter-clockwise. -/
def signedArea (points : List (Vec2 α)) : α :=
  (edges points).foldl (fun sum (p, q) => sum + p.perpDot q) 0.0

def insideTriangle (p a b c : Vec2 α) : Bool :=
  decide (0.0 ≤ (b - a).perpDot (p - a)) && decide (0.0 ≤ (c - b).perpDot (p - b)) &&
    decide (0.0 ≤ (a - c).perpDot (p - c))

def contains (polygon : List (Vec2 α)) (p : Vec2 α) : Bool :=
  (edges polygon).foldl (fun inside (a, b) =>
    if decide (p.y < a.y) != decide (p.y < b.y) &&
        decide (p.x < a.x + (p.y - a.y) / (b.y - a.y) * (b.x - a.x)) then !inside else inside) false

structure Corner (α : Type) where
  place : Nat
  point : Vec2 α
  deriving Repr, Inhabited

def corners (points : List (Vec2 α)) : List (Corner α) :=
  points.zipIdx.map fun (p, i) => ⟨i, p⟩

/-- A convex corner whose triangle holds no other corner of the polygon. -/
def isEar (all : List (Corner α)) : Corner α × Corner α × Corner α → Bool
  | (a, b, c) =>
    if (b.point - a.point).perpDot (c.point - b.point) ≤ 0.0 then false
    else all.all fun j =>
      j.place == a.place || j.place == b.place || j.place == c.place ||
        !insideTriangle j.point a.point b.point c.point

def clip : Nat → List (Corner α) → Option (List (Corner α × Corner α × Corner α))
  | 0, [a, b, c] => some [(a, b, c)]
  | 0, _ => some []
  | ears + 1, l => do
    let i ← (wedges l).findIdx? (isEar l)
    let ear ← (wedges l)[i]?
    return ear :: (← clip ears (l.eraseIdx i))

def triangulate (points : List (Vec2 α)) : Option (List (Corner α × Corner α × Corner α)) :=
  clip (points.length - 3) (corners points)

end Drafting.Polygon
