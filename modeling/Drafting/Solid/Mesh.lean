import Drafting.Geometry.Vector
/-! Triangle meshes with a normal for each vertex. -/
namespace Drafting

structure Triangle (α : Type) where
  a : Vec3 α
  b : Vec3 α
  c : Vec3 α
  deriving Repr, Inhabited

def Triangle.flip (t : Triangle α) : Triangle α := ⟨t.a, t.c, t.b⟩

structure Mesh (α : Type) where
  vertices : Array (Vec3 α) := #[]
  normals : Array (Vec3 α) := #[]
  indices : Array Nat := #[]
  deriving Repr, Inhabited

namespace Mesh

def isEmpty (m : Mesh α) : Bool := m.vertices.isEmpty
def triangleCount (m : Mesh α) : Nat := m.indices.size / 3

def append (m other : Mesh α) : Mesh α where
  vertices := m.vertices ++ other.vertices
  normals := m.normals ++ other.normals
  indices := m.indices ++ other.indices.map (· + m.vertices.size)

def bounds? [Arith α] (m : Mesh α) : Option (Vec3 α × Vec3 α) :=
  m.vertices[0]?.map fun first =>
    m.vertices.foldl (fun (low, high) v => (low.min v, high.max v)) (first, first)

variable [Scalar α]

def push (m : Mesh α) (t : Triangle α) : Mesh α :=
  let normal := ((t.b - t.a).cross (t.c - t.a)).normalizeOrZero
  let base := m.vertices.size
  { vertices := ((m.vertices.push t.a).push t.b).push t.c
    normals := ((m.normals.push normal).push normal).push normal
    indices := ((m.indices.push base).push (base + 1)).push (base + 2) }

def ofTriangles (ts : List (Triangle α)) : Mesh α := ts.foldl push {}

def move (m : Mesh α) (rotation : Vec3 α → Vec3 α) (offset : Vec3 α) : Mesh α :=
  { m with
    vertices := m.vertices.map fun v => rotation v + offset
    normals := m.normals.map rotation }

end Mesh
end Drafting
