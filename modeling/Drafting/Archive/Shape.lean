/-! The shape of a part of a document: what a reader may find where a number, a list or a record is
due. Names of types may be left out; a record may lack fields and hold others. -/
namespace Drafting.Archive

inductive Shape where
  | number
  | natural
  | text
  | flag
  | option (content : Shape)
  | list (element : Shape)
  | tuple (name : String) (elements : List Shape)
  | wrapper (name : String) (content : Shape)
  | record (name : String) (fields : List (String × Shape))
  | choice (wrapped : List (String × Shape)) (records : List (String × List (String × Shape)))

namespace Shape

def constant : Shape := choice [] []
def pair (s : Shape) : Shape := tuple "" [s, s]
def triple (s : Shape) : Shape := tuple "" [s, s, s]
def quadruple (s : Shape) : Shape := tuple "" [s, s, s, s]
def vector : Shape := tuple "DVec3" [number, number, number]
def rotation : Shape := tuple "DQuat" [number, number, number, number]

end Shape
end Drafting.Archive
