import Drafting.Archive.Quoted
import Drafting.Archive.Value
import Drafting.Decimal.Shortest
/-! The written form of a document. Lists and records open a line for each element, four blanks
deeper; tuples stay on their line. -/
namespace Drafting.Archive

def indent (depth : Nat) : String := String.ofList (List.replicate (4 * depth) ' ')

mutual

def Value.render (number : α → String) (depth : Nat) : Value α → String
  | .integer n => toString n
  | .number x => number x
  | .text s => quote s
  | .word w => w
  | .list [] => "[]"
  | .list (v :: vs) => "[\n" ++ renderLines number (depth + 1) (v :: vs) ++ indent depth ++ "]"
  | .tuple name vs => name ++ "(" ++ renderInline number depth vs ++ ")"
  | .record name [] => name ++ "()"
  | .record name (f :: fs) =>
    name ++ "(\n" ++ renderFields number (depth + 1) (f :: fs) ++ indent depth ++ ")"

def renderInline (number : α → String) (depth : Nat) : List (Value α) → String
  | [] => ""
  | [v] => v.render number depth
  | v :: vs => v.render number depth ++ ", " ++ renderInline number depth vs

def renderLines (number : α → String) (depth : Nat) : List (Value α) → String
  | [] => ""
  | v :: vs => indent depth ++ v.render number depth ++ ",\n" ++ renderLines number depth vs

def renderFields (number : α → String) (depth : Nat) : List (String × Value α) → String
  | [] => ""
  | (key, v) :: fs =>
    indent depth ++ key ++ ": " ++ v.render number depth ++ ",\n" ++ renderFields number depth fs

end

def print (v : Value Float) : String := v.render Decimal.exact 0

end Drafting.Archive
