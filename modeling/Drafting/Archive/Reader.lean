import Drafting.Archive.Numeral
import Drafting.Archive.Shape
import Drafting.Archive.Value
/-! Reading a document of a given shape. Fields that the shape does not know are passed over, but have
to be well formed. -/
namespace Drafting.Archive
open Scan

/-- What the start of a document allows: values that may be missing without a word around them, and
wrappers, in general or inside a constant, without their brackets. -/
structure Header where
  bareOptions : Bool := false
  bareWrappers : Bool := false
  bareContents : Bool := false
  deriving DecidableEq, Repr

namespace Header

def enable? (h : Header) : String → Option Header
  | "implicit_some" => some { h with bareOptions := true }
  | "unwrap_newtypes" => some { h with bareWrappers := true }
  | "unwrap_variant_newtypes" => some { h with bareContents := true }
  | _ => none

def read (size : Nat) : Nat → Header → Scan Header
  | 0, _ => failure
  | n + 1, h => do
    blanks
    if (← peek) = some '#' then
      ["#", "!", "[", "enable", "("].forM fun mark => do literal mark; blanks
      match ← separated ')' name size with
      | [] => failure
      | names =>
        let h ← names.foldlM (fun h w => (h.enable? w : Option Header)) h
        literal ")"
        blanks
        literal "]"
        read size n h
    else return h

end Header

/-- How deep brackets may nest. Brackets around elements count twice, once for each element. -/
def nestingLimit : Nat := 128

section
variable (size : Nat) (h : Header)

def afterSome (content : Scan τ) : Scan τ := do
  blanks
  if ← accept "(" then
    blanks
    let x ← content
    let _ ← comma
    literal ")"
    return x
  else if h.bareOptions then content
  else failure

def keyAhead : Scan Bool := fun cs =>
  match (do let _ ← name; blanks; peek : Scan (Option Char)) cs with
  | some (some ':', _) => some (true, cs)
  | _ => some (false, cs)

def key : Scan String := do
  let k ← name
  blanks
  literal ":"
  blanks
  return k

def skipBrackets (opening : String) (close : Char) (element : Scan Unit) : Scan Unit := do
  literal opening
  let _ ← separated close element size
  literal (String.singleton close)

def skipBody (element : Scan Unit) : Scan Unit := do
  literal "("
  blanks
  let fields ← keyAhead
  let _ ← separated ')' (if fields then do let _ ← key; element else element) size
  literal ")"

def skipForm (opens : Bool) (content element : Scan Unit) : Scan Unit := do
  if ← ["true", "false", "None", "inf", "-inf", "NaN"].anyM keyword then pure ()
  else if ← keyword "Some" then afterSome h content
  else if ← accept "()" then pure ()
  else
    let named := (← (some <$> name <|> pure none)).isSome
    if named then blanks
    match ← peek with
    | some '(' => if opens then skipBody size element else failure
    | c =>
      if named then pure ()
      else match c with
        | some '[' => if opens then skipBrackets size "[" ']' element else failure
        | some '\x7b' =>
          if opens then
            skipBrackets size "\x7b" '\x7d' (do element; blanks; literal ":"; blanks; element)
          else failure
        | some '"' | some 'r' => discard text
        | some '\'' => discard character
        | _ => skipNumber

def skipValue : Nat → Scan Unit
  | 0 => skipForm size h false failure failure
  | 1 => skipForm size h true (skipValue 0) failure
  | depth + 2 => skipForm size h true (skipValue (depth + 1)) (skipValue depth)

def readFields (fields : List (String × Shape)) (readField : Shape → Scan (Value α)) (skip : Scan Unit) :
    Scan (List (String × Value α)) := do
  let fs ← separated ')' (do
    let k ← key
    match fields.lookup k with
    | some s => return some (k, ← readField s)
    | none => skip; return none) size
  return fs.filterMap id

def readValue [Scalar α] : Nat → Bool → Shape → Scan (Value α)
  | _, _, .number => do return .number (← decimal).value
  | _, _, .natural => do return .integer (← natural)
  | _, _, .text => do return .text (← text)
  | _, _, .flag => do
    if ← keyword "true" then return .flag true
    else if ← keyword "false" then return .flag false
    else failure
  | depth + 1, _, .option s => do
    if ← keyword "None" then return .word "None"
    else if ← keyword "Some" then return .named "Some" (← afterSome h (readValue depth false s))
    else if h.bareOptions then return .named "Some" (← readValue depth false s)
    else failure
  | depth + 2, _, .list s => do
    literal "["
    let vs ← separated ']' (readValue depth false s) size
    literal "]"
    return .list vs
  | depth + 2, bare, .tuple n ss => do
    unless bare do
      unless n.isEmpty do typeName n
      literal "("
    let vs ← each (ss.map (readValue depth false))
    unless bare do literal ")"
    return .tuple "" vs
  | depth + 1, bare, .wrapper n s => do
    if bare || h.bareWrappers then return .wrap (← readValue depth false s)
    else
      typeName n
      blanks
      literal "("
      blanks
      let v ← readValue depth false s
      let _ ← comma
      literal ")"
      return .wrap v
  | depth + 2, bare, .record n fields => do
    unless bare do
      typeName n
      blanks
      literal "("
    let fs ← readFields size fields (readValue depth false) (skipValue size h depth)
    unless bare do literal ")"
    return .record "" fs
  | depth + 3, _, .choice wrapped records => do
    blanks
    let w ← name
    match wrapped.lookup w, records.lookup w with
    | some s, _ =>
      blanks
      literal "("
      blanks
      let v ← readValue (depth + 1) h.bareContents s
      let _ ← comma
      literal ")"
      return .named w v
    | none, some fields =>
      blanks
      literal "("
      let fs ← readFields size fields (readValue depth false) (skipValue size h depth)
      literal ")"
      return .record w fs
    | none, none => return .word w
  | _, _, _ => failure

end

def parse [Scalar α] (shape : Shape) (s : String) : Option (Value α) := do
  let cs := s.toList
  let size := cs.length + 1
  let document : Scan (Value α) := do
    let h ← Header.read size size {}
    let v ← readValue size h nestingLimit false shape
    blanks
    return v
  let (v, rest) ← document cs
  if rest.isEmpty then some v else none

end Drafting.Archive
