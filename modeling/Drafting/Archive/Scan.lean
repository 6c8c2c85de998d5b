/-! Reading from the front of a text. A reader takes characters off the front or refuses; blanks and
comments stand between marks and names, and a comma may follow the last element of a sequence. -/
namespace Drafting.Archive

abbrev Scan := StateT (List Char) Option

namespace Scan

def isBlank (c : Char) : Bool := c ∈ [' ', '\t', '\n', '\r']
def isWordStart (c : Char) : Bool := c.isAlpha || c == '_'
def isWordPart (c : Char) : Bool := c.isAlphanum || c == '_'
def isRawPart (c : Char) : Bool := isWordPart c || c ∈ ['.', '+', '-']

/-- Where a reader of blanks stands: outside of comments, in one that ends with its line, or in a
bracketed one inside so many others. -/
inductive Place where
  | between
  | line
  | block (outer : Nat)

def afterBlanks : Place → List Char → Option (List Char)
  | .between, [] => some []
  | .between, '/' :: '/' :: cs => afterBlanks .line cs
  | .between, '/' :: '*' :: cs => afterBlanks (.block 0) cs
  | .between, c :: cs => if isBlank c then afterBlanks .between cs else if c = '/' then none else some (c :: cs)
  | .line, [] => some []
  | .line, c :: cs => afterBlanks (if c = '\n' then .between else .line) cs
  | .block _, [] => none
  | .block 0, '*' :: '/' :: cs => afterBlanks .between cs
  | .block (n + 1), '*' :: '/' :: cs => afterBlanks (.block n) cs
  | .block n, '/' :: '*' :: cs => afterBlanks (.block (n + 1)) cs
  | .block n, _ :: cs => afterBlanks (.block n) cs

def blanks : Scan Unit := fun cs => (afterBlanks .between cs).map ((), ·)

def peek : Scan (Option Char) := fun cs => some (cs.head?, cs)

def accept (s : String) : Scan Bool := fun cs =>
  if s.toList.isPrefixOf cs then some (true, cs.drop s.length) else some (false, cs)

def literal (s : String) : Scan Unit := do
  if ← accept s then pure () else failure

def startsWord (w : String) (cs : List Char) : Bool :=
  w.toList.isPrefixOf cs && !(cs.drop w.length).head?.any isWordPart

def keyword (w : String) : Scan Bool := fun cs =>
  if startsWord w cs then some (true, cs.drop w.length) else some (false, cs)

def comma : Scan Bool := do
  blanks
  if ← accept "," then blanks; pure true else pure false

/-- A name of letters, digits and underscores. Points and signs are part of it after `r#` and may not
touch it otherwise; `r` before a quote begins a text. -/
def name : Scan String
  | 'r' :: '"' :: _ => none
  | 'r' :: '#' :: cs =>
    match cs.takeWhile isRawPart with
    | [] => none
    | w => some (String.ofList w, cs.dropWhile isRawPart)
  | c :: cs =>
    let rest := cs.dropWhile isWordPart
    if isWordStart c && !rest.head?.any isRawPart then
      some (String.ofList (c :: cs.takeWhile isWordPart), rest)
    else none
  | [] => none

def typeName (expected : String) : Scan Unit := do
  if (← peek).any isWordPart then
    if (← name) != expected then failure

/-- Elements in brackets up to the closing one, which is left. Each but the last takes a comma, so
the length of a document bounds their number. -/
def separated (close : Char) (element : Scan τ) : Nat → Scan (List τ)
  | 0 => failure
  | n + 1 => do
    blanks
    if (← peek) = some close then return []
    let x ← element
    if ← comma then return x :: (← separated close element n) else return [x]

def each : List (Scan τ) → Scan (List τ)
  | [] => do blanks; pure []
  | [element] => do
    blanks
    let x ← element
    let _ ← comma
    return [x]
  | element :: elements => do
    blanks
    let x ← element
    if ← comma then return x :: (← each elements) else failure

end Scan
end Drafting.Archive
