import Drafting.Archive.Scan
import Drafting.Text.Hidden
/-! Texts and characters between quotes. A backslash stands before a quote, before the letter of a
blank or before the number of a character; a raw text has no such marks and ends at a quote with as
many hash signs as it began with. -/
namespace Drafting.Archive

def hexDigit? (c : Char) : Option Nat :=
  if c.isDigit then some (c.toNat - '0'.toNat)
  else if 'a' ≤ c && c ≤ 'f' then some (10 + (c.toNat - 'a'.toNat))
  else if 'A' ≤ c && c ≤ 'F' then some (10 + (c.toNat - 'A'.toNat))
  else none

def isHexDigit (c : Char) : Bool := (hexDigit? c).isSome

def hexValue? (cs : List Char) : Option Nat := cs.foldlM (fun n c => (hexDigit? c).map (16 * n + ·)) 0

def escapeLetters : List (Char × Char) :=
  [('n', '\n'), ('r', '\r'), ('t', '\t'), ('0', '\x00'), ('\'', '\''), ('"', '"'), ('\\', '\\')]

def numbered (cs : List Char) : Option (Char × List Char) := do
  let digits := cs.takeWhile isHexDigit
  let rest := cs.dropWhile isHexDigit
  let n ← hexValue? digits
  if 1 ≤ digits.length ∧ digits.length ≤ 6 ∧ n.isValidChar ∧ rest.head? = some '\x7d' then
    some (Char.ofNat n, rest.drop 1)
  else none

theorem length_of_numbered {cs rest : List Char} {c : Char} (h : numbered cs = some (c, rest)) :
    rest.length ≤ cs.length := by
  simp only [numbered, bind, Option.bind_eq_some_iff] at h
  obtain ⟨n, _, last⟩ := h
  split at last <;> try contradiction
  obtain ⟨_, rfl⟩ := Prod.mk.inj (Option.some.inj last)
  have := (List.dropWhile_sublist isHexDigit (l := cs)).length_le
  simp only [List.length_drop]; omega

def escaped : List Char → Option (Char × List Char)
  | 'x' :: a :: b :: cs => (hexValue? [a, b]).map fun n => (Char.ofNat n, cs)
  | 'u' :: '\x7b' :: cs => numbered cs
  | c :: cs => (escapeLetters.lookup c).map (·, cs)
  | [] => none

theorem length_of_escaped {cs rest : List Char} {c : Char} (h : escaped cs = some (c, rest)) :
    rest.length < cs.length := by
  unfold escaped at h
  split at h
  · obtain ⟨_, _, last⟩ := Option.map_eq_some_iff.1 h
    obtain ⟨_, rfl⟩ := Prod.mk.inj last
    simp only [List.length_cons]; omega
  · have := length_of_numbered h
    simp only [List.length_cons]; omega
  · obtain ⟨_, _, last⟩ := Option.map_eq_some_iff.1 h
    obtain ⟨_, rfl⟩ := Prod.mk.inj last
    simp
  · contradiction

def quotedText (cs : List Char) : Option (List Char × List Char) :=
  match cs with
  | [] => none
  | '"' :: cs => some ([], cs)
  | '\\' :: cs =>
    match _taken : escaped cs with
    | some (c, rest) => (quotedText rest).map fun (s, after) => (c :: s, after)
    | none => none
  | c :: cs => (quotedText cs).map fun (s, after) => (c :: s, after)
termination_by cs.length
decreasing_by
  · have := length_of_escaped _taken
    simp only [List.length_cons]; omega
  · simp only [List.length_cons]; omega

def rawText (hashes : Nat) : List Char → Option (List Char × List Char)
  | [] => none
  | c :: cs =>
    if c = '"' ∧ hashes ≤ (cs.takeWhile (· == '#')).length then some ([], cs.drop hashes)
    else (rawText hashes cs).map fun (s, after) => (c :: s, after)

namespace Scan

def text : Scan String
  | '"' :: cs => (quotedText cs).map fun (s, rest) => (String.ofList s, rest)
  | 'r' :: cs =>
    match cs.dropWhile (· == '#') with
    | '"' :: body =>
      (rawText (cs.takeWhile (· == '#')).length body).map fun (s, rest) => (String.ofList s, rest)
    | _ => none
  | _ => none

def character : Scan Char
  | '\'' :: '\\' :: cs =>
    match escaped cs with
    | some (c, '\'' :: rest) => some (c, rest)
    | _ => none
  | '\'' :: c :: '\'' :: rest => if c = '\'' then none else some (c, rest)
  | _ => none

end Scan

def escape (c : Char) : String :=
  match escapeLetters.find? (·.2 == c) with
  | some (letter, _) => String.ofList ['\\', letter]
  | none =>
    if Text.isHidden c then "\\u\x7b" ++ String.ofList (Nat.toDigits 16 c.toNat) ++ "\x7d"
    else String.ofList [c]

def quote (s : String) : String := "\"" ++ String.join (s.toList.map escape) ++ "\""

end Drafting.Archive
