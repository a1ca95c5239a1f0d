/-! # Cutting text apart

Parts between separators, lines, the two halves around a separator, and marks that are replaced.
-/
namespace Resilience.Text

/-- The parts between the separators: one more than there are separators. -/
def splitChars (sep : Char) : List Char → List (List Char)
  | [] => [[]]
  | c :: cs =>
    if c = sep then [] :: splitChars sep cs
    else match splitChars sep cs with
      | [] => [[c]]
      | part :: parts => (c :: part) :: parts

def split (sep : Char) (s : String) : List String :=
  (splitChars sep s.toList).map String.ofList

def cutLast? (sep : Char) (s : String) : Option (String × String) :=
  let back := s.toList.reverse
  match back.dropWhile (· ≠ sep) with
  | [] => none
  | _ :: front =>
    some (String.ofList front.reverse, String.ofList (back.takeWhile (· ≠ sep)).reverse)

def cutFirst? (sep : Char) (s : String) : Option (String × String) :=
  let cs := s.toList
  match cs.dropWhile (· ≠ sep) with
  | [] => none
  | _ :: back => some (String.ofList (cs.takeWhile (· ≠ sep)), String.ofList back)

def cutMark? (mark : List Char) : List Char → Option (List Char × List Char)
  | [] => if mark = [] then some ([], []) else none
  | c :: cs =>
    if mark.isPrefixOf (c :: cs) then some ([], (c :: cs).drop mark.length)
    else (cutMark? mark cs).map fun p => (c :: p.1, p.2)

/-- A carriage return that ends the line belongs to the line's end. -/
def dropReturn (line : List Char) : List Char :=
  if line.getLast? = some '\r' then line.dropLast else line

/-- The lines of a text, without their ends. A text that ends a line opens no further one. -/
def lineChars (cs : List Char) : List (List Char) :=
  match (splitChars '\n' cs).reverse with
  | [] => []
  | last :: front =>
    let complete := (front.map dropReturn).reverse
    if last = [] then complete else complete ++ [last]

def lines (s : String) : List String :=
  (lineChars s.toList).map String.ofList

def indent (margin : String) (s : String) : String :=
  "\n".intercalate ((lines s).map (margin ++ ·))

/-- The characters with every occurrence of a mark replaced, so many characters being part of one
already. Occurrences are found from the left, and none begins inside another. -/
def replaceFrom (mark value : List Char) : Nat → List Char → List Char
  | _, [] => []
  | skip + 1, _ :: cs => replaceFrom mark value skip cs
  | 0, c :: cs =>
    if mark.isPrefixOf (c :: cs) then value ++ replaceFrom mark value (mark.length - 1) cs
    else c :: replaceFrom mark value 0 cs

/-- A text with every occurrence of a mark replaced. The mark must not be empty. -/
def replace (mark value text : String) : String :=
  String.ofList (replaceFrom mark.toList value.toList 0 text.toList)

end Resilience.Text
