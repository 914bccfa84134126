import Gatehouse.Text.LetterCase

/-!
# Lower case

Full Unicode lower casing. A character has one lower case whatever stands around it, with two
exceptions: the capital I with a dot keeps its dot as a mark of its own, and a capital sigma becomes a
final sigma at the end of a word.
-/

namespace Gatehouse.Text

def inRanges (ranges : List (Nat × Nat)) (c : Char) : Bool :=
  ranges.any fun r => r.1 ≤ c.toNat && c.toNat ≤ r.2

/-- A letter of either case, and not one of the characters that word ends look past. -/
def isCased (c : Char) : Bool :=
  (65 ≤ c.toNat && c.toNat ≤ 90) || (97 ≤ c.toNat && c.toNat ≤ 122) ||
  (128 ≤ c.toNat && inRanges casedRanges c)

def isCaseIgnorable (c : Char) : Bool := inRanges caseIgnorableRanges c

def lowerChar (c : Char) : List Char :=
  if c.toNat < 128 then [c.toLower]
  else if c.toNat = 0x130 then ['i', Char.ofNat 0x307]
  else
    match lowercaseRuns.find? fun (first, last, step, _) =>
        first ≤ c.toNat && c.toNat ≤ last && (c.toNat - first) % step == 0 with
    | some (first, _, _, lower) => [Char.ofNat (c.toNat - first + lower)]
    | none => [c]

/-- The nearest character, looking past the ignorable ones, is cased. -/
def meetsCased (cs : List Char) : Bool :=
  match cs.dropWhile isCaseIgnorable with
  | [] => false
  | c :: _ => isCased c

def lowerSigma (before after : List Char) : Char :=
  if meetsCased before && !meetsCased after then Char.ofNat 0x3C2 else Char.ofNat 0x3C3

/-- Lower case of a text of which `before`, in reverse, has been read already. -/
def lowerAfter (before : List Char) : List Char → List Char
  | [] => []
  | c :: cs =>
    if c.toNat = 0x3A3 then lowerSigma before cs :: lowerAfter (c :: before) cs
    else lowerChar c ++ lowerAfter (c :: before) cs

def lowerChars (cs : List Char) : List Char := lowerAfter [] cs

def lower (s : String) : String := String.ofList (lowerChars s.toList)

end Gatehouse.Text
