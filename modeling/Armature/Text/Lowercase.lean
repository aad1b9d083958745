import Armature.Text.Blank
import Armature.Text.CaseTable
/-!
Lower case by the full mapping of the Unicode standard. Two characters need more than the table: the
dotted capital I becomes two characters, and a capital sigma that ends a word has a form of its own.
-/

namespace Armature.Text

def lowerChar (c : Char) : List Char :=
  if c.toNat < 0x80 then [c.toLower]
  else if c = 'İ' then ['i', '\u0307']
  else
    let covers (run : CapitalRun) : Bool :=
      run.first ≤ c.toNat && c.toNat ≤ run.last && (c.toNat - run.first) % run.step == 0
    match capitalRuns.find? covers with
    | some run => [Char.ofNat (c.toNat + run.shift).toNat]
    | none => [c]

/-- Whether the first character that is not passed over is a letter with case. -/
def meetsCased (cs : List Char) : Bool :=
  match cs.dropWhile (inRanges caseIgnorableRanges) with
  | c :: _ => inRanges casedRanges c
  | [] => false

/-- Whether a sigma between two texts ends a word: a letter stands before it and none after it. -/
def endsWord (reversedBefore after : List Char) : Bool :=
  meetsCased reversedBefore && !meetsCased after

/-- The lower case form of `rest`, where `before` holds the characters ahead of it, the nearest
first. -/
def lowerFrom (before : List Char) : (rest : List Char) → List Char
  | [] => []
  | c :: rest =>
    let lowered := if c = 'Σ' then [if endsWord before rest then 'ς' else 'σ'] else lowerChar c
    lowered ++ lowerFrom (c :: before) rest

def lowercase (s : String) : String := String.ofList (lowerFrom [] s.toList)

end Armature.Text
