import Armature.Digest.Blake3
import Armature.Json.Printer
import Armature.Message
import Armature.Model.OfSpec
import Armature.Plan.Json
import Armature.Plan.OfModel
import Armature.Text.Utf8
/-!
Whether a computation has the same output on every run, and where two outputs part if it has not.
-/

namespace Armature.Stability

def differenceFrom (position : Nat) : List UInt8 → List UInt8 → Option Nat
  | [], [] => none
  | a :: as, b :: bs => if a = b then differenceFrom (position + 1) as bs else some position
  | _, _ => some position

/-- The first position at which two outputs differ. One that is the beginning of the other differs
from it at its end. -/
def firstDifference (expected actual : List UInt8) : Option Nat := differenceFrom 0 expected actual

def margin : Nat := 16

def window (output : List UInt8) (offset : Nat) : List UInt8 :=
  (output.take (offset + margin)).drop (offset - margin)

structure Divergence where
  run : Nat
  offset : Nat
  expected : List UInt8
  actual : List UInt8

def Divergence.expectedText (d : Divergence) : String := Text.decodeUtf8 d.expected

def Divergence.actualText (d : Divergence) : String := Text.decodeUtf8 d.actual

def Divergence.display (d : Divergence) : String :=
  s!"run {d.run} differs at byte {d.offset}:\n  expected: {d.expectedText}\n  actual:   {d.actualText}"

structure Report where
  runs : Nat
  hash : String
  divergence : Option Divergence

def Report.isStable (r : Report) : Bool := r.divergence.isNone

def firstDivergence (output : Nat → List UInt8) (reference : List UInt8) :
    (count run : Nat) → Option Divergence
  | 0, _ => none
  | count + 1, run =>
    let actual := output run
    match firstDifference reference actual with
    | some offset => some ⟨run, offset, window reference offset, window actual offset⟩
    | none => firstDivergence output reference count (run + 1)

def check? (output : Nat → List UInt8) (runs : Nat) : Option Report :=
  if runs < 2 then none
  else
    let reference := output 0
    some ⟨runs, Blake3.hex ⟨reference.toArray⟩, firstDivergence output reference (runs - 1) 1⟩

def octets (s : String) : List UInt8 := s.toUTF8.data.toList

def planText (mode : Mode) (spec : Spec Float) (live : Live Float) : String :=
  match (Model.ofSpec .standard spec).bind (Plan.ofModel mode true · live) with
  | .ok plan => plan.toJson.compact
  | .error fault => fault.display

def checkPlan? (mode : Mode) (spec : Spec Float) (live : Live Float) (runs : Nat) : Option Report :=
  let output := octets (planText mode spec live)
  check? (fun _ => output) runs

end Armature.Stability
