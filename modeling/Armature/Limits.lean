/-!
The sizes that a model may have.
-/

namespace Armature

structure Limits where
  name : String
  maxCubes : Nat
  maxBones : Nat
  deriving DecidableEq

namespace Limits

def standard : Limits := ⟨"default", 4096, 1024⟩

def strict : Limits := ⟨"strict", 512, 128⟩

def all : List Limits := [standard, strict]

def ofName? (name : String) : Option Limits := all.find? (·.name == name)

end Limits

end Armature
