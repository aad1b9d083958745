import Armature.Model.Basic
/-!
What happens to a live model between plans.
-/

namespace Armature

structure Live.Edit where
  dropNames : List String := []
  stripIds : Bool := false
  revision : Option String := none

variable {K : Type}

def Live.edit (l : Live K) (e : Edit) : Live K :=
  let bones := l.bones.filter fun bone => !e.dropNames.contains bone.name
  let cubes := l.cubes.filter fun cube => !e.dropNames.contains cube.name
  { bones := if e.stripIds then bones.map fun bone => { bone with id := none } else bones
    cubes := if e.stripIds then cubes.map fun cube => { cube with id := none } else cubes
    revision := e.revision <|> l.revision }

def Live.adopt (l : Live K) (m : Model K) : Live K := { m.toLive with revision := l.revision }

end Armature
