import Armature.Command.Report
import Armature.Model.Json
import Armature.Model.OfSpec
import Armature.Spec.Json
/-!
The command that shows the model of a spec.
-/

namespace Armature.Command

structure NormalizeOptions where
  spec : String
  maxCubes : Option Nat := none
  limits : Option String := none
  json : Bool := false
  pretty : Bool := false
  deriving DecidableEq

namespace NormalizeOptions

def modelLines (model : Model Float) : List Line :=
  let bones := model.bones.toList.map fun bone =>
    let parent := bone.parent.elim "" fun parent => s!" <- {parent}"
    Line.plain s!"  {bone.id}{parent} pivot {vectorText bone.pivot}"
  let cubes := model.cubes.toList.map fun cube =>
    Line.plain
      s!"  {cube.id} on {cube.parent} {vectorText cube.lower}..{vectorText cube.upper}"
  [.plain "", .plain "Bones:"] ++ bones
    ++ if cubes.isEmpty then [] else [.plain "", .plain "Cubes:"] ++ cubes

def runLines (o : NormalizeOptions) (directory : Directory) : Run :=
  match chooseLimits o.limits o.maxCubes with
  | .error message => .failure [] message
  | .ok limits =>
    let title := Line.plain s!"Normalizing: {o.spec}" ::
      if o.limits.isNone && o.maxCubes.isNone then []
      else [.plain
        s!"Limits: {limits.name} (max {limits.maxCubes} cubes, {limits.maxBones} bones)"]
    match load Spec.ofText directory o.spec with
    | .error fault => .failure title s!"Failed to load spec file: {o.spec}: {fault.chain}"
    | .ok spec =>
      let source := title ++ [.plain s!"Source: json ({spec.shortHash})"]
      match Model.ofSpec limits spec.document with
      | .error fault =>
        ⟨.lines (source ++ faultLines fault
          ++ [.plain "", .timed "FAILED Spec does not normalize"]), .rejected⟩
      | .ok model =>
        let whole := if o.pretty then [Line.plain "", .plain model.toJson.pretty] else []
        ⟨.lines (source ++ warningLines model.warnings ++ modelLines model ++ whole
          ++ [.plain "",
            .timed s!"SUCCESS {model.bones.size} bone(s), {model.cubes.size} cube(s)",
            .plain s!"Model hash: {model.digest}"]), .success⟩

def report (o : NormalizeOptions) (directory : Directory) : Report :=
  match chooseLimits o.limits o.maxCubes with
  | .error message => { problems := [unknownLimits message] }
  | .ok limits =>
    match load Spec.ofText directory o.spec with
    | .error fault => { problems := [.ofInput fault o.spec] }
    | .ok spec =>
      match Model.ofSpec limits spec.document with
      | .error fault => { problems := [.ofFault fault], sourceHash := some spec.hash }
      | .ok model =>
        { warnings := model.warnings
          result := some (.object
            [("limits", .text limits.name), ("max_cubes", .ofNat limits.maxCubes),
              ("bone_count", .ofNat model.bones.size), ("cube_count", .ofNat model.cubes.size),
              ("model", model.toJson.sorted)])
          hash := some model.digest
          sourceHash := some spec.hash }

def run (o : NormalizeOptions) (directory : Directory) : Run :=
  if o.json then (o.report directory).run "model_hash" else o.runLines directory

end NormalizeOptions

end Armature.Command
