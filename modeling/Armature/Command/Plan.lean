import Armature.Command.Report
import Armature.Model.OfSpec
import Armature.Plan.Json
import Armature.Plan.OfModel
import Armature.Spec.Json
/-!
The command that shows the plan for a spec and a snapshot. It carries nothing out.
-/

namespace Armature.Command

structure PlanOptions where
  spec : String
  /-- The file with the snapshot; nothing is live without one. -/
  existing : Option String := none
  mode : String := Mode.merge.name
  deleteOrphans : Bool := false
  limits : Option String := none
  json : Bool := false
  deriving DecidableEq

namespace PlanOptions

def mode? (name : String) : Except String Mode :=
  (Mode.ofName? name).elim (.error (Mode.unknownMessage name)) .ok

def sortedKeys : Json → List String
  | .object members => (members.map Prod.fst).mergeSort fun a b => !decide (b < a)
  | _ => []

def changedKeys : Plan.Op Float → List String
  | .updateBone _ _ changes toTop =>
    sortedKeys changes.toJson ++ if toTop then ["parentRoot"] else []
  | .updateCube _ _ changes toRoot =>
    sortedKeys changes.toJson ++ if toRoot then ["boneRoot"] else []
  | _ => []

def padNumber (n : Nat) : String :=
  let digits := toString n
  String.ofList (List.replicate (3 - digits.length) ' ') ++ digits

def opLine (op : Plan.Op Float) (number : Nat) : Line :=
  let detail :=
    match changedKeys op with
    | [] => ""
    | keys => " (" ++ String.intercalate ", " keys ++ ")"
  .plain s!"  {padNumber number}. {op.kind.name} {op.targetName}{detail}"

def planLines (plan : Plan Float) : List Line :=
  if plan.isEmpty then []
  else
    let s := plan.summary
    [.plain "", .plain "Operations:"]
      ++ (plan.ops.zipIdx.map fun (op, index) => opLine op (index + 1))
      ++ [.plain "",
        .plain (s!"Summary: bones +{s.createBone} ~{s.updateBone} -{s.deleteBone}, "
          ++ s!"cubes +{s.createCube} ~{s.updateCube} -{s.deleteCube}")]
      ++ plan.revision.toList.map fun revision => .plain s!"Revision: {revision}"

def rejection (fault : Fault Float) : List Line :=
  faultLines fault ++ [.plain "", .timed "FAILED No plan produced"]

def loadLive (o : PlanOptions) (directory : Directory) : Except (String × InputFault) (Live Float × Line) :=
  match o.existing with
  | none => .ok ({}, .plain "Existing: empty")
  | some path =>
    match load Live.ofText directory path with
    | .error fault => .error (path, fault)
    | .ok live =>
      let bones := live.document.bones.length
      let cubes := live.document.cubes.length
      .ok (live.document, .plain s!"Existing: {bones} bone(s), {cubes} cube(s) ({live.shortHash})")

def resultLines (mode : Mode) (o : PlanOptions) (limits : Limits) (spec : Spec Float)
    (live : Live Float) : List Line × Ending :=
  match Model.ofSpec limits spec with
  | .error fault => (rejection fault, .rejected)
  | .ok model =>
    match Plan.ofModel mode o.deleteOrphans model live with
    | .error fault => (warningLines model.warnings ++ rejection fault, .rejected)
    | .ok plan =>
      let verdict :=
        if plan.isEmpty then "SUCCESS Live state already matches"
        else s!"SUCCESS {plan.summary.total} operation(s) planned"
      (warningLines model.warnings ++ planLines plan
        ++ [.plain "", .timed verdict, .plain s!"Plan hash: {plan.digest}"], .success)

def runLines (o : PlanOptions) (directory : Directory) : Run :=
  match mode? o.mode, chooseLimits o.limits none with
  | .error message, _ => .failure [] message
  | _, .error message => .failure [] message
  | .ok mode, .ok limits =>
    let orphans := if o.deleteOrphans then " (delete orphans)" else ""
    let title := [Line.plain s!"Planning: {o.spec}", .plain s!"Mode: {mode.name}{orphans}"]
    match load Spec.ofText directory o.spec with
    | .error fault => .failure title s!"Failed to load spec file: {o.spec}: {fault.chain}"
    | .ok spec =>
      let source := title ++ [.plain s!"Source: json ({spec.shortHash})"]
      match o.loadLive directory with
      | .error (path, fault) =>
        .failure source s!"Failed to load existing state: {path}: {fault.chain}"
      | .ok (live, line) =>
        let (lines, ending) := resultLines mode o limits spec.document live
        ⟨.lines (source ++ line :: lines), ending⟩

def loadLiveHash (o : PlanOptions) (directory : Directory) :
    Except Problem (Live Float × Option String) :=
  match o.existing with
  | none => .ok ({}, none)
  | some path =>
    match load Live.ofText directory path with
    | .error fault => .error (.ofInput fault path)
    | .ok live => .ok (live.document, some live.hash)

def resultReport (mode : Mode) (o : PlanOptions) (limits : Limits) (spec : Loaded (Spec Float))
    (live : Live Float) (liveHash : Option String) : Report :=
  match Model.ofSpec limits spec.document with
  | .error fault => { problems := [.ofFault fault], sourceHash := some spec.hash }
  | .ok model =>
    match Plan.ofModel mode o.deleteOrphans model live with
    | .error fault =>
      { problems := [.ofFault fault], warnings := model.warnings, sourceHash := some spec.hash }
    | .ok plan =>
      { warnings := model.warnings
        result := some (Json.record
          [Json.member "mode" (.text mode.name),
            Json.member "delete_orphans" (.bool o.deleteOrphans),
            Json.member "summary" plan.summary.toJson,
            Json.member "ops" plan.opsJson,
            Json.member? "revision" .text plan.revision,
            Json.member? "existing_hash" .text liveHash])
        hash := some plan.digest
        sourceHash := some spec.hash }

def report (o : PlanOptions) (directory : Directory) : Report :=
  match mode? o.mode, chooseLimits o.limits none with
  | .error message, _ => { problems := [unknownMode message] }
  | _, .error message => { problems := [unknownLimits message] }
  | .ok mode, .ok limits =>
    match load Spec.ofText directory o.spec with
    | .error fault => { problems := [.ofInput fault o.spec] }
    | .ok spec =>
      match o.loadLiveHash directory with
      | .error problem => { problems := [problem], sourceHash := some spec.hash }
      | .ok (live, liveHash) => resultReport mode o limits spec live liveHash

def run (o : PlanOptions) (directory : Directory) : Run :=
  if o.json then (o.report directory).run "plan_hash" else o.runLines directory

end PlanOptions

end Armature.Command
