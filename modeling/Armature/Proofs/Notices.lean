import Armature.Command.Plan
import Armature.Proofs.Attempts

/-! What a report for a program says, read back from its JSON value: its faults, its warnings, and
the operations of a plan. The lines for a person are told from it. -/

namespace Armature

namespace Json

section Record

variable {key other : String} {members : List (Option (String × Json))}

@[simp]
lemma get?_record_nil : (record []).get? key = none := rfl

@[simp]
lemma get?_record_member {value : Json} : (record (member other value :: members)).get? key =
    if key = other then some value else (record members).get? key := by
  by_cases h : key = other
  · simp [record, member, get?, h]
  · simp [record, member, get?, List.lookup_cons, h, beq_false_of_ne h]

@[simp]
lemma get?_record_member? {α : Type} {write : α → Json} {o : Option α} :
    (record (member? other write o :: members)).get? key =
      if key = other then (o.map write).or ((record members).get? key)
      else (record members).get? key := by
  cases o with
  | none => simp [record, member?]
  | some a => exact get?_record_member

end Record

def textAt? (key : String) (value : Json) : Option String :=
  match value.get? key with
  | some (text s) => some s
  | _ => none

def itemsAt (key : String) (value : Json) : List Json :=
  match value.get? key with
  | some (array items) => items
  | _ => []

def countAt (key : String) (value : Json) : ℕ :=
  match value.get? key with
  | some (number (.integer n)) => n.toNat
  | _ => 0

def isSetAt (key : String) (value : Json) : Bool :=
  match value.get? key with
  | some (bool b) => b
  | _ => false

def objectAt (key : String) (value : Json) : Json := (value.get? key).getD (.object [])

variable {key : String} {value : Json}

lemma textAt?_of_get? {o : Option String} (h : value.get? key = o.map text) :
    value.textAt? key = o := by
  cases o <;> simp [textAt?, h]

end Json

namespace Command

/-- What a report says about a fault or a warning. -/
structure Notice where
  code : String
  message : String
  path : Option String
  fix : Option String

namespace Notice

def ofFault (fault : Fault Float) : Notice := ⟨fault.code, fault.message, fault.path, fault.remedy⟩

def ofWarning (w : Warning) : Notice := ⟨w.code, w.message, some w.path, none⟩

def ofJson (value : Json) : Notice where
  code := (value.textAt? "code").getD ""
  message := (value.textAt? "message").getD ""
  path := value.textAt? "path"
  fix := value.textAt? "suggestion"

def lines (mark : String) (n : Notice) : List Line :=
  .plain s!"{mark}{n.code}]{atPath n.path}: {n.message}" ::
    n.fix.toList.map fun fix => .plain s!"    fix: {fix}"

def passage (title mark : String) : List Notice → List Line
  | [] => []
  | notices => [.plain "", .plain title] ++ notices.flatMap (lines mark)

lemma ofJson_fault (fault : Fault Float) :
    ofJson (Problem.ofFault fault).toJson = ofFault fault := by
  have hpath : (Problem.ofFault fault).toJson.textAt? "path" = fault.path :=
    Json.textAt?_of_get? (by simp [Problem.toJson, Problem.ofFault])
  have hfix : (Problem.ofFault fault).toJson.textAt? "suggestion" = fault.remedy :=
    Json.textAt?_of_get? (by simp [Problem.toJson, Problem.ofFault])
  rw [ofJson, hpath, hfix]
  rfl

lemma ofJson_warning (w : Warning) : ofJson (warningJson w) = ofWarning w := rfl

lemma passage_fault (fault : Fault Float) :
    passage "Errors:" "  x [" [ofFault fault] = faultLines fault := by
  simp [passage, lines, faultLines, ofFault]

lemma passage_warnings (warnings : List Warning) :
    passage "Warnings:" "  ! [" (warnings.map ofWarning) = warningLines warnings := by
  cases warnings with
  | nil => rfl
  | cons w rest =>
    simp [passage, warningLines, List.flatMap_map, lines, ofWarning, ← List.map_eq_flatMap]

end Notice

def notices (key : String) (value : Json) : List Notice := (value.itemsAt key).map .ofJson

/-- The lines behind those about what has been loaded, told from the value for a program. Those
about a success are given apart. -/
def retold (failure : String) (done : List Line) (value : Json) : List Line :=
  Notice.passage "Warnings:" "  ! [" (notices "warnings" value) ++
    if value.isSetAt "success" then done
    else Notice.passage "Errors:" "  x [" (notices "errors" value) ++ [.plain "", .timed failure]

section Reports

variable {hashKey : String} {r : Report} {failure : String} {done : List Line}

lemma notices_errors :
    notices "errors" (r.toJson hashKey) = r.problems.map fun p => .ofJson p.toJson := by
  simp [notices, Json.itemsAt, Report.toJson, Function.comp_def]

lemma notices_warnings :
    notices "warnings" (r.toJson hashKey) = r.warnings.map Notice.ofWarning := by
  simp [notices, Json.itemsAt, Report.toJson, Function.comp_def, Notice.ofJson_warning]

lemma isSetAt_success : (r.toJson hashKey).isSetAt "success" = r.problems.isEmpty := by
  simp [Json.isSetAt, Report.toJson]

lemma objectAt_result {result : Json} (h : r.result = some result) :
    (r.toJson hashKey).objectAt "result" = result := by
  simp [Json.objectAt, Report.toJson, h]

lemma textAt?_hash (h : hashKey ∉ ["success", "errors", "warnings", "result", "source_hash"]) :
    (r.toJson hashKey).textAt? hashKey = r.hash := by
  simp only [List.mem_cons, List.not_mem_nil, or_false, not_or] at h
  exact Json.textAt?_of_get? (by simp [Report.toJson, h])

lemma retold_success (h : r.problems = []) :
    retold failure done (r.toJson hashKey) = warningLines r.warnings ++ done := by
  rw [retold, notices_warnings, Notice.passage_warnings, isSetAt_success, h]
  rfl

lemma retold_fault {fault : Fault Float} (h : r.problems = [.ofFault fault]) :
    retold failure done (r.toJson hashKey) =
      warningLines r.warnings ++ (faultLines fault ++ [.plain "", .timed failure]) := by
  have herrors : notices "errors" (r.toJson hashKey) = [.ofFault fault] := by
    rw [notices_errors, h, List.map_singleton, Notice.ofJson_fault]
  rw [retold, notices_warnings, Notice.passage_warnings, isSetAt_success, h, herrors,
    Notice.passage_fault]
  rfl

end Reports

/-- Both runs end in a refusal, with one fault. -/
structure Rejected (person program : Run) (value : Json) (warnings : List Warning)
    (fault : Fault Float) : Prop where
  person : person.ending.status = 1
  program : program.ending.status = 1
  success : value.isSetAt "success" = false
  errors : notices "errors" value = [.ofFault fault]
  warnings : notices "warnings" value = warnings.map .ofWarning

structure Accepted (person program : Run) (value : Json) (warnings : List Warning)
    (hashKey hash : String) : Prop where
  person : person.ending.status = 0
  program : program.ending.status = 0
  success : value.isSetAt "success" = true
  errors : notices "errors" value = []
  warnings : notices "warnings" value = warnings.map .ofWarning
  hash : value.textAt? hashKey = some hash

section Runs

variable {person : Run} {r : Report} {hashKey hash : String}

lemma rejected_of_fault {fault : Fault Float} (hperson : person.ending.status = 1)
    (h : r.problems = [.ofFault fault]) :
    Rejected person (r.run hashKey) (r.toJson hashKey) r.warnings fault where
  person := hperson
  program := by
    rw [Report.run, h]
    rfl
  success := by
    rw [isSetAt_success, h]
    rfl
  errors := by rw [notices_errors, h, List.map_singleton, Notice.ofJson_fault]
  warnings := notices_warnings

lemma accepted_of_hash (hperson : person.ending.status = 0) (h : r.problems = [])
    (hhash : (r.toJson hashKey).textAt? hashKey = some hash) :
    Accepted person (r.run hashKey) (r.toJson hashKey) r.warnings hashKey hash where
  person := hperson
  program := by
    rw [Report.run, h]
    rfl
  success := by
    rw [isSetAt_success, h]
    rfl
  errors := by
    rw [notices_errors, h]
    rfl
  warnings := notices_warnings
  hash := hhash

/-- Runs that are both refused, or both succeed and then have `P`, have one status. -/
lemma status_eq_of_outcome {program : Run} {P : Prop}
    (h : (person.ending.status = 1 ∧ program.ending.status = 1) ∨
      (person.ending.status = 0 ∧ program.ending.status = 0) ∧ P) :
    person.ending.status = program.ending.status ∧ (program.ending.status = 0 → P) := by
  rcases h with ⟨hperson, hprogram⟩ | ⟨⟨hperson, hprogram⟩, hP⟩
  · refine ⟨hperson.trans hprogram.symm, fun hzero => ?_⟩
    cases hprogram.symm.trans hzero
  · exact ⟨hperson.trans hprogram.symm, fun _ => hP⟩

lemma status_of_problems (h : r.problems ≠ []) : (r.run hashKey).ending.status = 1 := by
  have hempty : r.problems.isEmpty = false := by simpa using h
  rw [Report.run, hempty]
  rfl

end Runs

/-- What a report says about an operation. -/
structure Step where
  kind : String
  name : String
  keys : List String
  deriving DecidableEq

namespace Step

def ofOp (op : Plan.Op Float) : Step := ⟨op.kind.name, op.targetName, PlanOptions.changedKeys op⟩

/-- An entity that is created has its name in the place of the operation's. -/
def ofJson (value : Json) : Step where
  kind := (value.textAt? "op").getD ""
  name :=
    ([value, value.objectAt "bone", value.objectAt "cube"].findSome? (·.textAt? "name")).getD ""
  keys := (value.get? "changes").elim [] PlanOptions.sortedKeys ++
    ["parentRoot", "boneRoot"].filter fun key => value.isSetAt key

def line (step : Step) (number : ℕ) : Line :=
  let detail :=
    match step.keys with
    | [] => ""
    | keys => " (" ++ String.intercalate ", " keys ++ ")"
  .plain s!"  {PlanOptions.padNumber number}. {step.kind} {step.name}{detail}"

lemma line_ofOp (op : Plan.Op Float) (number : ℕ) :
    (ofOp op).line number = PlanOptions.opLine op number := rfl

lemma ofJson_op (op : Plan.Op Float) : ofJson op.toJson = ofOp op := by
  cases op with
  | createBone bone =>
    obtain ⟨id⟩ := bone
    cases id <;> rfl
  | createCube cube =>
    obtain ⟨id⟩ := cube
    cases id <;> rfl
  | updateBone id name changes toTop => cases id <;> cases toTop <;> rfl
  | updateCube id name changes toRoot => cases id <;> cases toRoot <;> rfl
  | deleteBone id name => cases id <;> rfl
  | deleteCube id name => cases id <;> rfl

end Step

def summaryOf (value : Json) : Plan.Summary where
  createBone := value.countAt "createBone"
  updateBone := value.countAt "updateBone"
  deleteBone := value.countAt "deleteBone"
  createCube := value.countAt "createCube"
  updateCube := value.countAt "updateCube"
  deleteCube := value.countAt "deleteCube"
  bones := value.countAt "bones"
  cubes := value.countAt "cubes"
  total := value.countAt "total"

lemma summaryOf_toJson (s : Plan.Summary) : summaryOf s.toJson = s := rfl

end Command

end Armature
