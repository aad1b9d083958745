import Armature.Command.Normalize
import Armature.Proofs.Notices

/-! The two reports of a command say the same: behind the lines about what has been loaded, the ones
for a person can be told from the value for a program. -/

namespace Armature

namespace Command

namespace PlanOptions

variable {o : PlanOptions} {directory : Directory} {mode : Mode} {limits : Limits}
  {spec : Loaded (Spec Float)} {live : Option (Loaded (Live Float))}

def person (o : PlanOptions) (directory : Directory) : Run := { o with json := false }.run directory

def program (o : PlanOptions) (directory : Directory) : Run := { o with json := true }.run directory

/-- All that the options name is there. -/
structure Loads (o : PlanOptions) (directory : Directory) (mode : Mode) (limits : Limits)
    (spec : Loaded (Spec Float)) (live : Option (Loaded (Live Float))) : Prop where
  mode : mode? o.mode = .ok mode
  limits : chooseLimits o.limits none = .ok limits
  spec : load Spec.ofText directory o.spec = .ok spec
  live : o.existing.mapM (load Live.ofText directory) = .ok live

def liveOf (live : Option (Loaded (Live Float))) : Live Float := live.elim {} Loaded.document

def heading (o : PlanOptions) (mode : Mode) (spec : Loaded (Spec Float))
    (live : Option (Loaded (Live Float))) : List Line :=
  let orphans := if o.deleteOrphans then " (delete orphans)" else ""
  let existing :=
    live.elim "Existing: empty" fun live =>
      let bones := live.document.bones.length
      let cubes := live.document.cubes.length
      s!"Existing: {bones} bone(s), {cubes} cube(s) ({live.shortHash})"
  [.plain s!"Planning: {o.spec}", .plain s!"Mode: {mode.name}{orphans}",
    .plain s!"Source: json ({spec.shortHash})", .plain existing]

lemma loads_or_fails (o : PlanOptions) (directory : Directory) :
    (∃ mode limits spec live, o.Loads directory mode limits spec live) ∨
      (o.runLines directory).ending.status = 1 ∧ (o.report directory).problems ≠ [] := by
  cases hmode : mode? o.mode with
  | error message => simp [runLines, report, hmode, Run.failure, Ending.status]
  | ok mode =>
  cases hlimits : chooseLimits o.limits none with
  | error message => simp [runLines, report, hmode, hlimits, Run.failure, Ending.status]
  | ok limits =>
  cases hspec : load Spec.ofText directory o.spec with
  | error fault => simp [runLines, report, hmode, hlimits, hspec, Run.failure, Ending.status]
  | ok spec =>
  cases hlive : o.existing.mapM (load Live.ofText directory) with
  | error fault =>
    right
    cases hexisting : o.existing with
    | none =>
      rw [hexisting] at hlive
      cases hlive
    | some path =>
      have hfault : load Live.ofText directory path = .error fault := by
        rw [hexisting] at hlive
        exact Attempts.map_error.mp hlive
      simp [runLines, report, loadLive, loadLiveHash, hmode, hlimits, hspec, hexisting, hfault,
        Run.failure, Ending.status]
  | ok live => exact .inl ⟨mode, limits, spec, live, hmode, hlimits, hspec, hlive⟩

section Loaded

variable (h : o.Loads directory mode limits spec live)

include h

lemma Loads.existing : o.existing = none ∧ live = none ∨
    ∃ path loaded, o.existing = some path ∧ load Live.ofText directory path = .ok loaded ∧
      live = some loaded := by
  have hlive := h.live
  cases hexisting : o.existing with
  | none =>
    rw [hexisting] at hlive
    cases hlive
    exact .inl ⟨rfl, rfl⟩
  | some path =>
    rw [hexisting] at hlive
    obtain ⟨loaded, hloaded, rfl⟩ := Attempts.map_ok.mp hlive
    exact .inr ⟨path, loaded, rfl, hloaded, rfl⟩

lemma Loads.runLines_eq : o.runLines directory =
    ⟨.lines (o.heading mode spec live ++
      (resultLines mode o limits spec.document (liveOf live)).1),
      (resultLines mode o limits spec.document (liveOf live)).2⟩ := by
  rcases h.existing with ⟨hexisting, rfl⟩ | ⟨path, loaded, hexisting, hloaded, rfl⟩
  · simp only [runLines, loadLive, h.mode, h.limits, h.spec, hexisting]
    rfl
  · simp only [runLines, loadLive, h.mode, h.limits, h.spec, hexisting, hloaded]
    rfl

lemma Loads.report_eq : o.report directory =
    resultReport mode o limits spec (liveOf live) (live.map Loaded.hash) := by
  rcases h.existing with ⟨hexisting, rfl⟩ | ⟨path, loaded, hexisting, hloaded, rfl⟩
  · simp only [report, loadLiveHash, h.mode, h.limits, h.spec, hexisting]
    rfl
  · simp only [report, loadLiveHash, h.mode, h.limits, h.spec, hexisting, hloaded]
    rfl

end Loaded

def summaryLine (summary : Plan.Summary) : Line :=
  .plain (s!"Summary: bones +{summary.createBone} ~{summary.updateBone} -{summary.deleteBone}, "
    ++ s!"cubes +{summary.createCube} ~{summary.updateCube} -{summary.deleteCube}")

def stepLines (steps : List Step) (summary : Plan.Summary) (revision : Option String) : List Line :=
  if steps.isEmpty then []
  else [.plain "", .plain "Operations:"]
    ++ (steps.zipIdx.map fun entry => entry.1.line (entry.2 + 1))
    ++ [.plain "", summaryLine summary]
    ++ revision.toList.map fun revision => .plain s!"Revision: {revision}"

def doneLines (idle : Bool) (total : ℕ) (hash : String) : List Line :=
  let verdict :=
    if idle then "SUCCESS Live state already matches"
    else s!"SUCCESS {total} operation(s) planned"
  [.plain "", .timed verdict, .plain s!"Plan hash: {hash}"]

/-- The lines about a plan, told from the value for a program. -/
def planned (value : Json) : List Line :=
  let result := value.objectAt "result"
  let summary := summaryOf (result.objectAt "summary")
  let steps := (result.itemsAt "ops").map Step.ofJson
  stepLines steps summary (result.textAt? "revision") ++
    doneLines steps.isEmpty summary.total ((value.textAt? "plan_hash").getD "")

def planResult (mode : Mode) (o : PlanOptions) (plan : Plan Float) (liveHash : Option String) :
    Json :=
  Json.record
    [Json.member "mode" (.text mode.name), Json.member "delete_orphans" (.bool o.deleteOrphans),
      Json.member "summary" plan.summary.toJson, Json.member "ops" plan.opsJson,
      Json.member? "revision" .text plan.revision, Json.member? "existing_hash" .text liveHash]

section Result

variable {value : Json} {plan : Plan Float} {liveHash : Option String}

lemma ops_planResult :
    (planResult mode o plan liveHash).itemsAt "ops" = plan.ops.map Plan.Op.toJson := by
  simp [planResult, Json.itemsAt, Plan.opsJson]

lemma summary_planResult :
    (planResult mode o plan liveHash).objectAt "summary" = plan.summary.toJson := by
  simp [planResult, Json.objectAt]

lemma revision_planResult :
    (planResult mode o plan liveHash).textAt? "revision" = plan.revision :=
  Json.textAt?_of_get? (by simp [planResult])

lemma steps_planResult : ((planResult mode o plan liveHash).itemsAt "ops").map Step.ofJson =
    plan.ops.map Step.ofOp := by
  rw [ops_planResult, List.map_map]
  exact List.map_congr_left fun op _ => Step.ofJson_op op

lemma planned_eq (hresult : value.objectAt "result" = planResult mode o plan liveHash)
    (hhash : value.textAt? "plan_hash" = some plan.digest) :
    planned value =
      planLines plan ++ doneLines plan.isEmpty plan.summary.total plan.digest := by
  have hempty : (plan.ops.map Step.ofOp).isEmpty = plan.isEmpty := List.isEmpty_map
  have hlines : (plan.ops.map Step.ofOp).zipIdx.map (fun entry => entry.1.line (entry.2 + 1)) =
      plan.ops.zipIdx.map fun entry => opLine entry.1 (entry.2 + 1) := by
    rw [List.zipIdx_map, List.map_map]
    exact List.map_congr_left fun entry _ => Step.line_ofOp entry.1 (entry.2 + 1)
  simp only [planned, stepLines, summaryLine, planLines, hresult, hhash, steps_planResult,
    summary_planResult, revision_planResult, summaryOf_toJson, hempty, hlines, Option.getD_some]

end Result

/-- The reports about what has been loaded: the same warnings and plan, or the same fault. -/
structure Reported (o : PlanOptions) (person program : Run) (value : Json) (mode : Mode)
    (limits : Limits) (spec : Loaded (Spec Float)) (live : Option (Loaded (Live Float))) :
    Prop where
  lines : person.output = .lines (o.heading mode spec live ++
    retold "FAILED No plan produced" (planned value) value)
  refused : ∀ fault, Model.ofSpec limits spec.document = .error fault →
    Rejected person program value [] fault
  unplanned : ∀ model fault, Model.ofSpec limits spec.document = .ok model →
    Plan.ofModel mode o.deleteOrphans model (liveOf live) = .error fault →
      Rejected person program value model.warnings fault
  planned : ∀ model plan, Model.ofSpec limits spec.document = .ok model →
    Plan.ofModel mode o.deleteOrphans model (liveOf live) = .ok plan →
      Accepted person program value model.warnings "plan_hash" plan.digest ∧
      (value.objectAt "result").itemsAt "ops" = plan.ops.map Plan.Op.toJson ∧
      ((value.objectAt "result").itemsAt "ops").map Step.ofJson = plan.ops.map Step.ofOp ∧
      summaryOf ((value.objectAt "result").objectAt "summary") = plan.summary

structure Agrees (o : PlanOptions) (directory : Directory) (value : Json) : Prop where
  output : (o.program directory).output = .json value
  status : (o.person directory).ending.status = (o.program directory).ending.status
  success : (o.program directory).ending.status = 0 → ∃ mode limits spec live model plan,
    o.Loads directory mode limits spec live ∧ Model.ofSpec limits spec.document = .ok model ∧
      Plan.ofModel mode o.deleteOrphans model (liveOf live) = .ok plan
  reported : ∀ mode limits spec live, o.Loads directory mode limits spec live →
    o.Reported (o.person directory) (o.program directory) value mode limits spec live

lemma person_eq : o.person directory = o.runLines directory := rfl

lemma program_eq : o.program directory = (o.report directory).run "plan_hash" := rfl

lemma textAt?_plan_hash {r : Report} : (r.toJson "plan_hash").textAt? "plan_hash" = r.hash :=
  textAt?_hash (by decide)

section Outcomes

variable {document : Live Float} {liveHash : Option String} {model : Model Float}
  {plan : Plan Float} {fault : Fault Float}

lemma result_refused (h : Model.ofSpec limits spec.document = .error fault) :
    resultLines mode o limits spec.document document = (rejection fault, .rejected) ∧
      resultReport mode o limits spec document liveHash =
        { problems := [.ofFault fault], sourceHash := some spec.hash } := by
  rw [resultLines, resultReport, h]
  exact ⟨rfl, rfl⟩

variable (h : Model.ofSpec limits spec.document = .ok model)

include h

lemma result_unplanned (hplan : Plan.ofModel mode o.deleteOrphans model document = .error fault) :
    resultLines mode o limits spec.document document =
        (warningLines model.warnings ++ rejection fault, .rejected) ∧
      resultReport mode o limits spec document liveHash =
        { problems := [.ofFault fault], warnings := model.warnings,
          sourceHash := some spec.hash } := by
  rw [resultLines, resultReport, h]
  dsimp only
  rw [hplan]
  exact ⟨rfl, rfl⟩

lemma result_planned (hplan : Plan.ofModel mode o.deleteOrphans model document = .ok plan) :
    resultLines mode o limits spec.document document =
        (warningLines model.warnings ++
          (planLines plan ++ doneLines plan.isEmpty plan.summary.total plan.digest), .success) ∧
      resultReport mode o limits spec document liveHash =
        { warnings := model.warnings, result := some (planResult mode o plan liveHash),
          hash := some plan.digest, sourceHash := some spec.hash } := by
  rw [resultLines, resultReport, h]
  dsimp only
  rw [hplan]
  refine ⟨?_, rfl⟩
  rw [← List.append_assoc]
  rfl

end Outcomes

lemma Loads.reported (h : o.Loads directory mode limits spec live) :
    o.Reported (o.person directory) (o.program directory) ((o.report directory).toJson "plan_hash")
      mode limits spec live := by
  rw [person_eq, program_eq, h.runLines_eq, h.report_eq]
  refine ⟨?_, ?_, ?_, ?_⟩
  · cases hmodel : Model.ofSpec limits spec.document with
    | error fault =>
      obtain ⟨hlines, hreport⟩ := result_refused hmodel
      rw [hlines, hreport, retold_fault rfl]
      rfl
    | ok model =>
    cases hplan : Plan.ofModel mode o.deleteOrphans model (liveOf live) with
    | error fault =>
      obtain ⟨hlines, hreport⟩ := result_unplanned hmodel hplan
      rw [hlines, hreport, retold_fault rfl]
      rfl
    | ok plan =>
      obtain ⟨hlines, hreport⟩ := result_planned hmodel hplan
      rw [hlines, hreport, retold_success rfl, planned_eq (objectAt_result rfl) textAt?_plan_hash]
  · intro fault hfault
    obtain ⟨hlines, hreport⟩ := result_refused hfault
    rw [hlines, hreport]
    exact rejected_of_fault rfl rfl
  · intro model fault hmodel hfault
    obtain ⟨hlines, hreport⟩ := result_unplanned hmodel hfault
    rw [hlines, hreport]
    exact rejected_of_fault rfl rfl
  · intro model plan hmodel hplan
    obtain ⟨hlines, hreport⟩ := result_planned hmodel hplan
    rw [hlines, hreport, objectAt_result rfl, steps_planResult, summary_planResult]
    exact ⟨accepted_of_hash rfl rfl textAt?_plan_hash, ops_planResult, rfl,
      summaryOf_toJson plan.summary⟩

lemma outcome (o : PlanOptions) (directory : Directory) :
    ((o.person directory).ending.status = 1 ∧ (o.program directory).ending.status = 1) ∨
      ((o.person directory).ending.status = 0 ∧ (o.program directory).ending.status = 0) ∧
        ∃ mode limits spec live model plan, o.Loads directory mode limits spec live ∧
          Model.ofSpec limits spec.document = .ok model ∧
            Plan.ofModel mode o.deleteOrphans model (liveOf live) = .ok plan := by
  rcases o.loads_or_fails directory with ⟨mode, limits, spec, live, h⟩ | ⟨hperson, hproblems⟩
  · cases hmodel : Model.ofSpec limits spec.document with
    | error fault =>
      have hrejected := h.reported.refused fault hmodel
      exact .inl ⟨hrejected.person, hrejected.program⟩
    | ok model =>
    cases hplan : Plan.ofModel mode o.deleteOrphans model (liveOf live) with
    | error fault =>
      have hrejected := h.reported.unplanned model fault hmodel hplan
      exact .inl ⟨hrejected.person, hrejected.program⟩
    | ok plan =>
      obtain ⟨haccepted, -⟩ := h.reported.planned model plan hmodel hplan
      exact .inr ⟨⟨haccepted.person, haccepted.program⟩, mode, limits, spec, live, model, plan, h,
        hmodel, hplan⟩
  · exact .inl ⟨hperson, status_of_problems hproblems⟩

lemma agrees (o : PlanOptions) (directory : Directory) :
    o.Agrees directory ((o.report directory).toJson "plan_hash") where
  output := rfl
  status := (status_eq_of_outcome (o.outcome directory)).1
  success := (status_eq_of_outcome (o.outcome directory)).2
  reported _ _ _ _ h := h.reported

end PlanOptions

namespace NormalizeOptions

variable {o : NormalizeOptions} {directory : Directory} {limits : Limits}
  {spec : Loaded (Spec Float)}

def person (o : NormalizeOptions) (directory : Directory) : Run :=
  { o with json := false }.run directory

def program (o : NormalizeOptions) (directory : Directory) : Run :=
  { o with json := true }.run directory

structure Loads (o : NormalizeOptions) (directory : Directory) (limits : Limits)
    (spec : Loaded (Spec Float)) : Prop where
  limits : chooseLimits o.limits o.maxCubes = .ok limits
  spec : load Spec.ofText directory o.spec = .ok spec

def heading (o : NormalizeOptions) (limits : Limits) (spec : Loaded (Spec Float)) : List Line :=
  (.plain s!"Normalizing: {o.spec}" ::
    if o.limits.isNone && o.maxCubes.isNone then []
    else [.plain s!"Limits: {limits.name} (max {limits.maxCubes} cubes, {limits.maxBones} bones)"])
  ++ [.plain s!"Source: json ({spec.shortHash})"]

def doneLines (bones cubes : ℕ) (hash : String) : List Line :=
  [.plain "", .timed s!"SUCCESS {bones} bone(s), {cubes} cube(s)", .plain s!"Model hash: {hash}"]

/-- The lines about a model behind its bones and cubes, told from the value for a program. -/
def normalized (value : Json) : List Line :=
  let result := value.objectAt "result"
  doneLines (result.countAt "bone_count") (result.countAt "cube_count")
    ((value.textAt? "model_hash").getD "")

/-- What is shown of the model itself: its bones and cubes, and with `pretty` all of it. -/
def shown (o : NormalizeOptions) (model : Model Float) : List Line :=
  modelLines model ++ if o.pretty then [.plain "", .plain model.toJson.pretty] else []

structure Reported (o : NormalizeOptions) (person program : Run) (value : Json) (limits : Limits)
    (spec : Loaded (Spec Float)) : Prop where
  refused : ∀ fault, Model.ofSpec limits spec.document = .error fault →
    person.output = .lines (o.heading limits spec ++
      retold "FAILED Spec does not normalize" [] value) ∧
    Rejected person program value [] fault
  normalized : ∀ model, Model.ofSpec limits spec.document = .ok model →
    person.output = .lines (o.heading limits spec ++
      retold "FAILED Spec does not normalize" (o.shown model ++ normalized value) value) ∧
    Accepted person program value model.warnings "model_hash" model.digest

structure Agrees (o : NormalizeOptions) (directory : Directory) (value : Json) : Prop where
  output : (o.program directory).output = .json value
  status : (o.person directory).ending.status = (o.program directory).ending.status
  success : (o.program directory).ending.status = 0 → ∃ limits spec model,
    o.Loads directory limits spec ∧ Model.ofSpec limits spec.document = .ok model
  reported : ∀ limits spec, o.Loads directory limits spec →
    o.Reported (o.person directory) (o.program directory) value limits spec

lemma person_eq : o.person directory = o.runLines directory := rfl

lemma program_eq : o.program directory = (o.report directory).run "model_hash" := rfl

lemma textAt?_model_hash {r : Report} : (r.toJson "model_hash").textAt? "model_hash" = r.hash :=
  textAt?_hash (by decide)

lemma loads_or_fails (o : NormalizeOptions) (directory : Directory) :
    (∃ limits spec, o.Loads directory limits spec) ∨
      (o.runLines directory).ending.status = 1 ∧ (o.report directory).problems ≠ [] := by
  cases hlimits : chooseLimits o.limits o.maxCubes with
  | error message => simp [runLines, report, hlimits, Run.failure, Ending.status]
  | ok limits =>
  cases hspec : load Spec.ofText directory o.spec with
  | error fault => simp [runLines, report, hlimits, hspec, Run.failure, Ending.status]
  | ok spec => exact .inl ⟨limits, spec, hlimits, hspec⟩

section Outcomes

variable {model : Model Float} {fault : Fault Float} (h : o.Loads directory limits spec)

include h

lemma Loads.result_refused (hfault : Model.ofSpec limits spec.document = .error fault) :
    o.runLines directory = ⟨.lines (o.heading limits spec ++
        (faultLines fault ++ [.plain "", .timed "FAILED Spec does not normalize"])), .rejected⟩ ∧
      o.report directory = { problems := [.ofFault fault], sourceHash := some spec.hash } := by
  constructor
  · simp only [runLines, h.limits, h.spec, hfault, heading, List.append_assoc]
  · simp only [report, h.limits, h.spec, hfault]

def modelResult (limits : Limits) (model : Model Float) : Json :=
  .object
    [("limits", .text limits.name), ("max_cubes", .ofNat limits.maxCubes),
      ("bone_count", .ofNat model.bones.size), ("cube_count", .ofNat model.cubes.size),
      ("model", model.toJson.sorted)]

lemma Loads.result_normalized (hmodel : Model.ofSpec limits spec.document = .ok model) :
    o.runLines directory = ⟨.lines (o.heading limits spec ++ (warningLines model.warnings ++
        (o.shown model ++ doneLines model.bones.size model.cubes.size model.digest))), .success⟩ ∧
      o.report directory =
        { warnings := model.warnings, result := some (modelResult limits model),
          hash := some model.digest, sourceHash := some spec.hash } := by
  constructor
  · simp only [runLines, h.limits, h.spec, hmodel, heading, shown, doneLines, List.append_assoc]
  · simp only [report, h.limits, h.spec, hmodel]
    rfl

end Outcomes

lemma normalized_eq {value : Json} {model : Model Float}
    (hresult : value.objectAt "result" = modelResult limits model)
    (hhash : value.textAt? "model_hash" = some model.digest) :
    normalized value = doneLines model.bones.size model.cubes.size model.digest := by
  rw [normalized, hresult, hhash]
  rfl

lemma Loads.reported (h : o.Loads directory limits spec) :
    o.Reported (o.person directory) (o.program directory) ((o.report directory).toJson "model_hash")
      limits spec := by
  rw [person_eq, program_eq]
  constructor
  · intro fault hfault
    obtain ⟨hlines, hreport⟩ := h.result_refused hfault
    rw [hlines, hreport, retold_fault rfl]
    exact ⟨rfl, rejected_of_fault rfl rfl⟩
  · intro model hmodel
    obtain ⟨hlines, hreport⟩ := h.result_normalized hmodel
    rw [hlines, hreport, retold_success rfl, normalized_eq (objectAt_result rfl) textAt?_model_hash]
    exact ⟨rfl, accepted_of_hash rfl rfl textAt?_model_hash⟩

lemma outcome (o : NormalizeOptions) (directory : Directory) :
    ((o.person directory).ending.status = 1 ∧ (o.program directory).ending.status = 1) ∨
      ((o.person directory).ending.status = 0 ∧ (o.program directory).ending.status = 0) ∧
        ∃ limits spec model, o.Loads directory limits spec ∧
          Model.ofSpec limits spec.document = .ok model := by
  rcases o.loads_or_fails directory with ⟨limits, spec, h⟩ | ⟨hperson, hproblems⟩
  · cases hmodel : Model.ofSpec limits spec.document with
    | error fault =>
      obtain ⟨-, hrejected⟩ := h.reported.refused fault hmodel
      exact .inl ⟨hrejected.person, hrejected.program⟩
    | ok model =>
      obtain ⟨-, haccepted⟩ := h.reported.normalized model hmodel
      exact .inr ⟨⟨haccepted.person, haccepted.program⟩, limits, spec, model, h, hmodel⟩
  · exact .inl ⟨hperson, status_of_problems hproblems⟩

lemma agrees (o : NormalizeOptions) (directory : Directory) :
    o.Agrees directory ((o.report directory).toJson "model_hash") where
  output := rfl
  status := (status_eq_of_outcome (o.outcome directory)).1
  success := (status_eq_of_outcome (o.outcome directory)).2
  reported _ _ h := h.reported

end NormalizeOptions

/-- Whatever a command finds in the directory, both of its reports tell the same. -/
theorem run_agrees (directory : Directory) :
    (∀ o : PlanOptions, ∃ value, o.Agrees directory value) ∧
      ∀ o : NormalizeOptions, ∃ value, o.Agrees directory value :=
  ⟨fun o => ⟨_, o.agrees directory⟩, fun o => ⟨_, o.agrees directory⟩⟩

def rigText : String := "\x7b\"bones\":[\x7b\"id\":\"arm\"\x7d]\x7d"

def rigFiles : Directory := Directory.ofFiles [("rig.json", rigText)]

def rigOptions : PlanOptions := { spec := "rig.json" }

lemma extension_rig : extension? "rig.json" = some "json" := by
  have hparts : "rig.json".splitOn "/" = ["rig.json"] := by
    simp +decide [String.splitOn, String.splitOnAux]
  have hstem : "rig.json".splitOn "." = ["rig", "json"] := by
    rw [String.splitOn, if_neg (by decide)]
    iterate 3 rw [String.splitOnAux, if_neg (by decide), if_neg (by decide)]
    rw [String.splitOnAux, if_neg (by decide), if_pos (by decide), if_pos (by decide)]
    iterate 4 rw [String.splitOnAux, if_neg (by decide), if_neg (by decide)]
    rw [String.splitOnAux, if_pos (by decide)]
    decide
  have hname : fileName? "rig.json" = some "rig.json" := by
    rw [fileName?, hparts]
    decide
  rw [extension?, hname]
  simp [hstem]

lemma load_rig {document : Spec Float} (h : Spec.ofText rigText = .ok document) :
    load Spec.ofText rigFiles "rig.json" = .ok ⟨document, Blake3.hexOfText rigText⟩ := by
  have hjson : (extension? "rig.json").map Text.lowercase = some "json" := by
    rw [extension_rig]
    decide +kernel
  have hfile : rigFiles "rig.json" = .ok rigText := rfl
  simp only [load, hjson, hfile, h]
  rfl

def stepsOf (document : Spec Float) : Except (Fault Float) (List Step) := do
  let model ← Model.ofSpec .standard document
  let plan ← Plan.ofModel .merge false model {}
  return plan.ops.map Step.ofOp

theorem run_agrees_rig : ∃ value, rigOptions.Agrees rigFiles value ∧
    (rigOptions.person rigFiles).ending.status = 0 ∧
      ((value.objectAt "result").itemsAt "ops").map Step.ofJson =
        [⟨"create_bone", "root", []⟩, ⟨"create_bone", "arm", []⟩] := by
  obtain ⟨value, hagrees⟩ := (run_agrees rigFiles).1 rigOptions
  obtain ⟨document, hdocument⟩ : ∃ document, Spec.ofText rigText = .ok document :=
    Attempts.exists_ok (by decide +kernel)
  have hsteps : (stepsOf document).toOption =
      some [⟨"create_bone", "root", []⟩, ⟨"create_bone", "arm", []⟩] := by
    apply Attempts.holds_of_all (p := fun document => (stepsOf document).toOption =
      some [⟨"create_bone", "root", []⟩, ⟨"create_bone", "arm", []⟩]) hdocument
    decide +kernel
  obtain ⟨model, hmodel, h⟩ := Attempts.bind_ok.mp (Attempts.toOption_eq_some.mp hsteps)
  obtain ⟨plan, hplan, hops⟩ := Attempts.bind_ok.mp h
  have hloads : rigOptions.Loads rigFiles .merge .standard
      ⟨document, Blake3.hexOfText rigText⟩ none :=
    ⟨rfl, rfl, load_rig hdocument, rfl⟩
  obtain ⟨haccepted, -, hsteps, -⟩ :=
    (hagrees.reported _ _ _ _ hloads).planned model plan hmodel hplan
  exact ⟨value, hagrees, haccepted.person, hsteps.trans (Except.ok.inj hops)⟩

end Command

end Armature
