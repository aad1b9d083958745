import Armature.Decimal.Layout
import Armature.Fault
/-!
The wording of faults and warnings.
-/

namespace Armature

def Vec3.literal (a : Vec3 Float) : String :=
  "[" ++ String.intercalate ", " (a.toList.map Decimal.Layout.literal.text) ++ "]"

namespace Fault

def message : Fault Float → String
  | badGrid grid =>
    let grid := Decimal.Layout.message.text grid
    s!"snapGrid must be a positive number, got {grid}"
  | badBounds bounds =>
    s!"bounds.min {bounds.min.literal} must not exceed bounds.max {bounds.max.literal}"
  | unnamed kind _ => s!"{kind.name} requires an id or a name"
  | missingId kind _ label => s!"{kind.name} '{label}' has no id and idPolicy is explicit"
  | duplicateId kind _ id => s!"duplicate {kind.name} id '{id}'"
  | duplicateAnchor _ id => s!"duplicate anchor id '{id}'"
  | duplicateCopy _ id => s!"instance cube id '{id}' already exists"
  | duplicateName kind name first second =>
    s!"duplicate {kind.name} name '{name}' ({kind.collection} '{first}' and '{second}')"
  | missingBox _ id => s!"cube '{id}' needs from/to or center/size"
  | unattached _ id => s!"cube '{id}' has no parent bone"
  | unknownParent .bone id parent => s!"bone '{id}' references unknown parent '{parent}'"
  | unknownParent .cube id parent => s!"cube '{id}' references unknown bone '{parent}'"
  | parentCycle chain => "bone hierarchy cycle: " ++ String.intercalate " -> " chain
  | anchorsRequired => "anchors required for id references"
  | unknownAnchor id => s!"unknown anchor '{id}'"
  | unknownTarget _ anchor kind target =>
    s!"anchor '{anchor}' targets unknown {kind.name} '{target}'"
  | unknownEntity kind id => s!"unknown {kind.name} '{id}'"
  | anchorCycle underWay node =>
    s!"anchor cycle detected at {node.kindName} '{node.id}': "
      ++ String.intercalate " -> " ((underWay ++ [node]).map Node.text)
  | zeroCount _ => "instance count must be at least 1"
  | unknownSource _ source => s!"instance source cube '{source}' not found"
  | tooManyCubes count limit => s!"model has {count} cubes, limit is {limit}"
  | tooManyBones count limits =>
    s!"model has {count} bones, limit is {limits.maxBones} (profile '{limits.name}')"
  | alreadyExists kind id => s!"{kind.name} '{id}' already exists"
  | notFound kind id => s!"{kind.name} '{id}' not found in existing state"

end Fault

namespace Warning

def code : Warning → String
  | unknownDirective .. => "W001"
  | templateOverridden .. => "W002"

def path : Warning → String
  | unknownDirective index _ => s!"instances[{index}]"
  | templateOverridden kind index _ => s!"{kind.collection}[{index}]"

def message : Warning → String
  | unknownDirective _ type => s!"unknown instance type '{type}' skipped"
  | templateOverridden kind _ id => s!"{kind.name} '{id}' replaces the template entry with the same id"

def display (w : Warning) : String := s!"{w.code}: {w.message} (at {w.path})"

end Warning

def Fault.display (f : Fault Float) : String :=
  match f.path with
  | some path => s!"{f.code}: {f.message} (at {path})"
  | none => s!"{f.code}: {f.message}"

end Armature
