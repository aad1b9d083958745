import Armature.Digest.Blake3
import Armature.Model.Basic
import Armature.Spec.Basic
import Armature.Text.Slug
/-!
Ids of entries. An entry without one gets an id from its place: the kind, the parent and the label,
joined by colons.
-/

namespace Armature.Identity

def place (kind : Kind) (parent : Option String) (label : String) : String :=
  kind.name ++ ":" ++ parent.getD "" ++ ":" ++ label

def hashLength : Nat := 16

def hashId (place : String) : String :=
  String.ofList ((Blake3.hexOfText place).toList.take hashLength)

/-- The id that a slug of a place gives; a hash where the slug is empty. -/
def slugId (place : String) : String :=
  let slug := Text.slug place
  if slug.isEmpty then hashId place else slug

/-- An id that is not blank, without blanks at its ends. -/
def given? (id : Option String) : Option String :=
  (id.map Text.trim).filter fun id => !id.isEmpty

def resolve? (policy : IdPolicy) (kind : Kind) (id parent : Option String) (label : String) :
    Option String :=
  match given? id with
  | some id => some id
  | none =>
    match policy with
    | .explicit => none
    | .stablePath => some (slugId (place kind parent label))
    | .hash => some (hashId (place kind parent label))

end Armature.Identity
