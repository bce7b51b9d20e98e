import ClientGen.Ordered
import ClientGen.Schema.Basic

/-!
Merging object shapes. Of two shapes merged, the later one decides where both speak: its properties
replace those of the same name in their place, its explicit word on additional properties wins, and
the required names of both are kept.
-/
namespace ClientGen

/-- The later word on additional properties, unless it is none. -/
def Additional.override (earlier later : Additional σ) : Additional σ :=
  match later with
  | .unspecified => earlier
  | _ => later

namespace ObjectShape

/-- The shape that says nothing. -/
def empty : ObjectShape σ := ⟨[], [], .unspecified⟩

def merge (earlier later : ObjectShape σ) : ObjectShape σ where
  properties := later.properties.foldl (fun kept entry => Ordered.insert entry.1 entry.2 kept)
    earlier.properties
  required := NameSet.union earlier.required later.required
  additional := earlier.additional.override later.additional

/-- Merge the shapes of a list into the ones merged before, if any; a member without a shape
adds nothing. -/
def mergeInto (merged : Option (ObjectShape σ)) :
    List (Option (ObjectShape σ)) → Option (ObjectShape σ)
  | [] => merged
  | none :: rest => mergeInto merged rest
  | some shape :: rest => mergeInto (some ((merged.getD empty).merge shape)) rest

/-- All shapes of a list as one, or none if there is none. -/
def mergeAll (shapes : List (Option (ObjectShape σ))) : Option (ObjectShape σ) :=
  mergeInto none shapes

def missingFrom (index : Nat) : List (Option (ObjectShape σ)) → List Nat
  | [] => []
  | none :: rest => index :: missingFrom (index + 1) rest
  | some _ :: rest => missingFrom (index + 1) rest

end ObjectShape

end ClientGen
