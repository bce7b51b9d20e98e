import ClientGen.Operation.Payload
import ClientGen.Proofs.Module.Names

/-!
Changing the paths of operations. Every step from a payload to the operations that a module declares
looks at a path only to carry it along, so it gives the same result on changed paths, changed.
-/
namespace ClientGen
open Json

/-- An operation with its path changed. -/
def Operation.reroute (edit : String → String) (op : Operation) : Operation :=
  { op with path := edit op.path }

def CompiledOperation.reroute (edit : String → String) (op : CompiledOperation) :
    CompiledOperation :=
  { op with path := edit op.path }

namespace Operation
variable (edit : String → String)

def rerouteElement : Value → Value
  | .object fields =>
    match fields.lookup "path" with
    | some (.string path) => .object (Ordered.insert "path" (.string (edit path)) fields)
    | _ => .object fields
  | other => other

private theorem ofElement_reroute (accepted : ofElement element = .ok op) :
    ofElement (rerouteElement edit element) = .ok (op.reroute edit) := by
  cases element with
  | object fields =>
    obtain ⟨name, path, verb, input, output⟩ := (ofFields_eq_ok fields op).mp accepted
    have others : ∀ field, field ≠ "path" →
        (Ordered.insert "path" (.string (edit op.path)) fields).lookup field =
          fields.lookup field :=
      fun field different => Ordered.lookup_insert_of_ne _ _ different
    have changed := Ordered.lookup_insert_self "path" (Value.string (edit op.path)) fields
    have rerouted : rerouteElement edit (.object fields) =
        .object (Ordered.insert "path" (.string (edit op.path)) fields) := by
      rw [rerouteElement, lookup_of_stringField path]
    rw [rerouted]
    refine (ofFields_eq_ok _ _).mpr ⟨?_, ?_, ?_, ?_, ?_⟩
    · rw [nameField, stringField, others "name" (by decide)]
      exact name
    · rw [stringField, changed]
      rfl
    · rw [verbField, stringField, others "verb" (by decide)]
      exact verb
    · rw [schemaField, others "input" (by decide)]
      exact input
    · rw [schemaField, others "output" (by decide)]
      exact output
  | _ => cases accepted

/-- A payload with the paths of its operations changed. -/
def reroutePayload : Value → Value
  | .array elements => .array (elements.map (rerouteElement edit))
  | other => other

private theorem ofElements_reroute (index : Nat) (accepted : ofElements index elements = .ok ops) :
    ofElements index (elements.map (rerouteElement edit)) = .ok (ops.map (reroute edit)) := by
  induction elements generalizing index ops with
  | nil =>
    cases accepted
    rfl
  | cons element rest ih =>
    rw [ofElements] at accepted
    cases first : ofElement element with
    | error fault =>
      rw [first] at accepted
      cases accepted
    | ok op =>
      cases others : ofElements (index + 1) rest with
      | error fault =>
        rw [first, others] at accepted
        cases accepted
      | ok found =>
        rw [first, others] at accepted
        cases accepted
        rw [List.map_cons, ofElements, ofElement_reroute edit first, ih (index + 1) others]
        rfl

/-- A payload stays acceptable when its paths change. -/
theorem ofPayload_reroute (accepted : ofPayload payload = .ok ops) :
    ofPayload (reroutePayload edit payload) = .ok (ops.map (reroute edit)) := by
  cases payload with
  | array elements => exact ofElements_reroute edit 0 accepted
  | _ => cases accepted

private theorem compileAll_reroute (ops : List Operation) :
    (compileAll (ops.map (reroute edit))).result =
      (compileAll ops).result.map (CompiledOperation.reroute edit) := by
  induction ops with
  | nil => rfl
  | cons first rest ih => exact congrArg (_ :: ·) ih

end Operation

namespace Module
variable (edit : String → String)

private theorem keepBackward_reroute (taken : TakenNames) (ops : List CompiledOperation) :
    (keepBackward taken (ops.map (CompiledOperation.reroute edit))).result =
      (keepBackward taken ops).result.map (CompiledOperation.reroute edit) := by
  induction ops generalizing taken with
  | nil => rfl
  | cons op rest ih =>
    have same : keep taken (op.reroute edit) = keep taken op := rfl
    rw [List.map_cons, keepBackward_cons, keepBackward_cons, same]
    split
    · rw [ih, List.map_cons]
    · exact ih _

theorem kept_reroute (ops : List Operation) :
    kept (ops.map (Operation.reroute edit)) = (kept ops).map (CompiledOperation.reroute edit) := by
  rw [kept, kept, declared, declared, Traced.map_result, Traced.map_result,
    Operation.compileAll_reroute, ← List.map_reverse, keepBackward_reroute, List.map_reverse]

end Module

end ClientGen
