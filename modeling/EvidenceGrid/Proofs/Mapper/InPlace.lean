import EvidenceGrid.Proofs.BeliefMap.InPlace
import EvidenceGrid.Proofs.Mapper.Run

/-!
Calls of a mapper, write by write. The height of a frame is written before the map is asked to
take the frame in, and nothing takes it back when the map refuses. All else that a call writes
comes after the last check. What is left in the end is what the operations on whole mappers say.
-/

set_option autoImplicit false

namespace EvidenceGrid

/-- A mapper while a call changes it. Nothing writes the settings and the model. -/
structure Workspace where
  settings : Settings
  model : SensorModel
  map : Store Belief
  platformHeight : Float32

def Workspace.snapshot (space : Workspace) : Snapshot :=
  { lattice := space.map.lattice
    platformHeight := space.platformHeight
    values := space.map.cells.map Belief.cost }

abbrev Work (β : Type) := EStateM Stop Workspace β

namespace Work

def onMap {β : Type} (steps : Steps Belief β) : Work β := fun space =>
  match steps.run space.map with
  | .ok value map => .ok value { space with map }
  | .error stop map => .error stop { space with map }

def integrate (frame : Frame) : Work Publication := do
  modify fun space => { space with platformHeight := frame.platform.position.z }
  let space ← get
  if space.settings.singleFrame then return Mapper.alone frame
  else
    let fusion ← onMap (Steps.fuse space.model frame.grid)
    let fused ← get
    return { snapshot := fused.snapshot
             tally := ⟨frame.obstaclePoints, frame.rawPoints, frame.rays, some fusion⟩ }

def process (sweep : Sweep) : Work Publication := do
  let space ← get
  let framing : Framing := ⟨space.settings, space.map.lattice⟩
  match framing.frame sweep with
  | .error fault => throw (.refused fault)
  | .ok frame => integrate frame

def of : Mapper.Call → Work (Option Publication)
  | .process sweep => do
    return some (← process sweep)
  | .integrate frame => do
    return some (← integrate frame)
  | .reset => do
    let _ ← onMap (Steps.of (.fill .unknown))
    return none

section OnMap

variable {β : Type} {steps : Steps Belief β} {space : Workspace} {map : Store Belief}

theorem on_map_ok {value : β} (ran : steps.run space.map = .ok value map) :
    (onMap steps).run space = .ok value { space with map } := by
  rw [EStateM.run, onMap, ran]

theorem on_map_error {stop : Stop} (ended : steps.run space.map = .error stop map) :
    (onMap steps).run space = .error stop { space with map } := by
  rw [EStateM.run, onMap, ended]

end OnMap

end Work

namespace Mapper

def workspace (mapper : Mapper) : Workspace :=
  ⟨mapper.settings, mapper.beliefs.model, mapper.beliefs.grid.store, mapper.platformHeight⟩

/-- The end of a call's steps, by what the call does to the whole mapper. -/
def ending {β : Type} : Mapper × Except Fault β → EStateM.Result Stop Workspace β
  | (after, .ok answer) => .ok answer after.workspace
  | (after, .error fault) => .error (.refused fault) after.workspace

section Run

variable {mapper : Mapper}

theorem integrate_run (usable : mapper.beliefs.model.Usable) (frame : Frame) :
    (Work.integrate frame).run mapper.workspace = ending (mapper.integrate frame) := by
  let raised : Mapper := { mapper with platformHeight := frame.platform.position.z }
  have written : (modify fun space : Workspace =>
      { space with platformHeight := frame.platform.position.z } : Work Unit).run
        mapper.workspace = .ok () raised.workspace := rfl
  have fused : (Steps.fuse raised.workspace.model frame.grid).run raised.workspace.map =
      mapper.beliefs.ending (mapper.beliefs.update frame.grid) :=
    BeliefMap.fuse_run usable frame.grid
  rw [Work.integrate, Steps.bind_of_ok written, Steps.bind_of_ok (Steps.get_run _)]
  cases single : mapper.settings.singleFrame with
  | true =>
      have alone : raised.workspace.settings.singleFrame = true := single
      rw [if_pos alone, integrate_single single]
      rfl
  | false =>
      have together : ¬raised.workspace.settings.singleFrame = true := by
        change ¬mapper.settings.singleFrame = true
        rw [single]
        exact Bool.false_ne_true
      rw [if_neg together]
      cases updated : mapper.beliefs.update frame.grid with
      | error fault =>
          rw [updated] at fused
          rw [Steps.bind_of_error (Work.on_map_error fused), integrate_refused single updated]
          rfl
      | ok result =>
          rw [updated] at fused
          have model := (BeliefMap.fused_of_update usable updated).model_eq
          rw [Steps.bind_of_ok (Work.on_map_ok fused), Steps.bind_of_ok (Steps.get_run _),
            integrate]
          simp only [single, updated, Bool.false_eq_true, if_false, ending, workspace, model]
          rfl

theorem process_run (usable : mapper.beliefs.model.Usable) (sweep : Sweep) :
    (Work.process sweep).run mapper.workspace = ending (mapper.process sweep) := by
  rw [Work.process, Steps.bind_of_ok (Steps.get_run _), process]
  have made : mapper.frame sweep =
      Framing.frame ⟨mapper.workspace.settings, mapper.workspace.map.lattice⟩ sweep := rfl
  simp only
  rw [← made]
  cases mapper.frame sweep with
  | error fault => rfl
  | ok frame => exact integrate_run usable frame

theorem some_run {β : Type} {work : Work β} {space : Workspace} {ended : Mapper × Except Fault β}
    (ran : work.run space = ending ended) :
    (do return some (← work) : Work (Option β)).run space =
      ending (ended.1, ended.2.map some) := by
  obtain ⟨after, result⟩ := ended
  cases result with
  | error fault => exact Steps.bind_of_error ran
  | ok answer => exact Steps.bind_of_ok ran

/-- A call in place ends as the call of the whole mapper does, with the same answer or fault and
with the same mapper left. -/
theorem call_run (usable : mapper.beliefs.model.Usable) (call : Call) :
    (Work.of call).run mapper.workspace = ending (mapper.call call) := by
  cases call with
  | process sweep => exact some_run (process_run usable sweep)
  | integrate frame => exact some_run (integrate_run usable frame)
  | reset => rfl

end Run

end Mapper

end EvidenceGrid
