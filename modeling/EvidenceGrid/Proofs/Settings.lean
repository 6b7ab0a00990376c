import EvidenceGrid.Settings
import EvidenceGrid.Proofs.Lattice.Snap
import EvidenceGrid.Proofs.SensorModel

/-!
What settings that pass their checks give: a usable lattice at the world's origin
and a usable model. The checks of the filters do not matter for the map.
-/

set_option autoImplicit false

namespace EvidenceGrid

theorem Fault.first_passed {α β : Type} {first : Except Fault α} {next : α → Except Fault β}
    {result : β} (ran : first >>= next = .ok result) :
    ∃ value, first = .ok value ∧ next value = .ok result := by
  cases first with
  | error fault => cases ran
  | ok value => exact ⟨value, rfl, ran⟩

namespace Settings

theorem lattice_spec {settings : Settings} {lattice : Lattice}
    (made : settings.lattice = .ok lattice) :
    lattice.Usable ∧ lattice.resolution = settings.mapResolution ∧ lattice.origin = .zero := by
  rw [Settings.lattice] at made
  split_ifs at made
  obtain ⟨⟨⟩, passed, rest⟩ := Fault.first_passed made
  cases rest
  exact ⟨(Lattice.validate_ok_iff _).mp passed, rfl, rfl⟩

theorem model_of_validate {settings : Settings} (passed : settings.validate = .ok ()) :
    settings.model.Usable := by
  obtain ⟨-, -, rest⟩ := Fault.first_passed passed
  obtain ⟨⟨⟩, checked, -⟩ := Fault.first_passed rest
  exact (SensorModel.validate_ok_iff _).mp checked

end Settings

end EvidenceGrid
