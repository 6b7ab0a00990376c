import EvidenceGrid.Plane

/-!
Where the platform and its sensor are. All poses of one frame are given in the
map's own coordinates; nothing here resolves them.
-/

set_option autoImplicit false

namespace EvidenceGrid

structure Pose where
  position : Point3
  yaw : Float32
deriving DecidableEq, Inhabited

namespace Pose

def origin : Pose := ⟨⟨0, 0, 0⟩, 0⟩

def onGround (x y : Float32) : Pose := ⟨⟨x, y, 0⟩, 0⟩

def ground (pose : Pose) : Point := pose.position.ground

def isFinite (pose : Pose) : Bool := pose.position.isFinite && pose.yaw.isFinite

end Pose

structure Placement where
  /-- The platform itself, whose height the clouds are cropped around. -/
  platform : Pose
  sensor : Pose
  /-- What the window is centered on. -/
  center : Pose
deriving DecidableEq

namespace Placement

def together (pose : Pose) : Placement := ⟨pose, pose, pose⟩

def isFinite (placement : Placement) : Bool :=
  placement.platform.isFinite && placement.sensor.isFinite && placement.center.isFinite

end Placement

end EvidenceGrid
