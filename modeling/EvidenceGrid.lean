import EvidenceGrid.Cycle
import EvidenceGrid.Main
import EvidenceGrid.Proofs.BeliefMap.Saturation
import EvidenceGrid.Proofs.Cycle.Exact
import EvidenceGrid.Proofs.Frame.Matching
import EvidenceGrid.Proofs.Frame.Reordering
import EvidenceGrid.Proofs.Grid.Drift
import EvidenceGrid.Proofs.Grid.Overlap
import EvidenceGrid.Proofs.Grid.Region
import EvidenceGrid.Proofs.Lattice.Center
import EvidenceGrid.Proofs.Lattice.Even
import EvidenceGrid.Proofs.Mapper.Evidence
import EvidenceGrid.Proofs.Mapper.Published
import EvidenceGrid.Proofs.Mapper.Refusal
import EvidenceGrid.Proofs.Mapper.Safety
import EvidenceGrid.Proofs.Mapper.SingleFrame
import EvidenceGrid.Proofs.Mapper.Stationary
import EvidenceGrid.Proofs.Mapper.Window
import EvidenceGrid.Proofs.Picture
import EvidenceGrid.Proofs.Ray.Count
import EvidenceGrid.Proofs.Ray.Ends
import EvidenceGrid.Proofs.Segment.Ideal
import EvidenceGrid.Proofs.SensorModel.Fading
