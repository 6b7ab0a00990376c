import EvidenceGrid.Settings
import EvidenceGrid.Yaml.Node.Grammar
import EvidenceGrid.Yaml.Schema
import EvidenceGrid.Yaml.Token.Lexer

/-!
Settings and lattices as YAML documents. Settings that a document does not
mention keep their standard values, and names it mentions that mean nothing here
are passed over. Settings that were read have passed their checks.
-/

set_option autoImplicit false

namespace EvidenceGrid

open Yaml (Document Node field? fieldOr required?)
open Yaml.Schema (float? word? flag? optionalWord?)

/-- The document of some text and the fields of its root. A text without any
content is a document whose root is left out. -/
def Yaml.Document.ofText? (text : String) : Option (Document × List (String × Node)) := do
  let tokens ← Yaml.Token.ofText? text.toList
  let document := (← Document.ofTokens? tokens).getD ⟨.empty, []⟩
  return (document, ← document.fields? document.root)

namespace SensorModel

def ofFields? (fields : List (String × Node)) : Option SensorModel := do
  let hit ← fieldOr fields "l_occupied" float? standard.hit
  let miss ← fieldOr fields "l_free" float? standard.miss
  let low ← fieldOr fields "l_min" float? standard.low
  let high ← fieldOr fields "l_max" float? standard.high
  let decay ← fieldOr fields "decay_rate" float? standard.decay
  let occupiedFrom ← fieldOr fields "occupied_threshold" float? standard.occupiedFrom
  let freeUpTo ← fieldOr fields "free_threshold" float? standard.freeUpTo
  return { hit, miss, low, high, decay, occupiedFrom, freeUpTo }

end SensorModel

namespace Settings

def ofDocument? (text : String) : Option Settings := do
  let (document, fields) ← Document.ofText? text
  let model (node : Node) : Option SensorModel := do
    SensorModel.ofFields? (← document.fields? node)
  let mapLength ← fieldOr fields "map_length" float? standard.mapLength
  let mapResolution ← fieldOr fields "map_resolution" float? standard.mapResolution
  let mapWidth ← fieldOr fields "map_width" optionalWord? standard.mapWidth
  let mapHeight ← fieldOr fields "map_height" optionalWord? standard.mapHeight
  let cropHeights ← fieldOr fields "use_height_filter" flag? standard.cropHeights
  let minHeight ← fieldOr fields "min_height" float? standard.minHeight
  let maxHeight ← fieldOr fields "max_height" float? standard.maxHeight
  let matchObstacles ←
    fieldOr fields "filter_obstacle_pointcloud_by_raw_pointcloud" flag? standard.matchObstacles
  let matchTolerance ← fieldOr fields "common_point_tolerance" float? standard.matchTolerance
  let singleFrame ← fieldOr fields "enable_single_frame_mode" flag? standard.singleFrame
  let model ← fieldOr fields "fusion" model standard.model
  return { mapLength, mapResolution, mapWidth, mapHeight, cropHeights, minHeight, maxHeight
           matchObstacles, matchTolerance, singleFrame, model }

def ofText : String → Except Fault Settings := ofTextBy ofDocument?

/-- The settings in a file with some contents. A file that is not there and one
whose contents are not text cannot be read. -/
def ofFile (contents : Option ByteArray) : Except Fault Settings :=
  match contents.bind String.fromUTF8? with
  | none => .error .storage
  | some text => ofText text

end Settings

namespace Lattice

def corner? (document : Document) : Node → Option Point
  | .sequence [x, y] => do
    return ⟨← float? (document.resolve x), ← float? (document.resolve y)⟩
  | _ => none

def ofDocument? (text : String) : Option Lattice := do
  let (document, fields) ← Document.ofText? text
  let width ← required? fields "width" word?
  let height ← required? fields "height" word?
  let resolution ← required? fields "resolution" float?
  let origin ← required? fields "origin" (corner? document)
  return { width, height, resolution, origin }

def ofText (text : String) : Except Fault Lattice :=
  match ofDocument? text with
  | none => .error .document
  | some lattice => .ok lattice

end Lattice

end EvidenceGrid
