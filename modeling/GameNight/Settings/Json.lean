import GameNight.Json.Field
import GameNight.Json.Reader
import GameNight.Settings

/-!
# GameNight.Settings.Json

Settings as JSON.  A setting that is not given has its default, and settings
that cannot be used are refused after they have been read.
-/

namespace GameNight.Settings

/-- The names of the settings, in the order of their members. -/
def memberNames : List String := ["default_sort", "default_order", "float_tolerance"]

/-- The JSON of some settings. -/
def toJson (s : Settings) : Json :=
  .record (memberNames.zip
    [.ofText s.arrangement.column.canonicalName, .ofText s.arrangement.direction.name,
      .ofBinary64 s.tolerance])

/-- Reads a setting that may be left out. -/
def given {α : Type} (read? : Json → Option α) (default : α) : Option Json → Option α
  | none => some default
  | some x => read? x

/-- The settings some JSON stands for. -/
def ofJson? (x : Json) : Option Settings := do
  let [column, direction, tolerance] ← x.fields? memberNames | none
  let defaults : Settings := {}
  return {
    arrangement.column :=
      ← given (fun x => x.choice?.bind Column.ofCanonicalName?) defaults.arrangement.column column
    arrangement.direction :=
      ← given (fun x => x.choice?.bind Direction.ofName?) defaults.arrangement.direction direction
    tolerance := ← given Json.binary64? defaults.tolerance tolerance }

/-- Writes settings as JSON text. -/
def render (s : Settings) : String := String.ofList s.toJson.render

/-- Reads settings from JSON text. -/
def parse (text : String) : Except Fault Settings :=
  match (Json.parse? text.toList).bind ofJson? with
  | some s => s.validate
  | none => .error .unreadableJson

end GameNight.Settings
