import ConfigSchema.Element

/-!
# Sample schemas

Three schemas that together show every kind of element.

## Main definitions

- `Samples.pair` — a required number and one with a default
- `Samples.pet` — all types of scalars, a list and a section
- `Samples.fleet` — a list of sections, a category with shared defaults, a code block and a derived
  entry
-/

namespace ConfigSchema.Samples

/-- A required number and one with a default. -/
def pair : Element :=
  .keyed {} [
    .scalar { name? := some "a", required := true } .int,
    .scalar { name? := some "b", default? := some (.int 5) } .int] false

/-- A pet and who looks after it. -/
def pet : Element :=
  let owner : Info := { name? := some "owner", help? := some "Who looks after the pet." }
  .keyed {} [
    .scalar
      { name? := some "pet"
        required := true
        choices := [.str "cat", .str "dog", .str "squirrel"]
        help? := some "The kind of pet." } .str,
    .scalar
      { name? := some "legs"
        default? := some (.int 4)
        min? := some 0
        max? := some 8
        help? := some "How many legs the pet has." } .int,
    .scalar { name? := some "weight", help? := some "Weight in kilograms." } .float,
    .scalar { name? := some "indoor", default? := some (.bool true) } .bool,
    .list { name? := some "names", help? := some "Names the pet answers to." }
      (.scalar { help? := some "Such as Fido." } .str) none none,
    .keyed owner [
      .scalar { name? := some "name" } .str,
      .scalar { name? := some "email" } (.pattern (.ofString "[a-z0-9.]+@[a-z0-9.]+")),
      .scalar { name? := some "home" } .path] false] false

/-- A car. -/
def car : Element :=
  .keyed {} [
    .scalar
      { name? := some "color"
        required := true
        choices := [.str "red", .str "blue", .str "green"] } .str,
    .scalar { name? := some "make" } .str,
    .scalar { name? := some "year", min? := some 1886 } .int,
    .category { name? := some "accessories", help? := some "Extra parts, by slot." }
      (.scalar {} .str) 0 none] false

/-- The number of cars. -/
def carCount (siblings : OrderedMap Value) : Except String Value :=
  let cars := ((siblings.get? "cars").bind Value.asSeq?).getD []
  .ok (.int (.ofNat cars.length))

/-- Cars and their garages. -/
def fleet : Element :=
  let garages : Info :=
    { name? := some "garages"
      help? := some "Garages keyed by name. The '_' entry sets defaults for the others." }
  let garage : Element :=
    .keyed {} [
      .scalar { name? := some "spaces", required := true } .int,
      .scalar { name? := some "door", default? := some (.str "roller") } .str,
      .scalar { name? := some "city" } .str] false
  .keyed {} [
    .list { name? := some "cars", help? := some "Every car in the fleet." } car (some 1) none,
    .category garages garage 0 (some "_"),
    .code { name? := some "notes" },
    .derived { name? := some "car_count" } carCount] false

end ConfigSchema.Samples
