import TextRecords.Json

/-!
# Configuration

The settings of a database and their JSON form: an object whose known members may each be given
once, or an array of the settings in order. Settings that are not given keep their defaults, and
unknown members are passed over.
-/

namespace TextRecords

/-- The settings of a database. -/
structure Config where
  /-- How many compiled expressions of each kind a shared database keeps. -/
  expressionCacheSize : Nat := 128
  /-- The seed of samples that are drawn without one. -/
  sampleSeed : Option Nat := none
  /-- Whether a backslash at the end of a value line joins the next line to it. -/
  joinsLines : Bool := true
deriving DecidableEq, Repr

namespace Config

/-- A whole number of 64 bits. -/
def natural? : Json → Option Nat
  | .natural n => if n < Number.wordCount then some n else none
  | _ => none

/-- A configuration with its cache size set. -/
def setCacheSize? (config : Config) (value : Json) : Option Config :=
  (natural? value).map fun size => { config with expressionCacheSize := size }

/-- A configuration with its sample seed set; `null` stands for none. -/
def setSeed? (config : Config) : Json → Option Config
  | .null => some { config with sampleSeed := none }
  | value => (natural? value).map fun seed => { config with sampleSeed := some seed }

/-- A configuration with the joining of lines set. -/
def setJoinsLines? (config : Config) : Json → Option Config
  | .bool joins => some { config with joinsLines := joins }
  | _ => none

/-- The setting of a member with the given name, if the name is known. -/
def setter? (name : String) : Option (Config → Json → Option Config) :=
  match name with
  | "expression_cache_size" => some setCacheSize?
  | "sample_seed" => some setSeed?
  | "allow_backslash_continuation" => some setJoinsLines?
  | _ => none

/-- A configuration with the members of an object applied in order. `seen` lists the known names
already given. -/
def applyMembers? (config : Config) (seen : List String) :
    List (Option String × Json) → Option Config
  | [] => some config
  | (none, _) :: _ => none
  | (some name, value) :: rest =>
    match setter? name with
    | none => applyMembers? config seen rest
    | some set =>
      if seen.contains name then none
      else match set config value with
        | some config => applyMembers? config (name :: seen) rest
        | none => none

/-- A configuration with the items of an array applied to the settings in order. -/
def applyItems? (config : Config) :
    List (Config → Json → Option Config) → List Json → Option Config
  | _, [] => some config
  | [], _ :: _ => none
  | set :: setters, value :: rest =>
    match set config value with
    | some config => applyItems? config setters rest
    | none => none

/-- The configuration that a JSON text describes. -/
def ofJson? (text : String) : Option Config :=
  match Json.ofText? text with
  | some (.object members) => applyMembers? {} [] members
  | some (.array items) => applyItems? {} [setCacheSize?, setSeed?, setJoinsLines?] items
  | _ => none

end Config

end TextRecords
