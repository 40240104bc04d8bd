import SearchQuery.Files.Path

/-!
# Settings

Settings come in layers. A configuration file is a layer: it sets what it mentions
and leaves the rest alone. The layers that apply are ordered, the one nearest to
the work first, and each setting is taken from the first layer that sets it, or is
the default when none does. Settings do not depend on each other.
-/

namespace SearchQuery

/-- How results are shown. -/
inductive OutputFormat where
  /-- As an indented text. -/
  | tree
  /-- As a document for other programs. -/
  | json
  deriving DecidableEq, Repr

namespace OutputFormat

/-- The name of a format in a configuration file. -/
def name : OutputFormat → String
  | tree => "tree"
  | json => "json"

/-- The name of a format, capitalised, as record notation has it. -/
def constructorName : OutputFormat → String
  | tree => "Tree"
  | json => "Json"

/-- The format of a name. -/
def ofName? (name : String) : Option OutputFormat :=
  if name = "tree" then some .tree
  else if name = "json" then some .json
  else none

theorem ofName?_name (f : OutputFormat) : ofName? f.name = some f := by
  cases f <;> rfl

end OutputFormat

/-! ## Layers -/

/-- What a layer says about reading queries. -/
structure QueryLayer where
  balanceSingleQuotes : Option Bool
  deriving DecidableEq, Repr

/-- What a layer says about output. -/
structure OutputLayer where
  format : Option OutputFormat
  color : Option Bool
  deriving DecidableEq, Repr

/-- What a configuration file says. -/
structure Layer where
  /-- Whether no other file applies beyond this one. -/
  root : Option Bool
  query : Option QueryLayer
  output : Option OutputLayer
  deriving DecidableEq, Repr

/-- The layer that says nothing. -/
def Layer.empty : Layer := ⟨none, none, none⟩

/-- The setting of the single quote in a layer. -/
def Layer.balanceSingleQuotes? (l : Layer) : Option Bool :=
  l.query.bind QueryLayer.balanceSingleQuotes

/-- The format in a layer. -/
def Layer.format? (l : Layer) : Option OutputFormat :=
  l.output.bind OutputLayer.format

/-- The setting of colour in a layer. -/
def Layer.color? (l : Layer) : Option Bool :=
  l.output.bind OutputLayer.color

/-! ## Settings in effect -/

/-- How queries are read. -/
structure QuerySettings where
  balanceSingleQuotes : Bool
  deriving DecidableEq, Repr

/-- How results are shown. -/
structure OutputSettings where
  format : OutputFormat
  color : Bool
  deriving DecidableEq, Repr

/-- The settings in effect. -/
structure Settings where
  query : QuerySettings
  output : OutputSettings
  /-- The directory of the nearest configuration file. -/
  origin : Option Path
  deriving DecidableEq, Repr

namespace Settings

/-- The settings without any configuration file. -/
def default : Settings := ⟨⟨false⟩, ⟨.tree, true⟩, none⟩

/-- The settings with those of a layer put over them. -/
def overlay (l : Layer) (s : Settings) : Settings :=
  { s with
    query := ⟨l.balanceSingleQuotes?.getD s.query.balanceSingleQuotes⟩
    output := ⟨l.format?.getD s.output.format, l.color?.getD s.output.color⟩ }

/-- The settings of some files with their layers, the one that takes precedence first. -/
def ofLayers (layers : List (Path × Layer)) : Settings :=
  { layers.foldr (fun l s => overlay l.2 s) default with
    origin := layers.head?.bind fun l => l.1.parent? }

/-- The word for a truth value. -/
def boolText (b : Bool) : String := if b then "true" else "false"

/-- The settings as the text of a configuration file that sets all of them. -/
def fileText (s : Settings) : String :=
  "[query]\nbalance_single_quotes = " ++ boolText s.query.balanceSingleQuotes ++
    "\n\n[output]\nformat = \"" ++ s.output.format.name ++
    "\"\ncolor = " ++ boolText s.output.color ++ "\n"

end Settings

end SearchQuery
