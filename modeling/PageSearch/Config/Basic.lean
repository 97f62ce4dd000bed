import PageSearch.Adapter.Basic
import PageSearch.Path
import PageSearch.Suggest.Dropdown

/-!
# Configurations

A configuration says where the documents and the cached indexes are, what navigation targets are
joined onto, how terms are weighed, when suggestions are shown, and how queries are answered.
-/

namespace PageSearch

structure Config where
  documents : Option String
  baseUrl : Option String
  cacheFolder : Option String
  boosts : Boosts
  settings : Settings
  policy : DanglingPolicy
  capacity : Nat

/-- What is wrong with the text of a configuration. -/
inductive ConfigError where
  /-- It is no TOML document, or one of another shape. -/
  | malformed
  | limit
  | minLength
  | boosts
  deriving DecidableEq

def ConfigError.message : ConfigError → String
  | .malformed => "Invalid configuration"
  | .limit => "typeahead.limit must be at least 1"
  | .minLength => "typeahead.min_length must be at least 1"
  | .boosts => "index boosts must be positive"

namespace Config

/-- The configuration that an empty text gives. -/
def default : Config :=
  ⟨none, none, none, .default, .default, .skip, 128⟩

/-- The first thing that is wrong with the values of a configuration. -/
def fault? (c : Config) : Option ConfigError :=
  if c.settings.limit = 0 then some .limit
  else if c.settings.minLength = 0 then some .minLength
  else if c.boosts.title.isPositive && c.boosts.content.isPositive then none
  else some .boosts

/-- The configuration with its paths taken relative to a folder. -/
def relativeTo (folder : String) (c : Config) : Config :=
  { c with
    documents := c.documents.map (Path.join folder)
    cacheFolder := c.cacheFolder.map (Path.join folder) }

end Config

end PageSearch
