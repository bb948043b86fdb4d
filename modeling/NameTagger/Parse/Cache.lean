import NameTagger.Parse.Result
import NameTagger.Settings.Store

/-!
# The cache of parsed names

* `isCached`: whether settings ask for names to be kept;
* `Keeping`, `keep`: hand a parsed name to a store if the settings ask for it.
-/

namespace NameTagger.Cache

/-- Whether settings ask for names to be kept in a cache. -/
def isCached (settings : Settings) : Bool :=
  ((Json.Fields.get? settings "cache_enabled").map Json.isTrue).getD false

/-- What comes of the attempt to keep a name. -/
structure Keeping where
  files : Files
  /-- The record that the store was given, if it was called. -/
  record? : Option CacheRecord
  /-- Whether the name was kept. -/
  outcome : Except Fault Bool

/-- A name that is not kept. -/
def Keeping.none (files : Files) : Keeping := ⟨files, .none, .ok false⟩

variable (codec : Json.Codec)

/-- Hand a parsed name to a store that may fail. -/
def hand (files : Files) (text : String) (parsed : ParsedName)
    (store : CacheRecord → Except Fault Unit) : Keeping :=
  match parsed.cacheRecord codec (some text) with
  | .error fault => ⟨files, .none, .error fault⟩
  | .ok record => ⟨files, some record, (store record).map fun _ => true⟩

/-- Hand a parsed name to a store if the settings ask for it; they are given by a value, or else
they are those of the user.  An absent name is not kept. -/
def keep (env : Environment) (files : Files) (config : Json) (text? : Option String)
    (parsed? : Option ParsedName) (store : CacheRecord → Except Fault Unit) : Keeping :=
  match text?, parsed? with
  | some text, some parsed =>
      match Settings.choose codec env files config with
      | (files, .error fault) => ⟨files, .none, .error fault⟩
      | (files, .ok settings) =>
          if isCached settings then hand codec files text parsed store else .none files
  | _, _ => .none files

end NameTagger.Cache
