import NameTagger.Json.Codec
import NameTagger.Label.Column
import NameTagger.Lexicon.Numbering

/-!
# Parsed names

* `ParsedToken`, `ParsedName`: the components of a name with the confidence in them;
* `ParsedName.rows`: the tokens with their components;
* `Buckets`, `ParsedName.buckets`, `ParsedName.column?`: the tokens by columns;
* `ParsedName.toJson`, `ParsedName.document`: a parsed name as a document;
* `CacheRecord`, `ParsedName.cacheRecord`: a parsed name as it is kept in a cache.
-/

namespace NameTagger

/-- A token of a name with the component that it belongs to. -/
structure ParsedToken where
  text : String
  label : String
  confidence : Option Float
  start : Nat
  stop : Nat
deriving Repr

/-- A name whose tokens are labeled. -/
structure ParsedName where
  tokens : List ParsedToken
  confidence : Float
  modelVersion : Option String
  /-- How long it took, in milliseconds. -/
  milliseconds : Float
deriving Repr

/-- Texts by columns, in the order in which the columns first came. -/
abbrev Buckets := List (Column × List String)

/-- Put a text behind the others of its column; a new column goes to the end. -/
def Buckets.put (column : Column) (text : String) : Buckets → Buckets
  | [] => [(column, [text])]
  | (held, texts) :: rest =>
      if held = column then (held, texts ++ [text]) :: rest
      else (held, texts) :: put column text rest

namespace ParsedName

/-- The texts of the tokens with their components. -/
def rows (parsed : ParsedName) : List (String × String) :=
  parsed.tokens.map fun token => (token.text, token.label)

/-- The texts of the tokens by the columns of their components. -/
def buckets (parsed : ParsedName) : Buckets :=
  parsed.tokens.foldl (fun buckets token =>
    buckets.put (Column.ofComponent token.label) token.text) []

/-- The columns that have any content: the texts of their tokens with spaces between them. -/
def contents (parsed : ParsedName) : List (Column × String) :=
  parsed.buckets.map fun (column, texts) => (column, String.intercalate " " texts)

/-- The content of a column, if it has any. -/
def column? (parsed : ParsedName) (column : Column) : Option String :=
  parsed.contents.lookup column

/-- A parsed name as a JSON value. -/
def toJson (parsed : ParsedName) : Json :=
  .obj [
    ("tokens", .arr (parsed.tokens.map fun token =>
      .obj [("text", .str token.text), ("label", .str token.label)])),
    ("confidence", .float parsed.confidence),
    ("model_version", (parsed.modelVersion.map Json.str).getD .null)]

/-- A parsed name as a document that a library for JSON writes. -/
def document (codec : Json.Codec) (parsed : ParsedName) : Except Fault String :=
  (codec.write .compact parsed.toJson).mapError Json.refusalFault

end ParsedName

/-- A parsed name as it is kept in a cache. -/
structure CacheRecord where
  /-- The name as it was given; it may be absent. -/
  text : Option String
  parsedComponents : String
  modelVersion : Option String
  /-- Whole milliseconds. -/
  milliseconds : Int
deriving Repr

namespace ParsedName

/-- The record of a parsed name and of its text as it was given; a time that is no number has
none. -/
def cacheRecord (codec : Json.Codec) (parsed : ParsedName) (text? : Option String) :
    Except Fault CacheRecord := do
  let parsedComponents ← parsed.document codec
  let milliseconds ← SourceId.ofFloat parsed.milliseconds
  return ⟨text?, parsedComponents, parsed.modelVersion, milliseconds⟩

end ParsedName

end NameTagger
