import NameTagger.Json.Codec
import NameTagger.Json.Read
import NameTagger.Json.Write

/-!
# A library for JSON

* `Json.Codec.standard`: the reader and the writer as a library.
-/

namespace NameTagger.Json.Codec

/-- The library that reads the strict grammar and writes the fewest digits. -/
def standard : Codec where
  read bytes := (ofBytes bytes).mapError Error.message
  write style value := (Json.write style value).mapError Refusal.message

end NameTagger.Json.Codec
