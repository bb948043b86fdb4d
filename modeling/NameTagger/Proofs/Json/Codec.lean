import NameTagger.Json.Standard
import NameTagger.Proofs.Json.RoundTrip

/-!
# What may be relied on in a library for JSON

* `Codec.ReadsProper`: the values that it reads are proper;
* `Codec.ReadsBack`: what it has written it reads again;
* `readsProper_standard`, `readsBack_standard`: so does the reader with the writer.
-/

namespace NameTagger.Json

/-- The bytes of a text denote what the text denotes. -/
theorem ofBytes_toUTF8 (text : String) : ofBytes text.toUTF8 = parse text := by
  have h : String.fromUTF8? text.toUTF8 = some text := by
    rw [String.fromUTF8?, String.toUTF8_eq_toByteArray, dif_pos text.isValidUTF8]
    rfl
  rw [ofBytes, h]

theorem write_of_refusal? {v : Json} (h : refusal? v = none) (style : Style) :
    write style v = .ok (text style v) := by
  simp only [write, h]

namespace Codec

/-- Integers that are read have at most 64 bits, binary numbers are finite, and no key comes
twice. -/
def ReadsProper (codec : Codec) : Prop :=
  ∀ bytes value, codec.read bytes = .ok value → value.Proper

/-- The text that is written of a proper value is read as that value. -/
def ReadsBack (codec : Codec) : Prop :=
  ∀ (value : Json) (text : String), value.Proper → codec.write .indented value = .ok text →
    codec.read text.toUTF8 = .ok value

theorem read_standard_eq_ok_iff {bytes : ByteArray} {value : Json} :
    standard.read bytes = .ok value ↔ ofBytes bytes = .ok value := mapError_eq_ok_iff

theorem write_standard_eq_ok_iff {style : Style} {value : Json} {text : String} :
    standard.write style value = .ok text ↔ Json.write style value = .ok text := mapError_eq_ok_iff

theorem readsProper_standard : standard.ReadsProper :=
  fun _ _ h => proper_of_ofBytes (read_standard_eq_ok_iff.1 h)

theorem readsBack_standard : standard.ReadsBack := by
  intro value text hproper hwrite
  rw [read_standard_eq_ok_iff, ofBytes_toUTF8]
  exact parse_indented hproper (write_standard_eq_ok_iff.1 hwrite)

end Codec

end NameTagger.Json
