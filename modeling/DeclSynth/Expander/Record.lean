import DeclSynth.Expander
import DeclSynth.Json.Codec.Case

/-!
# Expanders as JSON values

A data file names an expander by its tag.
-/

namespace DeclSynth.Expander

instance : Json.Encode Expander := ⟨fun e => .ok (.string e.tag)⟩

instance : Json.Decode Expander := ⟨Json.decodeCase all tag⟩

end DeclSynth.Expander
