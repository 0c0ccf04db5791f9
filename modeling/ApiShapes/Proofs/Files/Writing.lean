import ApiShapes.Files.Tree
import Mathlib.Tactic

/-!
# Writing files

Writing a file fails before anything is changed if something stands in its way.  A text that no file
can hold leaves the file empty, and any other one is read back as it was written, up to its line
ends.
-/

namespace ApiShapes.Files

variable {files : Files} {path : Path} {text : String}

theorem write_of_obstacle {fault : FileFault} (h : files.obstacle? path = some fault) :
    files.write path text = (.error fault, files) := by
  rw [write, h]

theorem write_of_encodable (hfree : files.obstacle? path = none)
    (htext : Text.isEncodable text.toList = true) :
    files.write path text = (.ok (), files.put path text) := by
  rw [write, hfree]
  exact if_pos htext

theorem write_of_unencodable (hfree : files.obstacle? path = none)
    (htext : Text.isEncodable text.toList = false) :
    files.write path text = (.error (.unencodable text), files.put path "") := by
  rw [write, hfree]
  exact if_neg (by simp [htext])

end ApiShapes.Files
