import Karnaugh.CommandLine.Options

set_option autoImplicit false

/-! # What the program says about itself -/

namespace Karnaugh.CommandLine

/-- What is printed for `--help`. -/
def helpText : String :=
  "Karnaugh map simplifier and level game\n\n" ++
  "Usage: kmap [OPTIONS] [MAP]\n\n" ++
  "  MAP                       a bit string in display order, or an equation\n" ++
  "  -D, --do NAME             " ++ ", ".intercalate (Command.all.map Command.name) ++ "\n" ++
  "  -n, --vars COUNT          number of variables, 2 or 3\n" ++
  "  -l, --level INDEX         level, from 0; else the next unsolved one\n" ++
  "  -P, --progress-file PATH  progress file, else .kmap_progress\n" ++
  "  -N, --notation STYLE      prime or overline\n" ++
  "  -s, --summary             print a summary\n" ++
  "  -v, --verbose             tell the steps of the work\n" ++
  "  -h, --help                print this text\n" ++
  "  -V, --version             print the version\n"

/-- What is printed for `--version`. -/
def versionText : String := "kmap 0.1.0\n"

end Karnaugh.CommandLine
