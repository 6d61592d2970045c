/-!
# Help

The command line has three *pages*: one for the program as a whole and one for
each of its two commands. Each page has a usage line, which is also shown with
the errors in what it asks for, and a text that explains it.
-/

namespace KeyMacro.Command

/-- A page of the command line. -/
inductive Page where
  | main
  | compile
  | disassemble
  deriving DecidableEq, Repr

namespace Page

/-- What is to be called to get to a page. -/
def program : Page → String
  | main => "k90"
  | compile => "k90 compile"
  | disassemble => "k90 disassemble"

/-- The usage line of a page. -/
def usage : Page → String
  | main => "usage: k90 [-h] [--verbose] [--quiet] \x7bcompile,disassemble\x7d ...\n"
  | compile => "usage: k90 compile [-h] [--stdout] inputs [inputs ...]\n"
  | disassemble => "usage: k90 disassemble [-h] input\n"

/-- What is said of the parts of a page. -/
def explanation : Page → List String
  | main => [
      "K90 macro tools - compile MacroScript files into G-key profiles",
      "",
      "positional arguments:",
      "  \x7bcompile,disassemble\x7d",
      "                        Available commands",
      "    compile             Compile MacroScript files to G-key profiles",
      "    disassemble         Disassemble the macro payload of a profile",
      "",
      "options:",
      "  -h, --help            show this help message and exit",
      "  --verbose, -v         Enable verbose output",
      "  --quiet, -q           Only report errors",
      "",
      "Examples:",
      "  k90 compile macro.txt                 # Write macro.xml beside macro.txt",
      "  k90 compile *.txt                     # Compile several scripts",
      "  k90 compile macro.txt --stdout        # Print the profile instead",
      "  k90 disassemble macro.xml             # List the opcodes of a profile",
      "        "]
  | compile => [
      "positional arguments:",
      "  inputs      Input MacroScript files",
      "",
      "options:",
      "  -h, --help  show this help message and exit",
      "  --stdout    Write profiles to stdout instead of .xml files"]
  | disassemble => [
      "positional arguments:",
      "  input       Input .xml profile or hex payload file",
      "",
      "options:",
      "  -h, --help  show this help message and exit"]

/-- The text of a page. -/
def help (page : Page) : String :=
  page.usage ++ "\n" ++ String.join (page.explanation.map (· ++ "\n"))

end Page

end KeyMacro.Command
