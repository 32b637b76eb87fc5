import DefLang.CommandLine.Options

/-!
# Help

The texts shown instead of a run.
-/

namespace DefLang

def textOfLines (texts : List String) : String :=
  String.join (texts.map (· ++ "\n"))

def versionText : String := "defc 0.1.0\n"

def briefHelp : String :=
  textOfLines [
    "Translates a `def ... end` function into JavaScript",
    "",
    "Usage: defc [OPTIONS] [FILE]",
    "",
    "Arguments:",
    "  [FILE]  Source file to translate (stdin when omitted)",
    "",
    "Options:",
    "  -o, --output <FILE>              Write the result to FILE instead of stdout",
    "      --emit <EMIT>                Stage output to print [default: program] [possible values: tokens, ast, function, program]",
    "      --bare                       Omit the runtime preamble and the test trailer",
    "      --preamble <FILE>            Replace the runtime preamble with the contents of FILE",
    "      --trailer <FILE>             Replace the test trailer with the contents of FILE",
    "      --single-letter-identifiers  Only accept one-letter identifiers",
    "      --strict                     Reject duplicate parameters, unbound variables and reserved words",
    "      --run                        Execute the assembled program and print its stdout",
    "      --node <PROGRAM>             JavaScript runtime used by --run [default: node]",
    "  -h, --help                       Print help (see more with '--help')",
    "  -V, --version                    Print version"]

def detailedHelp : String :=
  textOfLines [
    "Translates a `def ... end` function into JavaScript",
    "",
    "Usage: defc [OPTIONS] [FILE]",
    "",
    "Arguments:",
    "  [FILE]",
    "          Source file to translate (stdin when omitted)",
    "",
    "Options:",
    "  -o, --output <FILE>",
    "          Write the result to FILE instead of stdout",
    "",
    "      --emit <EMIT>",
    "          Stage output to print",
    "",
    "          Possible values:",
    "          - tokens:   One `kind text` line per token",
    "          - ast:      The parsed syntax tree",
    "          - function: Only the generated definition",
    "          - program:  The generated definition with preamble and trailer",
    "          ",
    "          [default: program]",
    "",
    "      --bare",
    "          Omit the runtime preamble and the test trailer",
    "",
    "      --preamble <FILE>",
    "          Replace the runtime preamble with the contents of FILE",
    "",
    "      --trailer <FILE>",
    "          Replace the test trailer with the contents of FILE",
    "",
    "      --single-letter-identifiers",
    "          Only accept one-letter identifiers",
    "",
    "      --strict",
    "          Reject duplicate parameters, unbound variables and reserved words",
    "",
    "      --run",
    "          Execute the assembled program and print its stdout",
    "",
    "      --node <PROGRAM>",
    "          JavaScript runtime used by --run",
    "          ",
    "          [default: node]",
    "",
    "  -h, --help",
    "          Print help (see a summary with '-h')",
    "",
    "  -V, --version",
    "          Print version"]

namespace Stop

def exitCode : Stop → Nat
  | refused _ => 2
  | help _ => 0
  | version => 0

def output : Stop → String
  | refused _ => ""
  | help detailed => if detailed then detailedHelp else briefHelp
  | version => versionText

end Stop

end DefLang
