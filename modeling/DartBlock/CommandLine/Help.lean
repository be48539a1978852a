/-!
# Help texts

What is printed when help is asked for, or when the arguments are wrong.
-/

namespace DartBlock.CommandLine

def programName : String := "obdart"

def usage : String :=
  "usage: obdart [-h] [--results RESULTS] [--cmd CMD] [--session SESSION]\n" ++
  "              [--config CONFIG] [--expand] [--format \x7btext,json,yaml\x7d]\n" ++
  "              file\n"

def help : String :=
  usage ++ "\n" ++
  "Run a Dart source block and print its result.\n" ++
  "\n" ++
  "positional arguments:\n" ++
  "  file                  Dart snippet file, or '-' for stdin\n" ++
  "\n" ++
  "options:\n" ++
  "  -h, --help            show this help message and exit\n" ++
  "  --results RESULTS     Result directives, e.g. 'output' or 'value raw'\n" ++
  "  --cmd CMD             External command used to run the program (default:\n" ++
  "                        dart)\n" ++
  "  --session SESSION     Session name (sessions are not supported)\n" ++
  "  --config CONFIG       YAML configuration file\n" ++
  "  --expand              Print the synthesized program instead of running it\n" ++
  "  --format \x7btext,json,yaml\x7d\n" ++
  "                        Result output format\n"

end DartBlock.CommandLine
