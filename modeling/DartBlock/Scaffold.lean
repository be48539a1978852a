/-!
# The program around a snippet

The texts that turn a snippet into a complete Dart program. They are emitted and never run by
this library. The emitted program takes one argument: with `output` it runs the snippet and
lets its prints through; with `value` it drops every printed line, waits for the result and
prints it once; any other argument is reported on standard error.
-/

namespace DartBlock.Scaffold

/-- The template that leaves a program as it is. -/
def identity : String := "%s"

/-- What the emitted program reports when it does not know the mode it was given. -/
def rejectionMarker : String := "obdart: unrecognized result mode"

def wrapperImports : String := "import 'dart:async';\nimport 'dart:io';\n\n"

/-- The imports in front of a snippet that brings its own entry point. -/
def preludeImports : String := "import 'dart:async';\nimport 'dart:io';\n\n"

def blockClass : String :=
"class _BabelBlock \x7b
  Future<dynamic> run(Map<String, dynamic> vars) %a \x7b
%s
  \x7d
\x7d
"

def runners : String :=
"Future<void> _runOutput() %a \x7b
  %w _BabelBlock().run(<String, dynamic>\x7b\x7d);
\x7d

Future<void> _runValue() %a \x7b
  dynamic value;
  %w runZoned(() %a \x7b
    value = %w _BabelBlock().run(<String, dynamic>\x7b\x7d);
  \x7d, zoneSpecification: ZoneSpecification(
      print: (Zone self, ZoneDelegate parent, Zone zone, String line) \x7b\x7d));
  print(value);
\x7d
"

def dispatcher : String :=
"Future<void> main(List<String> args) %a \x7b
  final mode = args.isEmpty ? null : args.first;
  switch (mode) \x7b
    case 'output':
      %w _runOutput();
      break;
    case 'value':
      %w _runValue();
      break;
    default:
      stderr.writeln('obdart: unrecognized result mode: $mode (expected \"output\" or \"value\")');
      %w stderr.flush();
      exit(2);
  \x7d
\x7d
"

/-- The template a snippet without an entry point is put into. -/
def template : String := blockClass ++ "\n" ++ runners ++ "\n" ++ dispatcher

end DartBlock.Scaffold
