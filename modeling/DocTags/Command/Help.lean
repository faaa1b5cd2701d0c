/-
# Help, version and completion

The texts that explain the commands, name the version, and teach a shell the names of the commands.

The line with the version is the one that the program prints. The help and the scripts for a shell
are stand-ins, shorter than what it prints and in other words: they list the same commands and
options, and what is meant is only that such a text is printed, and where.
-/

import DocTags.Command.Arguments

namespace DocTags

namespace Flag

/-- What an option does, in one line. -/
def summary : Flag → Text
  | debug => "-d, --debug              Increase log verbosity (-d info, -dd debug, -ddd trace)".toList
  | projectDir => "-C, --project-dir <DIR>  Project directory (default: working directory)".toList
  | format => "-f, --format <FORMAT>    Output format: tree, json or flat (default: from config)".toList
  | extension => "-e, --ext <EXT>          File extension to scan in a directory (repeatable)".toList
  | includeEmpty => "    --include-empty      Also report doc comments without tags".toList
  | help => "-h, --help               Print help".toList
  | version => "-V, --version            Print version".toList

end Flag

namespace Level

/-- What a level is for, in one line. -/
def summary : Level → Text
  | program => "Parse doc comments into hierarchical tag trees".toList
  | parse => "Parse one doc comment and print its tags".toList
  | get => "Print the value of a fully-qualified tag key".toList
  | scan => "Find and parse every doc comment in a file or directory".toList
  | config => "Manage settings".toList
  | configShow => "Show effective settings".toList
  | configTemplate => "Print a commented config template".toList
  | configPath => "Show config file locations".toList
  | completion => "Generate shell completions".toList

/-- The operands of a level as they are shown. -/
def operandText : Level → Text
  | program => " [COMMAND]".toList
  | parse => " [FILE]".toList
  | get => " <KEY> [FILE]".toList
  | scan => " <PATH>".toList
  | config => " <COMMAND>".toList
  | completion => " <SHELL>".toList
  | _ => []

/-- The help of a level. -/
def help (level : Level) : Text :=
  let commandLines := level.commands.map fun (name, inner) =>
    "  ".toList ++ name ++ ": ".toList ++ inner.summary
  let flagLines := level.flags.map fun flag => "  ".toList ++ flag.summary
  Text.unlines
    ([level.summary, [],
      "Usage: ".toList ++ Text.joinWith [' '] level.names ++ " [OPTIONS]".toList ++
        level.operandText] ++
      (if commandLines = [] then [] else [[], "Commands:".toList] ++ commandLines) ++
      [[], "Options:".toList] ++ flagLines)

/-- The name and the version of a level. -/
def version (level : Level) : Text :=
  Text.joinWith ['-'] level.names ++ " 0.1.0\n".toList

end Level

/-- The names of all commands of the program, with spaces between them. -/
def commandNames : Text :=
  Text.joinWith [' '] (Level.program.commands.map Prod.fst)

/-- The script that teaches a shell the names of the commands. -/
def Shell.completion : Shell → Text
  | bash => "complete -W \"".toList ++ commandNames ++ "\" hierardoc\n".toList
  | elvish =>
    "set edit:completion:arg-completer[hierardoc] = \x7b|@words| put ".toList ++ commandNames ++
      " \x7d\n".toList
  | fish => "complete -c hierardoc -f -a \"".toList ++ commandNames ++ "\"\n".toList
  | powershell =>
    "Register-ArgumentCompleter -Native -CommandName hierardoc -ScriptBlock \x7b -split \"".toList ++
      commandNames ++ "\" \x7d\n".toList
  | zsh => "#compdef hierardoc\n_arguments \"1: :(".toList ++ commandNames ++ ")\"\n".toList

end DocTags
