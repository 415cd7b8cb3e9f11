import CommandShell.Arguments.Basic

set_option autoImplicit false

namespace CommandShell

inductive Builtin where
  | echo
  | pwd
  | cd
  | pushd
  | popd
  | dirs
  | exportVariables
  | unsetVariables
  | prompt
  | cat
  | wc
  | exit
deriving DecidableEq, Repr

namespace Builtin

def all : List Builtin :=
  [echo, pwd, cd, pushd, popd, dirs, exportVariables, unsetVariables, prompt, cat, wc, exit]

def name : Builtin → Text
  | echo => "echo".toList
  | pwd => "pwd".toList
  | cd => "cd".toList
  | pushd => "pushd".toList
  | popd => "popd".toList
  | dirs => "dirs".toList
  | exportVariables => "export".toList
  | unsetVariables => "unset".toList
  | prompt => "prompt".toList
  | cat => "cat".toList
  | wc => "wc".toList
  | exit => "exit".toList

def ofName? (name : Text) : Option Builtin := all.find? (·.name == name)

def helpLine : String := "  --help, help      display usage information\n"

def plainHelp (usage summary : String) : Text :=
  ("Usage: " ++ usage ++ "\n\n" ++ summary ++ "\n\nOptions:\n" ++ helpLine).toList

def valueHelp (usage summary value : String) : Text :=
  ("Usage: " ++ usage ++ "\n\n" ++ summary ++ "\n\nPositional Arguments:\n" ++ value ++
    "\n\nOptions:\n" ++ helpLine).toList

def help : Builtin → Text
  | echo =>
    ("Usage: echo [-n] [args...]\n\n" ++
      "write the arguments to standard output, separated by spaces. " ++
      "by default, a trailing newline is printed.\n\n" ++
      "Options:\n  -n, --no-newline  do not output the trailing newline.\n" ++ helpLine).toList
  | pwd => plainHelp "pwd" "Print the current working directory to standard output."
  | cd =>
    valueHelp "cd [--] [<target>]"
      "Change the current working directory. If no target is provided, changes to the home directory."
      ("  target            directory to switch to; absolute or relative to the current\n" ++
        "                    directory. Defaults to home when omitted.")
  | pushd =>
    valueHelp "pushd [--] [<target>]" "Push a directory onto the directory stack and make it current."
      "  target            directory to switch to. Defaults to home when omitted."
  | popd => plainHelp "popd" "Pop the top of the directory stack."
  | dirs => plainHelp "dirs" "Print the directory stack, most recent first."
  | exportVariables =>
    plainHelp "export [assignments...]" "Set shell variables. Without arguments, print all of them."
  | unsetVariables => plainHelp "unset [names...]" "Remove shell variables."
  | prompt =>
    plainHelp "prompt [template...]"
      ("Set the prompt template. A template wrapped in backticks is run as a command " ++
        "each time the prompt is shown; no template restores the default.")
  | cat => plainHelp "cat [files...]" "print file(s) to stdout"
  | wc => plainHelp "wc [files...]" "count lines, words and bytes"
  | exit =>
    valueHelp "exit [--] [<code>]" "Leave the shell after the current line."
      "  code              return code of the line; 0 when omitted."

def noNewline : Flag := ⟨"no-newline".toList, ["-n".toList, "--no-newline".toList], .switch⟩

def positional : Builtin → Positional
  | pwd | popd | dirs => .none
  | cd | pushd => .one "target".toList fun _ => .ok ()
  | exit => .one "code".toList fun value => (Number.parse value).map fun _ => ()
  | echo | exportVariables | unsetVariables | prompt | cat | wc => .all

def signature (b : Builtin) : Signature where
  help := b.help
  flags := if b = echo then [noNewline] else []
  positional := b.positional

end Builtin

end CommandShell
