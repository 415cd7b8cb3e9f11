import CommandShell.Text.Basic

set_option autoImplicit false

namespace CommandShell.PosixShell

namespace Signal

def table : List (Nat × String × String) :=
  [(1, "HUP", "Hangup"), (2, "INT", "Interrupt"), (3, "QUIT", "Quit"), (4, "ILL", "Illegal instruction"),
   (5, "TRAP", "Trace/breakpoint trap"), (6, "ABRT", "Aborted"), (7, "BUS", "Bus error"),
   (8, "FPE", "Floating point exception"), (9, "KILL", "Killed"), (10, "USR1", "User defined signal 1"),
   (11, "SEGV", "Segmentation fault"), (12, "USR2", "User defined signal 2"), (13, "PIPE", "Broken pipe"),
   (14, "ALRM", "Alarm clock"), (15, "TERM", "Terminated"), (16, "16", "Stack fault"),
   (17, "CHLD", "Child exited"), (18, "CONT", "Continued"), (19, "STOP", "Stopped (signal)"),
   (20, "TSTP", "Stopped"), (21, "TTIN", "Stopped (tty input)"), (22, "TTOU", "Stopped (tty output)"),
   (23, "URG", "Urgent I/O condition"), (24, "XCPU", "CPU time limit exceeded"),
   (25, "XFSZ", "File size limit exceeded"), (26, "VTALRM", "Virtual timer expired"),
   (27, "PROF", "Profiling timer expired"), (28, "WINCH", "Window changed"), (29, "IO", "I/O possible"),
   (30, "PWR", "Power failure"), (31, "SYS", "Bad system call"), (32, "32", "Unknown signal 32"),
   (33, "33", "Unknown signal 33")]

def firstRealTime : Nat := 34

def lastNumber : Nat := 64

-- The signal zero is none; traps use it for the end of the shell.
def endName : Text := "EXIT".toList

def name (n : Nat) : Text :=
  match table.lookup n with
  | some (name, _) => name.toList
  | none =>
    if n = 0 then endName
    else if n = firstRealTime then "RTMIN".toList
    else if n = lastNumber then "RTMAX".toList
    else if n < 50 then "RTMIN+".toList ++ Text.ofNat (n - firstRealTime)
    else "RTMAX-".toList ++ Text.ofNat (lastNumber - n)

def description (n : Nat) : Text :=
  match table.lookup n with
  | some (_, description) => description.toList
  | none => "Real-time signal ".toList ++ Text.ofNat (n - firstRealTime)

def ofText? (text : Text) : Option Nat :=
  let value := text.foldl (fun n c => n * 10 + (c.toNat - '0'.toNat)) 0
  if !text.isEmpty && text.all Char.isDigit then if value ≤ lastNumber then some value else none
  else (List.range (lastNumber + 1)).find? fun n => (name n) = text.map Char.toUpper

def isFatal (n : Nat) : Bool := !([0, 17, 18, 19, 20, 21, 22, 23, 28] : List Nat).contains n

def isForced (n : Nat) : Bool := n == 9 || n == 19

def isReported (n : Nat) : Bool := n != 2 && n != 13

end Signal

end CommandShell.PosixShell
