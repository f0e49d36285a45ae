import SelfTrace.Text.Utf8

/-!
# The built-in rule script

The rules that the tool is given when no directory of scripts replaces them.
-/

namespace SelfTrace.Rules

/-- The name of the rule script. -/
def scriptName : String := "debug/agent.bt"

/-- The lines of the rule script. -/
def scriptLines : List String := [
  "/*",
  " * perfdbg debug rules.",
  " *",
  " * Loaded into the load generator by the self-attach agent.",
  " * $1 is the pid of the process that requested the attach.",
  " */",
  "",
  "BEGIN",
  "\x7b",
  "\tprintf(\"perfdbg: tracing pid %d\\n\", $1);",
  "\x7d",
  "",
  "tracepoint:raw_syscalls:sys_enter",
  "/pid == $1/",
  "\x7b",
  "\t@syscalls[comm] = count();",
  "\x7d",
  "",
  "tracepoint:sched:sched_process_fork",
  "/pid == $1/",
  "\x7b",
  "\t@sender_threads = count();",
  "\x7d",
  "",
  "tracepoint:syscalls:sys_enter_sendto",
  "/pid == $1/",
  "\x7b",
  "\t@bytes_out = sum(args->len);",
  "\x7d",
  "",
  "tracepoint:syscalls:sys_enter_write",
  "/pid == $1/",
  "\x7b",
  "\t@bytes_out = sum(args->count);",
  "\x7d",
  "",
  "interval:s:10",
  "\x7b",
  "\ttime(\"%H:%M:%S \");",
  "\tprint(@syscalls, 5);",
  "\tprint(@sender_threads);",
  "\tprint(@bytes_out);",
  "\tclear(@syscalls);",
  "\x7d",
  "",
  "tracepoint:sched:sched_process_exit",
  "/pid == $1 && tid == $1/",
  "\x7b",
  "\tprintf(\"perfdbg: pid %d exited\\n\", $1);",
  "\texit();",
  "\x7d",
  "",
  "END",
  "\x7b",
  "\tclear(@syscalls);",
  "\tclear(@sender_threads);",
  "\tclear(@bytes_out);",
  "\x7d"]

/-- The text of the rule script; each line ends with a newline. -/
def script : String := String.join (scriptLines.map (· ++ "\n"))

/-- The built-in resources by name. -/
def builtIn : List (String × String) := [(scriptName, script)]

/-- The content of a built-in resource. -/
def builtIn? (name : String) : Option Bytes :=
  (builtIn.find? (·.1 == name)).map fun r => Text.octets r.2

end SelfTrace.Rules
