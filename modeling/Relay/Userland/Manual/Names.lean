import Relay.Userland.Manual.Basic

/-!
# Texts of programs for names and arguments

The help texts of the programs that list and change files, and of those that only look at their
arguments.
-/

namespace Relay.Userland.Manual

/-- The program that lists names. -/
def ls : Manual where
  name := "ls"
  forms := ["[OPTION]... [FILE]..."]
  body := ["List information about the FILEs (the current directory by default).",
     "Sort entries alphabetically if none of -cftuvSUX nor --sort is specified."]
    ++ mandatory
    ++ ["  -a, --all                  do not ignore entries starting with .",
     "  -A, --almost-all           do not list implied . and ..",
     "      --author               with -l, print the author of each file",
     "  -b, --escape               print C-style escapes for nongraphic characters",
     "      --block-size=SIZE      with -l, scale sizes by SIZE when printing them;",
     "                             e.g., '--block-size=M'; see SIZE format below",
     "",
     "  -B, --ignore-backups       do not list implied entries ending with ~",
     "  -c                         with -lt: sort by, and show, ctime (time of last",
     "                             change of file status information);",
     "                             with -l: show ctime and sort by name;",
     "                             otherwise: sort by ctime, newest first",
     "",
     "  -C                         list entries by columns",
     "      --color[=WHEN]         color the output WHEN; more info below",
     "  -d, --directory            list directories themselves, not their contents",
     "  -D, --dired                generate output designed for Emacs' dired mode",
     "  -f                         list all entries in directory order",
     "  -F, --classify[=WHEN]      append indicator (one of */=>@|) to entries WHEN",
     "      --file-type            likewise, except do not append '*'",
     "      --format=WORD          across -x, commas -m, horizontal -x, long -l,",
     "                             single-column -1, verbose -l, vertical -C",
     "",
     "      --full-time            like -l --time-style=full-iso",
     "  -g                         like -l, but do not list owner",
     "      --group-directories-first",
     "                             group directories before files;",
     "                             can be augmented with a --sort option, but any",
     "                             use of --sort=none (-U) disables grouping",
     "",
     "  -G, --no-group             in a long listing, don't print group names",
     "  -h, --human-readable       with -l and -s, print sizes like 1K 234M 2G etc.",
     "      --si                   likewise, but use powers of 1000 not 1024",
     "  -H, --dereference-command-line",
     "                             follow symbolic links listed on the command line",
     "      --dereference-command-line-symlink-to-dir",
     "                             follow each command line symbolic link",
     "                             that points to a directory",
     "",
     "      --hide=PATTERN         do not list implied entries matching shell PATTERN",
     "                             (overridden by -a or -A)",
     "",
     "      --hyperlink[=WHEN]     hyperlink file names WHEN",
     "      --indicator-style=WORD",
     "                             append indicator with style WORD to entry names:",
     "                             none (default), slash (-p),",
     "                             file-type (--file-type), classify (-F)",
     "",
     "  -i, --inode                print the index number of each file",
     "  -I, --ignore=PATTERN       do not list implied entries matching shell PATTERN",
     "  -k, --kibibytes            default to 1024-byte blocks for file system usage;",
     "                             used only with -s and per directory totals",
     "",
     "  -l                         use a long listing format",
     "  -L, --dereference          when showing file information for a symbolic",
     "                             link, show information for the file the link",
     "                             references rather than for the link itself",
     "",
     "  -m                         fill width with a comma separated list of entries",
     "  -n, --numeric-uid-gid      like -l, but list numeric user and group IDs",
     "  -N, --literal              print entry names without quoting",
     "  -o                         like -l, but do not list group information",
     "  -p, --indicator-style=slash",
     "                             append / indicator to directories",
     "  -q, --hide-control-chars   print ? instead of nongraphic characters",
     "      --show-control-chars   show nongraphic characters as-is (the default,",
     "                             unless program is 'ls' and output is a terminal)",
     "",
     "  -Q, --quote-name           enclose entry names in double quotes",
     "      --quoting-style=WORD   use quoting style WORD for entry names:",
     "                             literal, locale, shell, shell-always,",
     "                             shell-escape, shell-escape-always, c, escape",
     "                             (overrides QUOTING_STYLE environment variable)",
     "",
     "  -r, --reverse              reverse order while sorting",
     "  -R, --recursive            list subdirectories recursively",
     "  -s, --size                 print the allocated size of each file, in blocks",
     "  -S                         sort by file size, largest first",
     "      --sort=WORD            sort by WORD instead of name: none (-U), size (-S),",
     "                             time (-t), version (-v), extension (-X), width",
     "",
     "      --time=WORD            change the default of using modification times;",
     "                               access time (-u): atime, access, use;",
     "                               change time (-c): ctime, status;",
     "                               birth time: birth, creation;",
     "                             with -l, WORD determines which time to show;",
     "                             with --sort=time, sort by WORD (newest first)",
     "",
     "      --time-style=TIME_STYLE",
     "                             time/date format with -l; see TIME_STYLE below",
     "  -t                         sort by time, newest first; see --time",
     "  -T, --tabsize=COLS         assume tab stops at each COLS instead of 8",
     "  -u                         with -lt: sort by, and show, access time;",
     "                             with -l: show access time and sort by name;",
     "                             otherwise: sort by access time, newest first",
     "",
     "  -U                         do not sort; list entries in directory order",
     "  -v                         natural sort of (version) numbers within text",
     "  -w, --width=COLS           set output width to COLS.  0 means no limit",
     "  -x                         list entries by lines instead of by columns",
     "  -X                         sort alphabetically by entry extension",
     "  -Z, --context              print any security context of each file",
     "      --zero                 end each output line with NUL, not newline",
     "  -1                         list one file per line"]
    ++ selfOptions
    ++ ["",
     "The SIZE argument is an integer and optional unit (example: 10K is 10*1024).",
     "Units are K,M,G,T,P,E,Z,Y (powers of 1024) or KB,MB,... (powers of 1000).",
     "Binary prefixes can be used, too: KiB=K, MiB=M, and so on.",
     "",
     "The TIME_STYLE argument can be full-iso, long-iso, iso, locale, or +FORMAT.",
     "FORMAT is interpreted like in date(1).  If FORMAT is FORMAT1<newline>FORMAT2,",
     "then FORMAT1 applies to non-recent files and FORMAT2 to recent files.",
     "TIME_STYLE prefixed with 'posix-' takes effect only outside the POSIX locale.",
     "Also the TIME_STYLE environment variable sets the default style to use.",
     "",
     "The WHEN argument defaults to 'always' and can also be 'auto' or 'never'.",
     "",
     "Using color to distinguish file types is disabled both by default and",
     "with --color=never.  With --color=auto, ls emits color codes only when",
     "standard output is connected to a terminal.  The LS_COLORS environment",
     "variable can change the settings.  Use the dircolors(1) command to set it.",
     "",
     "Exit status:",
     " 0  if OK,",
     " 1  if minor problems (e.g., cannot access subdirectory),",
     " 2  if serious trouble (e.g., cannot access command-line argument)."]

/-- The program that removes files. -/
def rm : Manual where
  name := "rm"
  forms := ["[OPTION]... [FILE]..."]
  body := ["Remove (unlink) the FILE(s).",
     "",
     "  -f, --force           ignore nonexistent files and arguments, never prompt",
     "  -i                    prompt before every removal",
     "  -I                    prompt once before removing more than three files, or",
     "                          when removing recursively; less intrusive than -i,",
     "                          while still giving protection against most mistakes",
     "      --interactive[=WHEN]  prompt according to WHEN: never, once (-I), or",
     "                          always (-i); without WHEN, prompt always",
     "      --one-file-system  when removing a hierarchy recursively, skip any",
     "                          directory that is on a file system different from",
     "                          that of the corresponding command line argument",
     "      --no-preserve-root  do not treat '/' specially",
     "      --preserve-root[=all]  do not remove '/' (default);",
     "                              with 'all', reject any command line argument",
     "                              on a separate device from its parent",
     "  -r, -R, --recursive   remove directories and their contents recursively",
     "  -d, --dir             remove empty directories",
     "  -v, --verbose         explain what is being done"]
    ++ selfOptions
    ++ ["",
     "By default, rm does not remove directories.  Use the --recursive (-r or -R)",
     "option to remove each listed directory, too, along with all of its contents.",
     "",
     "To remove a file whose name starts with a '-', for example '-foo',",
     "use one of these commands:",
     "  %s -- -foo",
     "",
     "  %s ./-foo",
     "",
     "Note that if you use rm to remove a file, it might be possible to recover",
     "some of its contents, given sufficient expertise and/or time.  For greater",
     "assurance that the contents are truly unrecoverable, consider using shred(1)."]

/-- The program that sets the times of files. -/
def touch : Manual where
  name := "touch"
  forms := ["[OPTION]... FILE..."]
  body := ["Update the access and modification times of each FILE to the current time.",
     "",
     "A FILE argument that does not exist is created empty, unless -c or -h",
     "is supplied.",
     "",
     "A FILE argument string of - is handled specially and causes touch to",
     "change the times of the file associated with standard output."]
    ++ mandatory
    ++ ["  -a                     change only the access time",
     "  -c, --no-create        do not create any files",
     "  -d, --date=STRING      parse STRING and use it instead of current time",
     "  -f                     (ignored)",
     "  -h, --no-dereference   affect each symbolic link instead of any referenced",
     "                         file (useful only on systems that can change the",
     "                         timestamps of a symlink)",
     "  -m                     change only the modification time",
     "  -r, --reference=FILE   use this file's times instead of current time",
     "  -t STAMP               use [[CC]YY]MMDDhhmm[.ss] instead of current time",
     "      --time=WORD        change the specified time:",
     "                           WORD is access, atime, or use: equivalent to -a",
     "                           WORD is modify or mtime: equivalent to -m"]
    ++ selfOptions
    ++ ["",
     "Note that the -d and -t options accept different time-date formats."]

/-- The program that tells the working directory. -/
def pwd : Manual where
  name := "pwd"
  forms := ["[OPTION]..."]
  body := ["Print the full filename of the current working directory.",
     "",
     "  -L, --logical   use PWD from environment, even if it contains symlinks",
     "  -P, --physical  avoid all symlinks"]
    ++ selfOptions
    ++ ["",
     "If no option is specified, -P is assumed."]
    ++ shellNote "pwd"

/-- The program that changes the environment. -/
def env : Manual where
  name := "env"
  forms := ["[OPTION]... [-] [NAME=VALUE]... [COMMAND [ARG]...]"]
  body := ["Set each NAME to VALUE in the environment and run COMMAND."]
    ++ mandatory
    ++ ["  -i, --ignore-environment  start with an empty environment",
     "  -0, --null           end each output line with NUL, not newline",
     "  -u, --unset=NAME     remove variable from the environment",
     "  -C, --chdir=DIR      change working directory to DIR",
     "  -S, --split-string=S  process and split S into separate arguments;",
     "                        used to pass multiple arguments on shebang lines",
     "      --block-signal[=SIG]    block delivery of SIG signal(s) to COMMAND",
     "      --default-signal[=SIG]  reset handling of SIG signal(s) to the default",
     "      --ignore-signal[=SIG]   set handling of SIG signal(s) to do nothing",
     "      --list-signal-handling  list non default signal handling to stderr",
     "  -v, --debug          print verbose information for each processing step"]
    ++ selfOptions
    ++ ["",
     "A mere - implies -i.  If no COMMAND, print the resulting environment.",
     "",
     "SIG may be a signal name like 'PIPE', or a signal number like '13'.",
     "Without SIG, all known signals are included.  Multiple signals can be",
     "comma-separated.  An empty SIG argument is a no-op.",
     "",
     "Exit status:",
     "  125  if the env command itself fails",
     "  126  if COMMAND is found but cannot be invoked",
     "  127  if COMMAND cannot be found",
     "  -    the exit status of COMMAND otherwise"]

/-- The program that prints its arguments. -/
def echo : Manual where
  name := "echo"
  forms := ["[SHORT-OPTION]... [STRING]...",
   "LONG-OPTION"]
  body := ["Echo the STRING(s) to standard output.",
     "",
     "  -n             do not output the trailing newline",
     "  -e             enable interpretation of backslash escapes",
     "  -E             disable interpretation of backslash escapes (default)"]
    ++ selfOptions
    ++ ["",
     "If -e is in effect, the following sequences are recognized:",
     "",
     "  \\\\      backslash",
     "  \\a      alert (BEL)",
     "  \\b      backspace",
     "  \\c      produce no further output",
     "  \\e      escape",
     "  \\f      form feed",
     "  \\n      new line",
     "  \\r      carriage return",
     "  \\t      horizontal tab",
     "  \\v      vertical tab",
     "  \\0NNN   byte with octal value NNN (1 to 3 digits)",
     "  \\xHH    byte with hexadecimal value HH (1 to 2 digits)"]
    ++ shellNote "echo"
    ++ ["",
     "NOTE: printf(1) is a preferred alternative,",
     "which does not have issues outputting option-like strings."]

/-- The program that prints arguments in a format. -/
def printf : Manual where
  name := "printf"
  forms := ["FORMAT [ARGUMENT]...",
   "OPTION"]
  body := ["Print ARGUMENT(s) according to FORMAT, or execute according to OPTION:",
     ""]
    ++ selfOptions
    ++ ["",
     "FORMAT controls the output as in C printf.  Interpreted sequences are:",
     "",
     "  \\\"      double quote",
     "  \\\\      backslash",
     "  \\a      alert (BEL)",
     "  \\b      backspace",
     "  \\c      produce no further output",
     "  \\e      escape",
     "  \\f      form feed",
     "  \\n      new line",
     "  \\r      carriage return",
     "  \\t      horizontal tab",
     "  \\v      vertical tab",
     "  \\NNN    byte with octal value NNN (1 to 3 digits)",
     "  \\xHH    byte with hexadecimal value HH (1 to 2 digits)",
     "  \\uHHHH  Unicode (ISO/IEC 10646) character with hex value HHHH (4 digits)",
     "  \\UHHHHHHHH  Unicode character with hex value HHHHHHHH (8 digits)",
     "  %%      a single %",
     "  %b      ARGUMENT as a string with '\\' escapes interpreted,",
     "          except that octal escapes are of the form \\0 or \\0NNN",
     "  %q      ARGUMENT is printed in a format that can be reused as shell input,",
     "          escaping non-printable characters with the proposed POSIX $'' syntax.",
     "",
     "and all C format specifications ending with one of diouxXfeEgGcs, with",
     "ARGUMENTs converted to proper type first.  Variable widths are handled."]
    ++ shellNote "printf"

def succeeding : Manual where
  name := "true"
  forms := ["[ignored command line arguments]",
   "OPTION"]
  body := ["Exit with a status code indicating success.",
     ""]
    ++ selfOptions ++ shellNote "true"

def failing : Manual where
  name := "false"
  forms := ["[ignored command line arguments]",
   "OPTION"]
  body := ["Exit with a status code indicating failure.",
     ""]
    ++ selfOptions ++ shellNote "false"

/-- The program that rests. -/
def sleep : Manual where
  name := "sleep"
  forms := ["NUMBER[SUFFIX]...",
   "OPTION"]
  body := ["Pause for NUMBER seconds.  SUFFIX may be 's' for seconds (the default),",
     "'m' for minutes, 'h' for hours or 'd' for days.  NUMBER need not be an",
     "integer.  Given two or more arguments, pause for the amount of time",
     "specified by the sum of their values.",
     ""]
    ++ selfOptions

end Relay.Userland.Manual
