import Relay.Userland.Manual.Basic

/-!
# Texts of programs for lines

The help texts of the programs that print, count, sort and change lines.
-/

namespace Relay.Userland.Manual

/-- The program that joins files. -/
def cat : Manual where
  name := "cat"
  forms := ["[OPTION]... [FILE]..."]
  body := ["Concatenate FILE(s) to standard output."]
    ++ inputLines
    ++ ["",
     "  -A, --show-all           equivalent to -vET",
     "  -b, --number-nonblank    number nonempty output lines, overrides -n",
     "  -e                       equivalent to -vE",
     "  -E, --show-ends          display $ at end of each line",
     "  -n, --number             number all output lines",
     "  -s, --squeeze-blank      suppress repeated empty output lines",
     "  -t                       equivalent to -vT",
     "  -T, --show-tabs          display TAB characters as ^I",
     "  -u                       (ignored)",
     "  -v, --show-nonprinting   use ^ and M- notation, except for LFD and TAB"]
    ++ selfOptions
    ++ ["",
     "Examples:",
     "  %s f - g  Output f's contents, then standard input, then g's contents.",
     "  %s        Copy standard input to standard output."]

/-- The program that prints the starts of files. -/
def head : Manual where
  name := "head"
  forms := ["[OPTION]... [FILE]..."]
  body := ["Print the first 10 lines of each FILE to standard output.",
     "With more than one FILE, precede each with a header giving the file name."]
    ++ inputLines ++ mandatory
    ++ ["  -c, --bytes=[-]NUM       print the first NUM bytes of each file;",
     "                             with the leading '-', print all but the last",
     "                             NUM bytes of each file",
     "  -n, --lines=[-]NUM       print the first NUM lines instead of the first 10;",
     "                             with the leading '-', print all but the last",
     "                             NUM lines of each file",
     "  -q, --quiet, --silent    never print headers giving file names",
     "  -v, --verbose            always print headers giving file names",
     "  -z, --zero-terminated    line delimiter is NUL, not newline"]
    ++ selfOptions
    ++ ["",
     "NUM may have a multiplier suffix:",
     "b 512, kB 1000, K 1024, MB 1000*1000, M 1024*1024,",
     "GB 1000*1000*1000, G 1024*1024*1024, and so on for T, P, E, Z, Y.",
     "Binary prefixes can be used, too: KiB=K, MiB=M, and so on."]

/-- The program that prints the ends of files. -/
def tail : Manual where
  name := "tail"
  forms := ["[OPTION]... [FILE]..."]
  body := ["Print the last 10 lines of each FILE to standard output.",
     "With more than one FILE, precede each with a header giving the file name."]
    ++ inputLines ++ mandatory
    ++ ["  -c, --bytes=[+]NUM       output the last NUM bytes; or use -c +NUM to",
     "                             output starting with byte NUM of each file",
     "  -f, --follow[=\x7bname|descriptor\x7d]",
     "                           output appended data as the file grows;",
     "                             an absent option argument means 'descriptor'",
     "  -F                       same as --follow=name --retry",
     "  -n, --lines=[+]NUM       output the last NUM lines, instead of the last 10;",
     "                             or use -n +NUM to output starting with line NUM",
     "      --max-unchanged-stats=N",
     "                           with --follow=name, reopen a FILE which has not",
     "                             changed size after N (default 5) iterations",
     "                             to see if it has been unlinked or renamed",
     "                             (this is the usual case of rotated log files);",
     "                             with inotify, this option is rarely useful",
     "      --pid=PID            with -f, terminate after process ID, PID dies",
     "  -q, --quiet, --silent    never output headers giving file names",
     "      --retry              keep trying to open a file if it is inaccessible",
     "  -s, --sleep-interval=N   with -f, sleep for approximately N seconds",
     "                             (default 1.0) between iterations;",
     "                             with inotify and --pid=P, check process P at",
     "                             least once every N seconds",
     "  -v, --verbose            always output headers giving file names",
     "  -z, --zero-terminated    line delimiter is NUL, not newline"]
    ++ selfOptions
    ++ ["",
     "NUM may have a multiplier suffix:",
     "b 512, kB 1000, K 1024, MB 1000*1000, M 1024*1024,",
     "GB 1000*1000*1000, G 1024*1024*1024, and so on for T, P, E, Z, Y.",
     "Binary prefixes can be used, too: KiB=K, MiB=M, and so on.",
     "",
     "With --follow (-f), tail defaults to following the file descriptor, which",
     "means that even if a tail'ed file is renamed, tail will continue to track",
     "its end.  This default behavior is not desirable when you really want to",
     "track the actual name of the file, not the file descriptor (e.g., log",
     "rotation).  Use --follow=name in that case.  That causes tail to track the",
     "named file in a way that accommodates renaming, removal and creation."]

/-- The program that counts lines, words and bytes. -/
def wc : Manual where
  name := "wc"
  forms := ["[OPTION]... [FILE]...",
   "[OPTION]... --files0-from=F"]
  body := ["Print newline, word, and byte counts for each FILE, and a total line if",
     "more than one FILE is specified.  A word is a non-zero-length sequence of",
     "printable characters delimited by white space."]
    ++ inputLines
    ++ ["",
     "The options below may be used to select which counts are printed, always in",
     "the following order: newline, word, character, byte, maximum line length.",
     "  -c, --bytes            print the byte counts",
     "  -m, --chars            print the character counts",
     "  -l, --lines            print the newline counts",
     "      --files0-from=F    read input from the files specified by",
     "                           NUL-terminated names in file F;",
     "                           If F is - then read names from standard input",
     "  -L, --max-line-length  print the maximum display width",
     "  -w, --words            print the word counts"]
    ++ selfOptions

/-- The program that sorts lines. -/
def sort : Manual where
  name := "sort"
  forms := ["[OPTION]... [FILE]...",
   "[OPTION]... --files0-from=F"]
  body := ["Write sorted concatenation of all FILE(s) to standard output."]
    ++ inputLines ++ mandatory
    ++ ["Ordering options:",
     "",
     "  -b, --ignore-leading-blanks  ignore leading blanks",
     "  -d, --dictionary-order      consider only blanks and alphanumeric characters",
     "  -f, --ignore-case           fold lower case to upper case characters",
     "  -g, --general-numeric-sort  compare according to general numerical value",
     "  -i, --ignore-nonprinting    consider only printable characters",
     "  -M, --month-sort            compare (unknown) < 'JAN' < ... < 'DEC'",
     "  -h, --human-numeric-sort    compare human readable numbers (e.g., 2K 1G)",
     "  -n, --numeric-sort          compare according to string numerical value",
     "  -R, --random-sort           shuffle, but group identical keys.  See shuf(1)",
     "      --random-source=FILE    get random bytes from FILE",
     "  -r, --reverse               reverse the result of comparisons",
     "      --sort=WORD             sort according to WORD:",
     "                                general-numeric -g, human-numeric -h, month -M,",
     "                                numeric -n, random -R, version -V",
     "  -V, --version-sort          natural sort of (version) numbers within text",
     "",
     "Other options:",
     "",
     "      --batch-size=NMERGE   merge at most NMERGE inputs at once;",
     "                            for more use temp files",
     "  -c, --check, --check=diagnose-first  check for sorted input; do not sort",
     "  -C, --check=quiet, --check=silent  like -c, but do not report first bad line",
     "      --compress-program=PROG  compress temporaries with PROG;",
     "                              decompress them with PROG -d",
     "      --debug               annotate the part of the line used to sort,",
     "                              and warn about questionable usage to stderr",
     "      --files0-from=F       read input from the files specified by",
     "                            NUL-terminated names in file F;",
     "                            If F is - then read names from standard input",
     "  -k, --key=KEYDEF          sort via a key; KEYDEF gives location and type",
     "  -m, --merge               merge already sorted files; do not sort",
     "  -o, --output=FILE         write result to FILE instead of standard output",
     "  -s, --stable              stabilize sort by disabling last-resort comparison",
     "  -S, --buffer-size=SIZE    use SIZE for main memory buffer",
     "  -t, --field-separator=SEP  use SEP instead of non-blank to blank transition",
     "  -T, --temporary-directory=DIR  use DIR for temporaries, not $TMPDIR or /tmp;",
     "                              multiple options specify multiple directories",
     "      --parallel=N          change the number of sorts run concurrently to N",
     "  -u, --unique              with -c, check for strict ordering;",
     "                              without -c, output only the first of an equal run",
     "  -z, --zero-terminated     line delimiter is NUL, not newline"]
    ++ selfOptions
    ++ ["",
     "KEYDEF is F[.C][OPTS][,F[.C][OPTS]] for start and stop position, where F is a",
     "field number and C a character position in the field; both are origin 1, and",
     "the stop position defaults to the line's end.  If neither -t nor -b is in",
     "effect, characters in a field are counted from the beginning of the preceding",
     "whitespace.  OPTS is one or more single-letter ordering options [bdfgiMhnRrV],",
     "which override global ordering options for that key.  If no key is given, use",
     "the entire line as the key.  Use --debug to diagnose incorrect key usage.",
     "",
     "SIZE may be followed by the following multiplicative suffixes:",
     "% 1% of memory, b 1, K 1024 (default), and so on for M, G, T, P, E, Z, Y.",
     "",
     "*** WARNING ***",
     "The locale specified by the environment affects sort order.",
     "Set LC_ALL=C to get the traditional sort order that uses",
     "native byte values."]

/-- The program that joins repeated lines. -/
def uniq : Manual where
  name := "uniq"
  forms := ["[OPTION]... [INPUT [OUTPUT]]"]
  body := ["Filter adjacent matching lines from INPUT (or standard input),",
     "writing to OUTPUT (or standard output).",
     "",
     "With no options, matching lines are merged to the first occurrence."]
    ++ mandatory
    ++ ["  -c, --count           prefix lines by the number of occurrences",
     "  -d, --repeated        only print duplicate lines, one for each group",
     "  -D                    print all duplicate lines",
     "      --all-repeated[=METHOD]  like -D, but allow separating groups",
     "                                 with an empty line;",
     "                                 METHOD=\x7bnone(default),prepend,separate\x7d",
     "  -f, --skip-fields=N   avoid comparing the first N fields",
     "      --group[=METHOD]  show all items, separating groups with an empty line;",
     "                          METHOD=\x7bseparate(default),prepend,append,both\x7d",
     "  -i, --ignore-case     ignore differences in case when comparing",
     "  -s, --skip-chars=N    avoid comparing the first N characters",
     "  -u, --unique          only print unique lines",
     "  -z, --zero-terminated     line delimiter is NUL, not newline",
     "  -w, --check-chars=N   compare no more than N characters in lines"]
    ++ selfOptions
    ++ ["",
     "A field is a run of blanks (usually spaces and/or TABs), then non-blank",
     "characters.  Fields are skipped before chars.",
     "",
     "Note: 'uniq' does not detect repeated lines unless they are adjacent.",
     "You may want to sort the input first, or use 'sort -u' without 'uniq'."]

/-- The program that exchanges characters. -/
def tr : Manual where
  name := "tr"
  forms := ["[OPTION]... STRING1 [STRING2]"]
  body := ["Translate, squeeze, and/or delete characters from standard input,",
     "writing to standard output.  STRING1 and STRING2 specify arrays of",
     "characters ARRAY1 and ARRAY2 that control the action.",
     "",
     "  -c, -C, --complement    use the complement of ARRAY1",
     "  -d, --delete            delete characters in ARRAY1, do not translate",
     "  -s, --squeeze-repeats   replace each sequence of a repeated character",
     "                            that is listed in the last specified ARRAY,",
     "                            with a single occurrence of that character",
     "  -t, --truncate-set1     first truncate ARRAY1 to length of ARRAY2"]
    ++ selfOptions
    ++ ["",
     "ARRAYs are specified as strings of characters.  Most represent themselves.",
     "Interpreted sequences are:",
     "",
     "  \\NNN            character with octal value NNN (1 to 3 octal digits)",
     "  \\\\              backslash",
     "  \\a              audible BEL",
     "  \\b              backspace",
     "  \\f              form feed",
     "  \\n              new line",
     "  \\r              return",
     "  \\t              horizontal tab",
     "  \\v              vertical tab",
     "  CHAR1-CHAR2     all characters from CHAR1 to CHAR2 in ascending order",
     "  [CHAR*]         in ARRAY2, copies of CHAR until length of ARRAY1",
     "  [CHAR*REPEAT]   REPEAT copies of CHAR, REPEAT octal if starting with 0",
     "  [:alnum:]       all letters and digits",
     "  [:alpha:]       all letters",
     "  [:blank:]       all horizontal whitespace",
     "  [:cntrl:]       all control characters",
     "  [:digit:]       all digits",
     "  [:graph:]       all printable characters, not including space",
     "  [:lower:]       all lower case letters",
     "  [:print:]       all printable characters, including space",
     "  [:punct:]       all punctuation characters",
     "  [:space:]       all horizontal or vertical whitespace",
     "  [:upper:]       all upper case letters",
     "  [:xdigit:]      all hexadecimal digits",
     "  [=CHAR=]        all characters which are equivalent to CHAR",
     "",
     "Translation occurs if -d is not given and both STRING1 and STRING2 appear.",
     "-t is only significant when translating.  ARRAY2 is extended to length of",
     "ARRAY1 by repeating its last character as necessary.  Excess characters",
     "of ARRAY2 are ignored.  Character classes expand in unspecified order;",
     "while translating, [:lower:] and [:upper:] may be used in pairs to",
     "specify case conversion.  Squeezing occurs after translation or deletion."]

/-- The program that dumps bytes. -/
def od : Manual where
  name := "od"
  forms := ["[OPTION]... [FILE]...",
   "[-abcdfilosx]... [FILE] [[+]OFFSET[.][b]]",
   "--traditional [OPTION]... [FILE] [[+]OFFSET[.][b] [+][LABEL][.][b]]"]
  body := ["",
     "Write an unambiguous representation, octal bytes by default,",
     "of FILE to standard output.  With more than one FILE argument,",
     "concatenate them in the listed order to form the input."]
    ++ inputLines
    ++ ["",
     "If first and second call formats both apply, the second format is assumed",
     "if the last operand begins with + or (if there are 2 operands) a digit.",
     "An OFFSET operand means -j OFFSET.  LABEL is the pseudo-address",
     "at first byte printed, incremented when dump is progressing.",
     "For OFFSET and LABEL, a 0x or 0X prefix indicates hexadecimal;",
     "suffixes may be . for octal and b for multiply by 512."]
    ++ mandatory
    ++ ["  -A, --address-radix=RADIX   output format for file offsets; RADIX is one",
     "                                of [doxn], for Decimal, Octal, Hex or None",
     "      --endian=\x7bbig|little\x7d   swap input bytes according the specified order",
     "  -j, --skip-bytes=BYTES      skip BYTES input bytes first",
     "  -N, --read-bytes=BYTES      limit dump to BYTES input bytes",
     "  -S BYTES, --strings[=BYTES]  show only NUL terminated strings",
     "                                of at least BYTES (3) printable characters",
     "  -t, --format=TYPE           select output format or formats",
     "  -v, --output-duplicates     do not use * to mark line suppression",
     "  -w[BYTES], --width[=BYTES]  output BYTES bytes per output line;",
     "                                32 is implied when BYTES is not specified",
     "      --traditional           accept arguments in third form above"]
    ++ selfOptions
    ++ ["",
     "",
     "Traditional format specifications may be intermixed; they accumulate:",
     "  -a   same as -t a,  select named characters, ignoring high-order bit",
     "  -b   same as -t o1, select octal bytes",
     "  -c   same as -t c,  select printable characters or backslash escapes",
     "  -d   same as -t u2, select unsigned decimal 2-byte units",
     "  -f   same as -t fF, select floats",
     "  -i   same as -t dI, select decimal ints",
     "  -l   same as -t dL, select decimal longs",
     "  -o   same as -t o2, select octal 2-byte units",
     "  -s   same as -t d2, select decimal 2-byte units",
     "  -x   same as -t x2, select hexadecimal 2-byte units",
     "",
     "",
     "TYPE is made up of one or more of these specifications:",
     "  a          named character, ignoring high-order bit",
     "  c          printable character or backslash escape",
     "  d[SIZE]    signed decimal, SIZE bytes per integer",
     "  f[SIZE]    floating point, SIZE bytes per float",
     "  o[SIZE]    octal, SIZE bytes per integer",
     "  u[SIZE]    unsigned decimal, SIZE bytes per integer",
     "  x[SIZE]    hexadecimal, SIZE bytes per integer",
     "",
     "SIZE is a number.  For TYPE in [doux], SIZE may also be C for",
     "sizeof(char), S for sizeof(short), I for sizeof(int) or L for",
     "sizeof(long).  If TYPE is f, SIZE may also be F for sizeof(float), D",
     "for sizeof(double) or L for sizeof(long double).",
     "",
     "Adding a z suffix to any type displays printable characters at the end of",
     "each output line.",
     "",
     "",
     "BYTES is hex with 0x or 0X prefix, and may have a multiplier suffix:",
     "  b    512",
     "  KB   1000",
     "  K    1024",
     "  MB   1000*1000",
     "  M    1024*1024",
     "and so on for G, T, P, E, Z, Y.",
     "Binary prefixes can be used, too: KiB=K, MiB=M, and so on."]

/-- The program that counts. -/
def seq : Manual where
  name := "seq"
  forms := ["[OPTION]... LAST",
   "[OPTION]... FIRST LAST",
   "[OPTION]... FIRST INCREMENT LAST"]
  body := ["Print numbers from FIRST to LAST, in steps of INCREMENT."]
    ++ mandatory
    ++ ["  -f, --format=FORMAT      use printf style floating-point FORMAT",
     "  -s, --separator=STRING   use STRING to separate numbers (default: \\n)",
     "  -w, --equal-width        equalize width by padding with leading zeroes"]
    ++ selfOptions
    ++ ["",
     "If FIRST or INCREMENT is omitted, it defaults to 1.  That is, an",
     "omitted INCREMENT defaults to 1 even when LAST is smaller than FIRST.",
     "The sequence of numbers ends when the sum of the current number and",
     "INCREMENT would become greater than LAST.",
     "FIRST, INCREMENT, and LAST are interpreted as floating point values.",
     "INCREMENT is usually positive if FIRST is smaller than LAST, and",
     "INCREMENT is usually negative if FIRST is greater than LAST.",
     "INCREMENT must not be 0; none of FIRST, INCREMENT and LAST may be NaN.",
     "FORMAT must be suitable for printing one argument of type 'double';",
     "it defaults to %.PRECf if FIRST, INCREMENT, and LAST are all fixed point",
     "decimal numbers with maximum precision PREC, and to %g otherwise."]

/-- The program that edits lines. -/
def sed : Manual where
  name := "sed"
  forms := ["[OPTION]... \x7bscript-only-if-no-other-script\x7d [input-file]..."]
  body := ["",
     "  -n, --quiet, --silent",
     "                 suppress automatic printing of pattern space",
     "      --debug",
     "                 annotate program execution",
     "  -e script, --expression=script",
     "                 add the script to the commands to be executed",
     "  -f script-file, --file=script-file",
     "                 add the contents of script-file to the commands to be executed",
     "  --follow-symlinks",
     "                 follow symlinks when processing in place",
     "  -i[SUFFIX], --in-place[=SUFFIX]",
     "                 edit files in place (makes backup if SUFFIX supplied)",
     "  -l N, --line-length=N",
     "                 specify the desired line-wrap length for the \x60l' command",
     "  --posix",
     "                 disable all %m extensions.",
     "  -E, -r, --regexp-extended",
     "                 use extended regular expressions in the script",
     "                 (for portability use POSIX -E).",
     "  -s, --separate",
     "                 consider files as separate rather than as a single,",
     "                 continuous long stream.",
     "      --sandbox",
     "                 operate in sandbox mode (disable e/r/w commands).",
     "  -u, --unbuffered",
     "                 load minimal amounts of data from the input files and flush",
     "                 the output buffers more often",
     "  -z, --null-data",
     "                 separate lines by NUL characters",
     "      --help     display this help and exit",
     "      --version  output version information and exit",
     "",
     "If no -e, --expression, -f, or --file option is given, then the first",
     "non-option argument is taken as the sed script to interpret.  All",
     "remaining arguments are names of input files; if no input files are",
     "specified, then the standard input is read."]

/-- The program that selects lines. -/
def grep : Manual where
  name := "grep"
  forms := ["[OPTION]... PATTERNS [FILE]..."]
  body := ["Search for PATTERNS in each FILE.",
     "Example: grep -i 'hello world' menu.h main.c",
     "PATTERNS can contain multiple patterns separated by newlines.",
     "",
     "Pattern selection and interpretation:",
     "  -E, --extended-regexp     PATTERNS are extended regular expressions",
     "  -F, --fixed-strings       PATTERNS are strings",
     "  -G, --basic-regexp        PATTERNS are basic regular expressions",
     "  -P, --perl-regexp         PATTERNS are Perl regular expressions",
     "  -e, --regexp=PATTERNS     use PATTERNS for matching",
     "  -f, --file=FILE           take PATTERNS from FILE",
     "  -i, --ignore-case         ignore case distinctions in patterns and data",
     "      --no-ignore-case      do not ignore case distinctions (default)",
     "  -w, --word-regexp         match only whole words",
     "  -x, --line-regexp         match only whole lines",
     "  -z, --null-data           a data line ends in 0 byte, not newline",
     "",
     "Miscellaneous:",
     "  -s, --no-messages         suppress error messages",
     "  -v, --invert-match        select non-matching lines",
     "  -V, --version             display version information and exit",
     "      --help                display this help text and exit",
     "",
     "Output control:",
     "  -m, --max-count=NUM       stop after NUM selected lines",
     "  -b, --byte-offset         print the byte offset with output lines",
     "  -n, --line-number         print line number with output lines",
     "      --line-buffered       flush output on every line",
     "  -H, --with-filename       print file name with output lines",
     "  -h, --no-filename         suppress the file name prefix on output",
     "      --label=LABEL         use LABEL as the standard input file name prefix",
     "  -o, --only-matching       show only nonempty parts of lines that match",
     "  -q, --quiet, --silent     suppress all normal output",
     "      --binary-files=TYPE   assume that binary files are TYPE;",
     "                            TYPE is 'binary', 'text', or 'without-match'",
     "  -a, --text                equivalent to --binary-files=text",
     "  -I                        equivalent to --binary-files=without-match",
     "  -d, --directories=ACTION  how to handle directories;",
     "                            ACTION is 'read', 'recurse', or 'skip'",
     "  -D, --devices=ACTION      how to handle devices, FIFOs and sockets;",
     "                            ACTION is 'read' or 'skip'",
     "  -r, --recursive           like --directories=recurse",
     "  -R, --dereference-recursive  likewise, but follow all symlinks",
     "      --include=GLOB        search only files that match GLOB (a file pattern)",
     "      --exclude=GLOB        skip files that match GLOB",
     "      --exclude-from=FILE   skip files that match any file pattern from FILE",
     "      --exclude-dir=GLOB    skip directories that match GLOB",
     "  -L, --files-without-match  print only names of FILEs with no selected lines",
     "  -l, --files-with-matches  print only names of FILEs with selected lines",
     "  -c, --count               print only a count of selected lines per FILE",
     "  -T, --initial-tab         make tabs line up (if needed)",
     "  -Z, --null                print 0 byte after FILE name",
     "",
     "Context control:",
     "  -B, --before-context=NUM  print NUM lines of leading context",
     "  -A, --after-context=NUM   print NUM lines of trailing context",
     "  -C, --context=NUM         print NUM lines of output context",
     "  -NUM                      same as --context=NUM",
     "      --group-separator=SEP  print SEP on line between matches with context",
     "      --no-group-separator  do not print separator for matches with context",
     "      --color[=WHEN],",
     "      --colour[=WHEN]       use markers to highlight the matching strings;",
     "                            WHEN is 'always', 'never', or 'auto'",
     "  -U, --binary              do not strip CR characters at EOL (MSDOS/Windows)",
     "",
     "When FILE is '-', read standard input.  With no FILE, read '.' if",
     "recursive, '-' otherwise.  With fewer than two FILEs, assume -h.",
     "Exit status is 0 if any line is selected, 1 otherwise;",
     "if any error occurs and -q is not given, the exit status is 2."]
  shortened := true

end Relay.Userland.Manual
