import Relay.Shell.Grammar

/-!
# Reading shell commands

Scripts are read one complete line at a time, so that the commands before a mistake still run.
`readUnit` answers the next command and where reading goes on.
-/

namespace Relay.Shell

/-! ## Mistakes -/

/-- What stands at a place in a script. -/
inductive Ahead where
  | endOfFile
  | newline
  | operator (text : String)
  /-- The characters up to the next blank or operator. -/
  | word (raw : List Char)
  deriving DecidableEq

/-- Why a script cannot be read. -/
inductive Mistake where
  | unexpected (what : Ahead) (wanted : Option String)
  | openQuote
  | openBrace
  | openArithmetic
  | openBackquote
  | wordExpected (what : Ahead)
  | badLoopVariable
  | badFunctionName

/-- Words that mean something at the start of a command. -/
def reserved : List String :=
  ["if", "then", "else", "elif", "fi", "while", "until", "for", "do", "done", "in", "case", "esac",
    "\x7b", "\x7d", "!"]

/-- What stands at a place, as a complaint names it. -/
def Ahead.shown : Ahead → String
  | .endOfFile => "end of file"
  | .newline => "newline"
  | .operator text =>
    if text.startsWith "<" || text.startsWith ">" then "redirection" else "\"" ++ text ++ "\""
  | .word raw =>
    if reserved.contains (String.ofList raw) then "\"" ++ String.ofList raw ++ "\"" else "word"

def Mistake.message : Mistake → String
  | .unexpected what none => "Syntax error: " ++ what.shown ++ " unexpected"
  | .unexpected what (some wanted) =>
    "Syntax error: " ++ what.shown ++ " unexpected (expecting \"" ++ wanted ++ "\")"
  | .openQuote => "Syntax error: Unterminated quoted string"
  | .openBrace => "Syntax error: Missing '\x7d'"
  | .openArithmetic => "Syntax error: Missing '))'"
  | .openBackquote => "Syntax error: EOF in backquote substitution"
  | .wordExpected what => "Syntax error: " ++ what.shown ++ " unexpected (expecting word)"
  | .badLoopVariable => "Syntax error: Bad for loop variable"
  | .badFunctionName => "Syntax error: Bad function name"

/-! ## Places in a script -/

/-- A place in a script: the characters from it on, its line, and how many lines of text that
commands before it read were taken out behind its line. -/
structure Source where
  rest : List Char
  line : Nat := 1
  takenOut : Nat := 0
  /-- Names that stand for other texts. -/
  aliases : List (List Char × List Char) := []
  /-- The names whose texts are being read, and how many characters are left behind each text. -/
  unfolding : List (List Char × Nat) := []
  /-- For each text that ended in a blank, so that the next word can be such a name as well, how
  many characters are left behind it. -/
  unfoldsNext : List Nat := []
  /-- In a text of its own, the line on which that text ends. -/
  lastLine : Option Nat := none

/-- A reader of a part of a script; a mistake tells the line. -/
abbrev Reading := StateT Source (Except (Mistake × Nat))

/-- How many lines are read before a mistake is seen: all that are left if an end is missing, and
the current one if its end is what should not be there. -/
def Mistake.linesRead (rest : List Char) : Mistake → Nat
  | .unexpected .newline _ => 1
  | .wordExpected .newline => 1
  | .badLoopVariable => if rest.head? = some '\n' then 1 else 0
  | .openQuote => rest.count '\n'
  | .openBrace => rest.count '\n'
  | .openArithmetic => rest.count '\n'
  | .openBackquote => rest.count '\n'
  | _ => 0

/-- Gives up with a mistake.  What is open at the end of a text of its own is told of the line of
that end, and a quotation mark is not told of. -/
def mistaken {α : Type} (m : Mistake) : Reading α := do
  let s ← get
  match s.lastLine, m with
  | some line, .openQuote => throw (.openBrace, line)
  | some line, .openBrace => throw (.openBrace, line)
  | some line, .openArithmetic => throw (.openArithmetic, line)
  | _, _ => throw (m, s.line + m.linesRead s.rest)

def drop (n : Nat) : Reading Unit := modify fun s =>
  let feeds := (s.rest.take n).count '\n'
  if feeds = 0 then { s with rest := s.rest.drop n }
  else { s with rest := s.rest.drop n, line := s.line + feeds + s.takenOut, takenOut := 0 }

/-! ## What stands ahead -/

def endsWord (c : Char) : Bool := " \t\n;&|<>()".toList.contains c

/-- Characters that mean nothing to a shell. -/
def isPlain (c : Char) : Bool := isNameChar c || "%+,-./:@".toList.contains c

/-- Skips blanks, continued lines and a comment. -/
def skipBlanks : Nat → List Char → List Char
  | n + 1, ' ' :: cs => skipBlanks n cs
  | n + 1, '\t' :: cs => skipBlanks n cs
  | n + 1, '\\' :: '\n' :: cs => skipBlanks n cs
  | _, '#' :: cs => cs.dropWhile (· != '\n')
  | _, cs => cs

/-- Puts together what stands here on several lines with a backslash at their ends, up to the first
character that could change what a backslash means; answers how many ends of lines were left out. -/
def joined : List Char → Nat × List Char
  | '\\' :: '\n' :: cs =>
    let (n, rest) := joined cs
    (n + 1, rest)
  | c :: cs =>
    if " \t\n\\'\"\x60#".toList.contains c then (0, c :: cs)
    else
      let (n, rest) := joined cs
      (n, c :: rest)
  | [] => (0, [])

/-- Puts together what stands here on several lines, behind some characters. -/
def join (before : Nat) : Reading Unit := modify fun s =>
  let (n, rest) := joined (s.rest.drop before)
  if n = 0 then s else { s with rest := s.rest.take before ++ rest, line := s.line + n }

/-- Skips what does not count before a word. -/
def skip : Reading Unit := do
  let s ← get
  drop (s.rest.length - (skipBlanks s.rest.length s.rest).length)
  join 0

/-- The operators, longer ones before their beginnings. -/
def operators : List String :=
  ["&&", "||", ";;", "<&", ">&", ">>", ">|", "<>", "<<-", "<<", "<", ">", ";", "&", "|", "(",
    ")"]

/-- What stands at a place. -/
def aheadOf (cs : List Char) : Ahead :=
  match cs with
  | [] => .endOfFile
  | '\n' :: _ => .newline
  | _ =>
    match operators.find? fun o => o.toList.isPrefixOf cs with
    | some o => .operator o
    | none => .word (cs.takeWhile fun c => !endsWord c)

def look : Reading Ahead := do
  skip
  return aheadOf (← get).rest

/-- Refuses what stands ahead. -/
def refuse {α : Type} (wanted : Option String) : Reading α := do
  mistaken (.unexpected (← look) wanted)

/-- Reads an operator or a reserved word that must stand here. -/
def expect (text : String) : Reading Unit := do
  match ← look with
  | .operator o => if o = text then drop o.length else refuse (some text)
  | .word raw => if raw = text.toList then drop raw.length else refuse (some text)
  | _ => refuse (some text)

/-- The text that a name stands for here.  A name means itself within its own text. -/
def Source.aliasText? (s : Source) (name : List Char) : Option (List Char) :=
  if s.unfolding.any fun (other, left) => other = name && left < s.rest.length then none
  else s.aliases.lookup name

/-- Puts texts in the place of names that stand for them, as long as the word ahead is one. -/
def unfold : Nat → Reading Unit
  | 0 => pure ()
  | n + 1 => do
    match ← look with
    | .word name =>
      let s ← get
      if reserved.contains (String.ofList name) then pure ()
      else
        match s.aliasText? name with
        | none => pure ()
        | some text =>
          let behind := s.rest.drop name.length
          let endsInBlank := text.getLast?.any fun c => c == ' ' || c == '\t'
          set { s with rest := text ++ behind
                       unfolding := (name, behind.length) :: s.unfolding
                       unfoldsNext := (if endsInBlank then [behind.length] else [])
                         ++ s.unfoldsNext }
          unfold n
    | _ => pure ()

/-- Does so for a word that stands right behind the text of a name that ended in a blank. -/
def unfoldNext (n : Nat) : Reading Unit := do
  skip
  let s ← get
  let (passed, left) := s.unfoldsNext.partition (s.rest.length ≤ ·)
  if !passed.isEmpty then
    set { s with unfoldsNext := left }
    unfold n

def skipLines : Nat → Reading Unit
  | 0 => pure ()
  | n + 1 => do
    match ← look with
    | .newline =>
      drop 1
      skipLines n
    | _ => pure ()

/-! ## Parts of words -/

/-- Where a word, or a part of one, ends. -/
inductive Stop where
  /-- Before a blank or an operator. -/
  | word
  /-- At a quotation mark, perhaps between braces. -/
  | quote (braced : Bool)
  /-- At a closing brace.  Quotation marks between braces that stand between quotes themselves
  protect closing braces; the second flag tells that one of them is open. -/
  | brace (quoted protecting : Bool)
  /-- At the end of a text of its own, in which quotation marks mean nothing. -/
  | text

/-- Whether pieces up to this end stand between quotes. -/
def Stop.isQuoted : Stop → Bool
  | .word => false
  | .quote _ => true
  | .brace quoted _ => quoted
  | .text => true

/-- Before which characters a backslash keeps its meaning within quotes. -/
def Stop.escapes (stop : Stop) (c : Char) : Bool :=
  match stop with
  | .text => "$`\\".toList.contains c
  | .brace _ _ => "$`\"\\\x7d".toList.contains c
  | .quote true => "$`\"\\\x7d".toList.contains c
  | _ => "$`\"\\".toList.contains c

/-- Whether pieces up to this end stand between braces. -/
def Stop.isBraced : Stop → Bool
  | .brace _ _ => true
  | .quote braced => braced
  | _ => false

/-- The text between backquotes, without the backslashes that protect it; between quotes they also
protect quotation marks. -/
def takeBackquoted (quoted : Bool) : List Char → Option (List Char × Nat)
  | [] => none
  | '\x60' :: _ => some ([], 1)
  | '\\' :: c :: cs =>
    let isProtected := c == '\x60' || c == '\\' || c == '$' || (quoted && c == '"')
    (takeBackquoted quoted cs).map fun (t, n) =>
      (if isProtected then c :: t else '\\' :: c :: t, n + 2)
  | c :: cs => (takeBackquoted quoted cs).map fun (t, n) => (c :: t, n + 1)

/-- The text of an arithmetic expression up to the two parentheses that close it. -/
def takeArithmetic : Nat → List Char → Option (List Char × Nat)
  | _, [] => none
  | 0, ')' :: ')' :: _ => some ([], 2)
  | depth, c :: cs =>
    let depth := if c == '(' then depth + 1 else if c == ')' then depth - 1 else depth
    (takeArithmetic depth cs).map fun (t, n) => (c :: t, n + 1)

def isSpecial (c : Char) : Bool := "?$#@*!-".toList.contains c || c.isDigit

/-- The name of a parameter between braces: one special character, a number or a name. -/
def bracedName (cs : List Char) : List Char :=
  match cs with
  | c :: _ =>
    if c.isDigit then cs.takeWhile Char.isDigit
    else if isSpecial c then [c] else cs.takeWhile isNameChar
  | [] => []

/-- The parameter whose size is asked for between braces, and the length of all that is written
there with the closing brace. -/
def sizedParameter? (cs : List Char) : Option (List Char × Nat) :=
  match cs with
  | '#' :: rest =>
    let name := bracedName rest
    match rest.drop name.length with
    | '\x7d' :: _ => if name.isEmpty then none else some (name, name.length + 2)
    | _ => none
  | _ => none

/-- Whether a size is asked for between braces of a sign that names no parameter. -/
def asksNoSize (cs : List Char) : Bool :=
  match cs with
  | '#' :: c :: '\x7d' :: _ => c != '\x7d' && !isNameChar c && !isSpecial c
  | _ => false

/-- What a sign after a parameter's name asks for. -/
def fallbackOf? : Char → Option Fallback
  | '-' => some .substitute
  | '+' => some .replace
  | '=' => some .assign
  | '?' => some .refuse
  | _ => none

/-- The characters up to the end of a line; a backslash can protect it. -/
def takeRow (protects : Bool) : List Char → List Char
  | [] => []
  | '\n' :: _ => []
  | '\\' :: c :: cs => if protects then '\\' :: c :: takeRow protects cs
    else '\\' :: takeRow protects (c :: cs)
  | c :: cs => c :: takeRow protects cs

/-- The lines up to one that is a delimiter, and how many characters and lines to pass over.  Tabs
at the start of lines can be left out, and backslashes can protect the ends of lines. -/
def takeText (delimiter : List Char) (withoutTabs protects : Bool) :
    Nat → List Char → List Char × Nat × Nat
  | 0, _ => ([], 0, 0)
  | _, [] => ([], 0, 0)
  | n + 1, cs =>
    let line := takeRow protects cs
    let length := if line.length < cs.length then line.length + 1 else line.length
    let shown := if withoutTabs then line.dropWhile (· == '\t') else line
    let height := line.count '\n' + 1
    if shown = delimiter then ([], length, height)
    else
      let (text, characters, lines) := takeText delimiter withoutTabs protects n (cs.drop length)
      let feed := if line.length < cs.length then ['\n'] else []
      (shown ++ feed ++ text, length + characters, lines + height)

/-- A word that is taken literally but for its quotation marks: its characters, whether any of it is
quoted, and the rest; nothing if a quotation mark is missing.  The mark that is open is given. -/
def takeLiteral : Option Char → List Char → Option (List Char × Bool × List Char)
  | none, '\\' :: '\n' :: cs => takeLiteral none cs
  | none, '\\' :: c :: cs => (takeLiteral none cs).map fun (t, _, rest) => (c :: t, true, rest)
  | some '"', '\\' :: c :: cs =>
    (takeLiteral (some '"') cs).map fun (t, _, rest) =>
      (if c == '\n' then t else if "$\x60\"\\".toList.contains c then c :: t else '\\' :: c :: t,
        true, rest)
  | none, c :: cs =>
    if c == '\'' || c == '"' then (takeLiteral (some c) cs).map fun (t, _, rest) => (t, true, rest)
    else if endsWord c then some ([], false, c :: cs)
    else (takeLiteral none cs).map fun (t, quoted, rest) => (c :: t, quoted, rest)
  | some mark, c :: cs =>
    if c == mark then (takeLiteral none cs).map fun (t, _, rest) => (t, true, rest)
    else (takeLiteral (some mark) cs).map fun (t, _, rest) => (c :: t, true, rest)
  | none, [] => some ([], false, [])
  | some _, [] => none

/-- How deep in what a place within a line stands: open parentheses, or a kind of quotation mark. -/
inductive Nest where
  | parenthesis
  | marks (c : Char)
  deriving DecidableEq

/-- How many characters there are up to the end of a line; an end between quotation marks or
parentheses does not count. -/
def rowLength : List Nest → List Char → Nat
  | _, [] => 0
  | [], '\n' :: _ => 0
  | .marks '\'' :: outer, c :: cs =>
    rowLength (if c == '\'' then outer else .marks '\'' :: outer) cs + 1
  | nests, '\\' :: _ :: cs => rowLength nests cs + 2
  | nests, '$' :: '(' :: cs => rowLength (.parenthesis :: nests) cs + 2
  | .marks mark :: outer, c :: cs =>
    let nests := if c == mark then outer
      else if mark == '"' && c == '\x60' then .marks c :: .marks mark :: outer
      else .marks mark :: outer
    rowLength nests cs + 1
  | nests, c :: cs =>
    let nests := if c == '\'' || c == '"' || c == '\x60' then .marks c :: nests
      else if c == '(' && !nests.isEmpty then .parenthesis :: nests
      else if c == ')' then nests.tail
      else nests
    rowLength nests cs + 1

/-! ## Commands -/

/-- The reserved words that end a list of commands. -/
def closers : List String := ["then", "else", "elif", "fi", "do", "done", "esac", "\x7d"]

def Ahead.endsList : Ahead → Bool
  | .endOfFile => true
  | .operator o => o = ")" || o = ";;"
  | .word raw => closers.contains (String.ofList raw)
  | .newline => false

/-- The pipeline of some stages; one alone is a command by itself. -/
def Command.ofStages : List Command → Command
  | [stage] => stage
  | stages => .pipe stages

def Command.followedBy (a : Command) : Command → Command
  | .nothing => a
  | b => .sequence a b

mutual

def readPieces : Nat → Stop → Reading Word
  | 0, _ => refuse none
  | n + 1, stop => do
    let quoted := stop.isQuoted
    let s ← get
    match s.rest with
    | [] =>
      match stop with
      | .word => return []
      | .text => return []
      | .quote _ => mistaken .openQuote
      | .brace _ _ => mistaken (if quoted then .openQuote else .openBrace)
    | c :: cs =>
      match stop with
      | .word => if endsWord c then return [] else readPiece n stop c cs
      | .text =>
        if c == '"' then
          drop 1
          return .char c true :: (← readPieces n stop)
        else readPiece n stop c cs
      | .quote _ =>
        if c == '"' then
          drop 1
          return []
        else readPiece n stop c cs
      | .brace _ protecting =>
        if c == '\x7d' && !protecting then
          drop 1
          return []
        else if c == '"' && quoted then
          drop 1
          readPieces n (.brace quoted !protecting)
        else readPiece n stop c cs

/-- Reads one piece, of which a character and what follows it are known, and the pieces after
it. -/
def readPiece : Nat → Stop → Char → List Char → Reading Word
  | 0, _, _, _ => refuse none
  | n + 1, stop, c, cs => do
    let quoted := stop.isQuoted
    match c with
    | '\\' =>
      match cs with
      | '\n' :: _ =>
        drop 2
        readPieces n stop
      | d :: _ =>
        drop 2
        let rest ← readPieces n stop
        if quoted && !stop.escapes d then return .char '\\' true :: .char d true :: rest
        else return .char d true :: rest
      | [] =>
        drop 1
        return .char '\\' true :: (← readPieces n stop)
    | '\'' =>
      if quoted then
        drop 1
        return .char c true :: (← readPieces n stop)
      else
        let inside := cs.takeWhile (· != '\'')
        if inside.length = cs.length then mistaken .openQuote
        drop (inside.length + 2)
        return .quotes :: inside.map (.char · true) ++ (← readPieces n stop)
    | '"' =>
      drop 1
      let inside ← readPieces n (.quote stop.isBraced)
      let rest ← readPieces n stop
      match inside with
      | [.parameter ['@'] _] => return inside ++ rest
      | _ => return .quotes :: inside ++ rest
    | '\x60' =>
      match takeBackquoted quoted cs with
      | none => mistaken .openBackquote
      | some (text, length) =>
        let line := (← get).line
        drop (length + 1)
        let after ← get
        set { after with rest := text, line, takenOut := 0, unfolding := [], lastLine := none }
        let body ← readList n
        match ← look with
        | .endOfFile => pure ()
        | _ => refuse none
        set after
        return .printed body quoted :: (← readPieces n stop)
    | '$' =>
      join 1
      let dollar ← readDollar n quoted ((← get).rest.drop 1)
      return dollar :: (← readPieces n stop)
    | _ =>
      drop 1
      return .char c quoted :: (← readPieces n stop)

/-- Reads what a dollar sign introduces; the sign itself is still to be read. -/
def readDollar : Nat → Bool → List Char → Reading Piece
  | 0, _, _ => refuse none
  | n + 1, quoted, cs => do
    match cs with
    | '(' :: '(' :: more =>
      match takeArithmetic 0 more with
      | none => mistaken .openArithmetic
      | some (text, length) =>
        drop (length + 3)
        let after ← get
        set { after with rest := text, takenOut := 0 }
        let word ← readPieces n .text
        set after
        return .arithmetic word quoted
    | '(' :: _ =>
      drop 2
      let lastLine := (← get).lastLine
      modify fun s => { s with lastLine := none }
      let body ← readList n
      expect ")"
      modify fun s => { s with lastLine }
      return .printed body quoted
    | '\x7b' :: more =>
      drop 2
      join (if more.head? = some '#' then 1 else 0)
      readBraced n quoted (← get).rest
    | c :: _ =>
      if isSpecial c then
        drop 2
        return .parameter [c] quoted
      else
        let name := cs.takeWhile isNameChar
        if isName name then
          drop (name.length + 1)
          return .parameter name quoted
        else
          drop 1
          return .char '$' quoted
    | [] =>
      drop 1
      return .char '$' quoted

/-- Reads a parameter between braces, behind the opening one.  A sign that means nothing is passed
over, even if it is the end of a line. -/
def readBraced : Nat → Bool → List Char → Reading Piece
  | 0, _, _ => refuse none
  | n + 1, quoted, cs => do
    match sizedParameter? cs with
    | some (name, length) =>
      drop length
      return .size name quoted
    | none =>
      let name := bracedName cs
      drop name.length
      let rest := cs.drop name.length
      let withWord (signs : Nat) (kind : Fallback) (emptyCounts : Bool) : Reading Piece := do
        drop signs
        let word ← readPieces n (.brace quoted false)
        return .fallback name kind emptyCounts (withHome (· == '/') word) quoted
      let malformed (signs : Nat) : Reading Piece := do
        modify fun s => { s with rest := s.rest.drop signs }
        let _ ← readPieces n (.brace quoted false)
        return .malformed
      if name.isEmpty then malformed (if cs.head? = some '\x7d' then 0 else 1)
      else if asksNoSize cs then malformed 1
      else
        match rest with
        | '\x7d' :: _ =>
          drop 1
          return .parameter name quoted
        | ':' :: '\x7d' :: _ =>
          drop 2
          let _ ← readPieces n (.brace quoted false)
          return .parameter name quoted
        | ':' :: sign :: _ =>
          match fallbackOf? sign with
          | some kind => withWord 2 kind true
          | none => malformed 2
        | sign :: next :: _ =>
          if sign == '%' || sign == '#' then
            let longest := next == sign
            drop (if longest then 2 else 1)
            return .trimmed name (sign == '%') longest (← readPieces n (.brace false false)) quoted
          else
            match fallbackOf? sign with
            | some kind => withWord 1 kind false
            | none => malformed 1
        | _ => malformed 1

def readList : Nat → Reading Command
  | 0 => refuse none
  | n + 1 => do
    skipLines n
    if (← look).endsList then return .nothing
    let first ← readChain n
    match ← look with
    | .newline => return first.followedBy (← readList n)
    | .operator ";" =>
      drop 1
      return first.followedBy (← readList n)
    | .operator "&" =>
      drop 1
      return (Command.background first).followedBy (← readList n)
    | _ => return first

/-- Reads a list that must not be empty, unless the script ends. -/
def readBody : Nat → Reading Command
  | 0 => refuse none
  | n + 1 => do
    match ← readList n with
    | .nothing =>
      match ← look with
      | .endOfFile => return .nothing
      | _ => refuse none
    | body => return body

/-- Reads pipelines that depend on the success of the ones before. -/
def readChain : Nat → Reading Command
  | 0 => refuse none
  | n + 1 => do readLinks n (← readPipe n)

def readLinks : Nat → Command → Reading Command
  | 0, _ => refuse none
  | n + 1, before => do
    match ← look with
    | .operator "&&" =>
      drop 2
      skipLines n
      readLinks n (.both before (← readPipe n))
    | .operator "||" =>
      drop 2
      skipLines n
      readLinks n (.either before (← readPipe n))
    | _ => return before

def readPipe : Nat → Reading Command
  | 0 => refuse none
  | n + 1 => do
    let ahead ← look
    let line := (← get).line
    match ahead with
    | .word ['!'] =>
      drop 1
      return .negation (Command.ofStages (← readStages n line))
    | _ => return Command.ofStages (← readStages n line)

/-- Reads the stages of a pipeline, in front of which a line ends or goes on. -/
def readStages : Nat → Nat → Reading (List Command)
  | 0, _ => refuse none
  | n + 1, line => do
    let stage ← readCommand n line
    match ← look with
    | .operator "|" =>
      drop 1
      let line := (← get).line
      skipLines n
      return stage :: (← readStages n line)
    | _ => return [stage]

/-- Reads one command; a compound one counts as standing on the given line, even if empty lines
come in between. -/
def readCommand : Nat → Nat → Reading Command
  | 0, _ => refuse none
  | n + 1, line => do
    unfold n
    match ← look with
    | .operator "(" =>
      drop 1
      let body ← readBody n
      expect ")"
      redirect n line (.subshell line body)
    | .word raw =>
      match String.ofList raw with
      | "\x7b" =>
        drop 1
        let body ← readBody n
        expect "\x7d"
        redirect n line body
      | "if" =>
        drop 2
        redirect n line (← readConditional n)
      | "while" =>
        drop 5
        redirect n line (← readLoop n false)
      | "until" =>
        drop 5
        redirect n line (← readLoop n true)
      | "for" =>
        drop 3
        redirect n line (← readEach n line)
      | "case" =>
        drop 4
        match ← look with
        | .word _ =>
          let word ← readWord n
          skipLines n
          expect "in"
          let cases ← readCases n ("in".toList.map (.char · false))
          redirect n line (.choice line word cases)
        | what => mistaken (.wordExpected what)
      | text =>
        if reserved.contains text then refuse none
        else
          let s ← get
          let after := if raw.all isPlain then s.rest.drop raw.length else []
          match skipBlanks after.length after with
          | '(' :: _ =>
            drop raw.length
            expect "("
            expect ")"
            if !isName raw || specialCommands.contains text then mistaken .badFunctionName
            let line := (← get).line
            skipLines n
            return .define raw (← readCommand n line)
          | _ =>
            let (line, assignments, words, redirections) ← readSimple n false
            return .simple line assignments words redirections
    | .operator o =>
      if o.startsWith "<" || o.startsWith ">" then
        let (line, assignments, words, redirections) ← readSimple n false
        return .simple line assignments words redirections
      else refuse none
    | _ => refuse none

def readConditional : Nat → Reading Command
  | 0 => refuse none
  | n + 1 => do
    let test ← readBody n
    expect "then"
    let yes ← readBody n
    match ← look with
    | .word ['e', 'l', 'i', 'f'] =>
      drop 4
      return .conditional test yes (← readConditional n)
    | .word ['e', 'l', 's', 'e'] =>
      drop 4
      let no ← readBody n
      expect "fi"
      return .conditional test yes no
    | _ =>
      expect "fi"
      return .conditional test yes .nothing

def readLoop : Nat → Bool → Reading Command
  | 0, _ => refuse none
  | n + 1, untilSuccess => do
    let test ← readBody n
    expect "do"
    let body ← readBody n
    expect "done"
    return .loop untilSuccess test body

def readEach : Nat → Nat → Reading Command
  | 0, _ => refuse none
  | n + 1, line => do
    match ← look with
    | .word name =>
      if !isName name then mistaken .badLoopVariable
      drop name.length
      skipLines n
      let words ← match ← look with
        | .word ['i', 'n'] =>
          drop 2
          let words ← readWords n
          match ← look with
          | .operator ";" => drop 1
          | .newline => drop 1
          | _ => refuse none
          pure (some words)
        | .operator ";" =>
          drop 1
          pure none
        | _ => pure none
      skipLines n
      expect "do"
      let body ← readBody n
      expect "done"
      return .each line name words body
    | _ => mistaken .badLoopVariable

/-- Reads the cases of a choice up to its end, before which some word came. -/
def readCases : Nat → Word → Reading (List Case)
  | 0, _ => refuse none
  | n + 1, before => do
    skipLines n
    match ← look with
    | .word ['e', 's', 'a', 'c'] =>
      drop 4
      return []
    | .operator "(" => drop 1
    | _ => pure ()
    let patterns ← readPatterns n before
    expect ")"
    let body ← readList n
    match ← look with
    | .operator ";;" =>
      drop 2
      return .mk patterns body :: (← readCases n (patterns.getLastD before))
    | .word ['e', 's', 'a', 'c'] =>
      drop 4
      return [.mk patterns body]
    | _ => refuse (some ";;")

/-- Reads the patterns of one case.  What is no word, where a pattern should be, stands for the word
before it. -/
def readPatterns : Nat → Word → Reading (List Word)
  | 0, _ => refuse none
  | n + 1, before => do
    let pattern ← match ← look with
      | .word _ => readWord n
      | .operator o =>
        drop o.length
        pure before
      | .newline =>
        drop 1
        pure before
      | .endOfFile => pure before
    match ← look with
    | .operator "|" =>
      drop 1
      return pattern :: (← readPatterns n pattern)
    | _ => return [pattern]

/-- Reads a word, which may start with a sign for a home directory. -/
def readWord : Nat → Reading Word
  | 0 => refuse none
  | n + 1 => do return withHome (· == '/') (← readPieces n .word)

def readWords : Nat → Reading (List Word)
  | 0 => refuse none
  | n + 1 => do
    match ← look with
    | .word _ =>
      let word ← readWord n
      return word :: (← readWords n)
    | _ => return []

/-- Reads a redirection, if one stands here. -/
def readRedirection : Nat → Reading (Option Redirection)
  | 0 => refuse none
  | n + 1 => do
    let ahead ← look
    let s ← get
    let digits := match ahead with
      | .word [d] => if d.isDigit then [d] else []
      | _ => []
    match aheadOf (s.rest.drop digits.length) with
    | .operator o =>
      let kind : Option (Nat × Direction) := match o with
        | "<" => some (0, .input)
        | ">" => some (1, .output)
        | ">|" => some (1, .replace)
        | "<>" => some (0, .update)
        | ">>" => some (1, .append)
        | "<<" => some (0, .text)
        | "<<-" => some (0, .text)
        | "<&" => some (0, .copy)
        | ">&" => some (1, .copy)
        | _ => none
      match kind with
      | none => return none
      | some (usual, direction) =>
        drop (digits.length + o.length)
        let descriptor := if digits.isEmpty then usual
          else digits.foldl (fun k c => k * 10 + (c.toNat - 48)) 0
        match ← look with
        | .word _ =>
          if direction = .text then
            return some (.mk descriptor direction (← readText n (o = "<<-")))
          else return some (.mk descriptor direction (← readWord n))
        | _ => refuse none
    | _ => return none

/-- Reads a delimiter, takes out the lines behind the current one up to it and reads them as a text; a
quoted delimiter says that nothing in it is replaced. -/
def readText : Nat → Bool → Reading Word
  | 0, _ => refuse none
  | n + 1, withoutTabs => do
    let before ← get
    match takeLiteral none before.rest with
    | none => mistaken .openQuote
    | some (mark, quoted, rest) =>
      drop (before.rest.length - rest.length)
      let s ← get
      let here := s.rest.take (rowLength [] s.rest)
      let behind := s.rest.drop (here.length + 1)
      let (text, characters, lines) := takeText mark withoutTabs (!quoted) behind.length behind
      let after : Source :=
        { s with rest := s.rest.take (here.length + 1) ++ behind.drop characters,
                 takenOut := s.takenOut + lines }
      if quoted then
        set after
        return text.map (.char · true)
      else
        let unended := text.getLast?.any (· != '\n')
        let last := s.line + lines + if unended then 0 else 1
        set ({ rest := text, line := s.line + 1, lastLine := some last } : Source)
        let word ← readPieces n .text
        set after
        return word

/-- Reads a simple command: the line on which its first word ends, assignments, words and
redirections. -/
def readSimple : Nat → Bool →
    Reading (Nat × List (List Char × Word) × List Word × List Redirection)
  | 0, _ => refuse none
  | n + 1, named => do
    let start := (← get).line
    match ← readRedirection n with
    | some r =>
      let (_, assignments, words, redirections) ← readSimple n named
      return (start, assignments, words, r :: redirections)
    | none =>
      match ← look with
      | .word _ =>
        let word ← readWord n
        let line := (← get).line
        match (if named then none else assignment? word) with
        | some (name, value) =>
          unfold n
          let (_, assignments, words, redirections) ← readSimple n false
          return (line, (name, withHomes value) :: assignments, words, redirections)
        | none =>
          unfoldNext n
          let (_, assignments, words, redirections) ← readSimple n true
          return (line, assignments, word :: words, redirections)
      | .operator "(" => refuse none
      | _ => return (start, [], [], [])

/-- Reads the redirections after a compound command, which starts on some line.  A subshell keeps
only the last redirections: those behind a group that holds nothing but the subshell take the place
of its own. -/
def redirect : Nat → Nat → Command → Reading Command
  | 0, _, _ => refuse none
  | n + 1, line, body => do
    match ← readRedirections n, body with
    | [], _ => return body
    | rs, .redirected _ (.subshell start inner) _ =>
      return .redirected line (.subshell start inner) rs
    | rs, _ => return .redirected line body rs

def readRedirections : Nat → Reading (List Redirection)
  | 0 => refuse none
  | n + 1 => do
    match ← readRedirection n with
    | some r => return r :: (← readRedirections n)
    | none => return []

end

/-! ## Complete lines -/

/-- Reads chains of commands up to the end of a line. -/
def readLine (fuel : Nat) : Nat → Reading Command
  | 0 => refuse none
  | n + 1 => do
    match ← look with
    | .endOfFile => return .nothing
    | .newline =>
      drop 1
      return .nothing
    | _ =>
      let first ← readChain fuel
      match ← look with
      | .operator ";" =>
        drop 1
        return first.followedBy (← readLine fuel n)
      | .operator "&" =>
        drop 1
        return (Command.background first).followedBy (← readLine fuel n)
      | .newline =>
        drop 1
        return first
      | .endOfFile => return first
      | _ => refuse none

/-- Reads the next command of a script; answers nothing at its end. -/
def readUnit (s : Source) : Except (Mistake × Nat) (Option (Command × Source)) :=
  if s.rest.isEmpty then .ok none
  else (readLine (20 * s.rest.length + 100) (s.rest.length + 1) s).map some

end Relay.Shell
