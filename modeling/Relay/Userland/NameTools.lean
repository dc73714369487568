import Relay.Userland.Manual.Names
import Relay.Userland.Options
import Relay.Userland.Printing

/-!
# Tools for names

`pwd` tells the working directory, and `rm` removes files.
-/

namespace Relay.Userland

/-- Prints the working directory. -/
def pwd : Tool := guarded Manual.pwd fun inv t => do
  let rules := [plainOption 'L' ["logical"], plainOption 'P' ["physical"]] ++ selfDescription
  let (_, operands) ← readFlags rules 1 inv
  return { files := t, out := Path.ofLocation inv.cwd ++ [Text.lineFeed], unread := inv.stdin
           err := if operands.isEmpty then []
             else complain inv (ascii "ignoring non-option arguments") }

/-! ## Removing -/

/-- When a removal is asked about. -/
inductive Caution where
  | never
  /-- Once, if many files or whole directories are removed. -/
  | once
  | always
  deriving DecidableEq

structure Removal where
  caution : Caution := .never
  force : Bool := false
  recursive : Bool := false
  emptyFolders : Bool := false
  verbose : Bool := false
  keepsRoot : Bool := true

def rmOptions : List OptionRule :=
  [plainOption 'f' ["force"], plainOption 'i' [], plainOption 'I' [],
    namedOption "interactive" .maybe, namedOption "one-file-system" .never,
    namedOption "no-preserve-root" .never, namedOption "preserve-root" .maybe,
    { key := "r", letters := ['r', 'R'], names := ["recursive"] }, plainOption 'd' ["dir"],
    plainOption 'v' ["verbose"]]
    ++ selfDescription

def cautionChoices : List (List String × Caution) :=
  [(["never", "no", "none"], .never), (["once"], .once), (["always", "yes"], .always)]

/-- Takes an option into account. -/
def Removal.take (inv : Invocation) (o : Removal) (f : Flag) : Except Halt Removal := do
  match f.key with
  | "f" => return { o with force := true, caution := .never }
  | "i" => return { o with force := false, caution := .always }
  | "I" => return { o with force := false, caution := .once }
  | "interactive" =>
    let caution ← match f.value with
      | none => pure Caution.always
      | some v => readChoice inv "--interactive" cautionChoices 1 v
    return { o with caution, force := caution = .never && o.force }
  | "r" => return { o with recursive := true }
  | "d" => return { o with emptyFolders := true }
  | "v" => return { o with verbose := true }
  | "no-preserve-root" =>
    if f.argument ≠ ascii "--no-preserve-root" then
      halt inv (ascii "you may not abbreviate the --no-preserve-root option") 1
    else return { o with keepsRoot := false }
  | "preserve-root" =>
    match f.value with
    | some v =>
      if v ≠ ascii "all" then
        halt inv (ascii "unrecognized --preserve-root argument: " ++ quotedName v) 1
      else return { o with keepsRoot := true }
    | none => return { o with keepsRoot := true }
  | _ => return o

/-- What has been removed so far, and which answers are left. -/
structure RemovalState where
  files : FileTree
  out : Bytes := []
  err : Bytes := []
  failed : Bool := false
  answers : Bytes := []
  asked : Bool := false

/-- Asks a question; the answer is a line that starts with the letter for yes. -/
def RemovalState.ask (s : RemovalState) (inv : Invocation) (question : Bytes) :
    Bool × RemovalState :=
  let line := s.answers.takeWhile (· != Text.lineFeed)
  ((chars line).head?.any fun c => c == 'y' || c == 'Y',
    { s with err := s.err ++ inv.title ++ ascii ": " ++ question ++ ascii "? "
             answers := s.answers.drop (line.length + 1), asked := true })

/-- Complains and goes on. -/
def RemovalState.fail (s : RemovalState) (inv : Invocation) (message : Bytes) : RemovalState :=
  { s with err := s.err ++ complain inv message, failed := true }

/-- Asks a question if a removal is asked about. -/
def Removal.agree (o : Removal) (s : RemovalState) (inv : Invocation) (question : Bytes) :
    Bool × RemovalState :=
  if o.caution = .always then s.ask inv question else (true, s)

/-- Removes a file or directory of a name at a location and, if so asked, everything below it; at
most `n` levels. -/
def Removal.remove (o : Removal) (inv : Invocation) : Nat → Bytes → Location → RemovalState →
    RemovalState
  | 0, _, _, s => s
  | n + 1, name, place, s =>
    let report (what : String) (s : RemovalState) : RemovalState :=
      { s with files := s.files.removeAll place
               out := if o.verbose then s.out ++ ascii what ++ quotedName name ++ [Text.lineFeed]
                 else s.out }
    match s.files.entry? place with
    | some .directory =>
      let inside := s.files.names place
      if inside.isEmpty then
        let (agreed, s) := o.agree s inv (ascii "remove directory " ++ quotedName name)
        if agreed then report "removed directory " s else s
      else
        let (agreed, s) := o.agree s inv (ascii "descend into directory " ++ quotedName name)
        if !agreed then s
        else
          let s := inside.foldl (fun s child =>
            let folder := if name.getLast? = some Path.slash then name.dropLast else name
            remove o inv n (folder ++ Path.slash :: child) (place ++ [child]) s) s
          let (agreed, s) := o.agree s inv (ascii "remove directory " ++ quotedName name)
          if !agreed then s
          else if (s.files.names place).isEmpty then report "removed directory " s
          else
            s.fail inv (ascii "cannot remove " ++ quotedName name ++ ascii ": "
              ++ ascii Errno.notEmpty.text)
    | some e =>
      let kind :=
        match e with
        | .regular k =>
          if (s.files.content k).isEmpty then "regular empty file " else "regular file "
        | .program _ => "regular file "
        | _ => "character special file "
      let (agreed, s) := o.agree s inv (ascii "remove " ++ ascii kind ++ quotedName name)
      if agreed then report "removed " s else s
    | none => s

/-- A name with at most one slash behind it, but for two slashes alone. -/
def trimmedName (name : Bytes) : Bytes :=
  let rest := (name.reverse.dropWhile (· == Path.slash)).reverse
  if name = [Path.slash, Path.slash] then name
  else if rest.length + 1 < name.length then rest ++ [Path.slash]
  else name

def Removal.operand (o : Removal) (inv : Invocation) (s : RemovalState) (operand : Bytes) :
    RemovalState :=
  let name := trimmedName operand
  let refused (e : Errno) : RemovalState :=
    s.fail inv (ascii "cannot remove " ++ quotedName name ++ ascii ": " ++ ascii e.text)
  match s.files.find inv.cwd name with
  | .error e => if o.force && (e = .noEntry || e = .notDirectory) then s else refused e
  | .ok (place, .directory) =>
    let last := (Path.components name).getLast?
    if !o.recursive && !o.emptyFolders then refused .isDirectory
    else if !o.recursive && !(s.files.names place).isEmpty then refused .notEmpty
    else if last = some Path.here || last = some Path.up then
      s.fail inv (ascii "refusing to remove '.' or '..' directory: skipping " ++ quotedName name)
    else if place.isEmpty && o.keepsRoot then
      let same := if name = [Path.slash] then [] else ascii " (same as '/')"
      let s := s.fail inv (ascii "it is dangerous to operate recursively on " ++ quotedName name
        ++ same)
      s.fail inv (ascii "use --no-preserve-root to override this failsafe")
    else o.remove inv (s.files.entries.length + 1) name place s
  | .ok (place, _) => o.remove inv 1 name place s

/-- The advice for a call whose options cannot be read, if one of them is the name of a file. -/
def leadingDashAdvice (inv : Invocation) (t : FileTree) : Bytes :=
  let isFile (a : Bytes) : Bool :=
    a.head? = some 45 && a ≠ dash && (t.find inv.cwd a).toBool
  match inv.args.find? isFile with
  | some a =>
    ascii "Try '" ++ inv.title ++ ascii " ./" ++ shellWord a ++ ascii "' to remove the file "
      ++ quotedName a ++ ascii ".\n"
  | none => []

/-- Reads how files are removed, and their names. -/
def Removal.read (inv : Invocation) (t : FileTree) : Except Halt (Removal × List Bytes) :=
  (readCall rmOptions anywhere 1 (Removal.take inv) {} inv).mapError fun h =>
    let isMisread : Bool := match readFlags rmOptions 1 inv with
      | .error h' => h'.err = h.err
      | .ok _ => false
    let advice := hint inv
    if isMisread then
      h.mapErr fun err => err.take (err.length - advice.length) ++ leadingDashAdvice inv t ++ advice
    else h

/-- Removes files. -/
def rm : Tool := guarded Manual.rm fun inv t => do
  let (o, operands) ← Removal.read inv t
  let start : RemovalState := { files := t, answers := inv.stdin }
  if operands.isEmpty then
    if o.force then return { files := t, unread := inv.stdin }
    else misuse inv (ascii "missing operand") 1
  else
    let count := operands.length
    let (agreed, s) :=
      if o.caution = .once && (o.recursive || 3 < count) then
        start.ask inv (ascii s!"remove {count} argument" ++ ascii (if count = 1 then "" else "s")
          ++ ascii (if o.recursive then " recursively" else ""))
      else (true, start)
    let s := if agreed then operands.foldl (o.operand inv) s else s
    return { files := s.files, out := s.out, err := s.err, code := if s.failed then 1 else 0
             unread := if s.asked then [] else inv.stdin }

end Relay.Userland
