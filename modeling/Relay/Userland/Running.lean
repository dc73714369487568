import Relay.Process.Thread
import Relay.Userland.Floating
import Relay.Userland.Manual.Names
import Relay.Userland.Options

/-!
# Running tools

How a tool works as a process.  It is given the input as it comes in.  A tool that leaves input
unread has seen enough, so what it did is final; any other one is given more, until the input is at
its end.  What it prints goes where its descriptors lead, and it waits there if it has to.
-/

namespace Relay

/-- Starts a program, given by its own name, in the process of some number. -/
abbrev Launcher := Bytes → Invocation → Nat → Thread

namespace Userland

/-! ## Output that is not taken -/

/-- What a program says when its output is not taken for some reason, and its exit code; `length` is
the length of the output. -/
def outputRefused (program title : Bytes) (length : Nat) (e : Errno) : Bytes × Nat :=
  let reason := ascii e.text
  let line (what : Bytes) : Bytes := title ++ ascii ": " ++ what ++ [Text.lineFeed]
  let usual := line (ascii "write error: " ++ reason)
  let isClosed := e = .badDescriptor
  match String.ofList (chars program) with
  | "cat" => (if isClosed then line (ascii "standard output: " ++ reason) else usual, 1)
  | "wc" => (if isClosed then usual else line (ascii "write error"), 1)
  | "ls" => (usual, 2)
  | "grep" => (usual, 2)
  | "env" => (usual, 125)
  | "sort" =>
    let what := if 4096 < length then "write failed" else "fflush failed"
    (line (ascii (what ++ ": 'standard output': ") ++ reason) ++ line (ascii "write error"), 2)
  | "sed" =>
    (line (ascii (if isClosed then "couldn't close stdout: " else "couldn't flush stdout: ")
      ++ reason), 4)
  | "head" => (if 4096 < length then line (ascii "error writing 'standard output': " ++ reason)
      else usual, 1)
  | "tail" => (if 4096 < length then line (ascii "error writing 'standard output': " ++ reason)
      else usual, 1)
  | _ => (usual, 1)

/-! ## Printing -/

/-- How a tool is called and in which process it runs. -/
structure Engagement where
  /-- The tool's own name. -/
  program : Bytes
  inv : Invocation
  number : Nat

/-- Writes bytes to a channel for a process, part after part as they are taken; at most `n` parts are
written. -/
def emitParts (number : Nat) (c : Option Channel) (next : Option Errno → Thread) :
    Nat → Bytes → Thread
  | 0, _ => next none
  | n + 1, b => .look fun s =>
    match s.write number c b with
    | (.whole, s) => .put s (next none)
    | (.refused e, s) => .put s (next (some e))
    | (.partly rest, s) => .put s (.wait (·.isWritable c) (emitParts number c next n rest))

def emitTo (number : Nat) (c : Option Channel) (b : Bytes) (next : Option Errno → Thread) :
    Thread :=
  if b.isEmpty then next none else emitParts number c next (b.length + 1) b

def emit (number descriptor : Nat) (b : Bytes) (next : Option Errno → Thread) : Thread :=
  if b.isEmpty then next none
  else .look fun s => emitTo number (s.channel? number descriptor) b next

/-- Prints what a tool prints; the answer is the reason why some output was not taken, if it was
not. -/
def Engagement.printAll (g : Engagement) (next : Option Errno → Thread) :
    List Print → Option Errno → Thread
  | [], refusal => next refusal
  | .out b :: rest, none => emit g.number 1 b fun refusal => g.printAll next rest refusal
  | .out _ :: rest, some e => g.printAll next rest (some e)
  | .err b :: rest, refusal => emit g.number 2 b fun _ => g.printAll next rest refusal

/-- Prints what follows, part by part; at most `n` parts are printed. -/
def Engagement.printFurther (g : Engagement) (part : Nat → Option Bytes)
    (next : Option Errno → Thread) : Nat → Nat → Thread
  | 0, _ => next none
  | n + 1, k =>
    match part k with
    | none => next none
    | some b => emit g.number 1 b fun refusal =>
      match refusal with
      | some e => next (some e)
      | none => .rest 10 (g.printFurther part next n (k + 1))

/-- How many parts are printed at most. -/
def partLimit : Nat := Nat.pow 10 9

/-- The end of a tool: what is left to print is printed; output that is not taken changes the code.
A tool that reads without end does nothing more. -/
def Engagement.finish (g : Engagement) (prints : List Print) (length : Nat)
    (further : Nat → Option Bytes) (code : Nat) (endless : Bool) : Thread :=
  let ended (refusal : Option Errno) : Thread :=
    match refusal with
    | none => if endless then .wait (fun _ => false) (.ended (.exited code)) else .ended (.exited code)
    | some e =>
      let (message, code) := outputRefused g.program g.inv.title length e
      emit g.number 2 message fun _ => .ended (.exited code)
  g.printAll (fun refusal =>
    match refusal with
    | some e => ended (some e)
    | none => g.printFurther further ended partLimit 0) prints none

/-- The end of a program that gives up, or whose work is printing on its error output. -/
def Engagement.giveUp (g : Engagement) (m : Manual) (h : Halt) : Thread := .look fun s =>
  let out := h.out m s.files g.inv.title
  .put { s with files := h.files s.files } <|
    g.finish [.err h.err, .out out] out.length (fun _ => none) h.code false

/-! ## Reading -/

/-- A call with what the process knows of its descriptors. -/
def equip (s : System) (number : Nat) (inv : Invocation) : Invocation :=
  let table := s.table number
  let files := table.filterMap fun (d, c) =>
    match c with
    | .file f => if d = 0 then none else some (d, some f)
    | _ => none
  let missing := [1, 2].filter fun d => (table.lookup d).isNone
  let outFile := match table.lookup 1 with
    | some (.file f) => s.files.fileNumber? f
    | _ => none
  let supply := s.supply (table.lookup 0)
  { inv with
      others := files ++ missing.map (·, none), outFile
      stdin := supply.bytes, origin := supply.origin, more := supply.more }

/-- Whether a tool asks for input: it takes a line that is there. -/
def asksForInput (tool : Tool) (inv : Invocation) (t : FileTree) : Bool :=
  (tool { inv with stdin := [Text.lineFeed], more := true } t).unread.isEmpty

/-- Ends a tool with its report; so many bytes were printed already. -/
def Engagement.conclude (g : Engagement) (s : System) (r : Report) (printed : Nat) : Thread :=
  .put s (g.finish (Print.drop printed r.prints) (Print.outLength r.prints) r.further r.code
    r.endless)

/-- Up to how many bytes of input a tool looks at everything that comes in; from then on it waits for
half as much again. -/
def eagerness : Nat := 2048

/-- Gives a tool its input as it comes in: the parts that were read so far, latest part first, how
many bytes they have, how many bytes were printed, and how much the tool waits for. -/
def Engagement.follow (g : Engagement) (tool : Tool) : Nat → List Bytes → Nat → Nat → Nat → Thread
  | 0, _, _, _, _ => .ended (.exited 1)
  | n + 1, parts, size, printed, goal =>
    .wait (fun s => s.isReadable (s.channel? g.number 0)) <| .look fun s =>
      let channel := s.channel? g.number 0
      let supply := s.supply channel
      let taken := supply.bytes.length
      let s := s.consume channel taken
      let parts := supply.bytes :: parts
      let size := size + taken
      if supply.more && size < goal then .put s (g.follow tool n parts size printed goal)
      else
        let stdin := parts.reverse.flatten
        let r := tool { equip s g.number g.inv with stdin, more := supply.more } s.files
        if !supply.more || r.finished || !r.unread.isEmpty then
          g.conclude ({ s with files := r.files }.giveBack channel r.unread) r printed
        else
          let goal := if size < eagerness then 0 else size + size / 2
          let ready := Print.drop printed (Print.take r.settled r.prints)
          let goOn (refusal : Option Errno) : Thread :=
            match refusal with
            | none => g.follow tool n [stdin] size (max printed r.settled) goal
            | some e =>
              let (message, code) := outputRefused g.program g.inv.title r.settled e
              emit g.number 2 message fun _ => .ended (.exited code)
          .put s (g.printAll goOn ready none)

/-- Runs a tool in a process. -/
def ofTool (program : Bytes) (tool : Tool) (inv : Invocation) (number : Nat) : Thread :=
  .look fun s =>
    let g : Engagement := ⟨program, inv, number⟩
    let inv := equip s number inv
    if !inv.more then
      let r := tool inv s.files
      let taken := inv.stdin.length - r.unread.length
      g.conclude ({ s with files := r.files }.consume (s.channel? number 0) taken) r 0
    else if asksForInput tool inv s.files then g.follow tool partLimit [] 0 0 0
    else
      let r := tool { inv with stdin := [] } s.files
      g.conclude { s with files := r.files } r 0

/-! ## Other programs -/

/-- The microseconds that a program takes to start. -/
def startTime : Nat := 500

/-- Reads a channel to its end, in at most `n` parts; those that were read come last one first. -/
def readToEnd (channel : System → Option Channel) (next : Bytes → Thread) :
    Nat → List Bytes → Thread
  | 0, parts => next parts.reverse.flatten
  | n + 1, parts =>
    .wait (fun s => s.isReadable (channel s)) <| .look fun s =>
      let supply := s.supply (channel s)
      let s := s.consume (channel s) supply.bytes.length
      let parts := supply.bytes :: parts
      .put s (if supply.more then readToEnd channel next n parts else next parts.reverse.flatten)

/-- Runs a shell command and goes on with what it prints. -/
def Engagement.outputOf (g : Engagement) (launch : Launcher) (command : Bytes)
    (next : Bytes → Thread) : Thread :=
  .look fun s =>
    let (pipe, s) := s.addPipe (Pipe.holding [])
    let source := Channel.source pipe
    let sink := Channel.sink pipe
    let shell := ascii "sh"
    let inv : Invocation :=
      { title := shell, args := [ascii "-c", command], env := g.inv.env, cwd := g.inv.cwd }
    let child (born : Nat) : Thread :=
      .change (fun s => (s.connect born 1 (some sink)).beginProgram born) <|
        .rest startTime (launch shell inv born)
    let parent (born : Nat) : Thread :=
      .change (·.letGo g.number [sink]) <| readToEnd (fun _ => some source) (fun output =>
        .wait (fun s => (s.ending? born).isSome) <|
          .change (fun s => (s.forget born).letGo g.number [source]) (next output)) partLimit []
    .put ((s.keep g.number source).keep g.number sink) (.spawn child parent)

/-! ## Rests -/

/-- How many microseconds a unit of time has. -/
def unitOf? : List Char → Option Nat
  | [] => some 1000000
  | ['s'] => some 1000000
  | ['m'] => some 60000000
  | ['h'] => some 3600000000
  | ['d'] => some 86400000000
  | _ => none

/-- The microseconds that an interval writes: a number that is not negative, with an optional unit,
rounded up. -/
def intervalOf? (a : Bytes) : Option Nat := do
  let number ← readNumber? a
  let unit ← unitOf? number.rest
  match number.magnitude with
  | .undefined => none
  | .infinite => if number.negative then none else some forever
  | .finite f =>
    if number.negative && f.num ≠ 0 then none
    else some (min forever ((f.num * unit + f.den - 1) / f.den))

/-- The microseconds that a call of `sleep` asks for. -/
def sleepTime (inv : Invocation) : Except Halt Nat := do
  let (_, args) ← readFlags selfDescription 1 inv
  if inv.args.isEmpty then misuse inv (ascii "missing operand") 1
  else
    let flawed := args.filter fun a => (intervalOf? a).isNone
    if flawed.isEmpty then return total (args.filterMap intervalOf?)
    else
      let complaints := flawed.flatMap fun a =>
        complain inv (ascii "invalid time interval " ++ quoted a)
      throw (.complaint (complaints ++ hint inv) 1)

/-- Rests for the sum of some intervals. -/
def sleep (inv : Invocation) (number : Nat) : Thread :=
  match sleepTime inv with
  | .error h => Engagement.giveUp ⟨ascii "sleep", inv, number⟩ Manual.sleep h
  | .ok time => .rest time (.ended (.exited 0))

end Userland

end Relay
