import Relay.Files.Tree
import Relay.Shell.Arithmetic

/-!
# Conditions

What `test` and brackets decide: comparisons of texts and numbers, questions about files, and their
combinations.  `Condition.decide` reads a condition from arguments and decides it on the way; a
small number of arguments is read by rules of its own, so that operators can also be operands.
-/

namespace Relay.Shell.Condition

open Userland

/-- What an argument is at its place. -/
inductive Token where
  | nothing
  | operand
  /-- A question about one operand. -/
  | unary (letter : Char)
  /-- A comparison of two operands. -/
  | binary (operator : String)
  | and
  | or
  | not
  | opening
  | closing
  deriving DecidableEq

/-- The questions about one operand. -/
def unaryLetters : List Char := "bcdefghknprstuwxzGLOS".toList

/-- The comparisons of two operands. -/
def comparisons : List String :=
  ["=", "!=", "<", ">", "-eq", "-ne", "-lt", "-le", "-gt", "-ge", "-nt", "-ot", "-ef"]

/-- What an argument can be by itself. -/
def operator? (a : Bytes) : Option Token :=
  let text := String.ofList (chars a)
  if comparisons.contains text then some (.binary text)
  else
    match chars a with
    | ['!'] => some .not
    | ['('] => some .opening
    | [')'] => some .closing
    | ['-', 'a'] => some .and
    | ['-', 'o'] => some .or
    | ['-', letter] => if unaryLetters.contains letter then some (.unary letter) else none
    | _ => none

def isComparison (a : Bytes) : Bool :=
  match operator? a with
  | some (.binary _) => true
  | _ => false

/-- What the first of some arguments is: an operator that nothing follows, or that is compared with
something, is an operand. -/
def tokenOf : List Bytes → Token
  | [] => .nothing
  | a :: rest =>
    match operator? a with
    | none => .operand
    | some (.unary letter) =>
      match rest with
      | [] => .operand
      | [_] => .unary letter
      | b :: _ => if isComparison b then .operand else .unary letter
    | some .opening => if rest.isEmpty then .operand else .opening
    | some token => token

/-- What conditions are about: the files, the directory that names start from, and the descriptors
that are open, with whether each leads to a file. -/
structure Surroundings where
  files : FileTree
  cwd : Location
  descriptors : List (Nat × Bool) := []

/-- The answer to a question about a text or a path. -/
def answer (s : Surroundings) (letter : Char) (a : Bytes) : Bool :=
  let found : Option Entry := (s.files.find s.cwd a).toOption.map (·.2)
  match letter, found with
  | 'n', _ => !a.isEmpty
  | 'z', _ => a.isEmpty
  | 'd', some .directory => true
  | 'f', some (.regular _) => true
  | 'f', some (.program _) => true
  | 'c', some (.device _) => true
  | 's', some (.regular number) => !(s.files.content number).isEmpty
  | 's', some (.device _) => false
  | 's', some _ => true
  | 'x', some .directory => true
  | 'x', some (.program _) => true
  | letter, some _ => "erwOG".toList.contains letter
  | _, none => false

/-- The answer to a question about a descriptor that a path stands for. -/
def answerAbout (s : Surroundings) (letter : Char) (descriptor : Nat) : Bool :=
  match letter, s.descriptors.lookup descriptor with
  | 'n', _ => true
  | _, none => false
  | letter, some true => "erwOGf".toList.contains letter
  | letter, some false => "erwOGp".toList.contains letter

/-- A number that an operand writes, between blanks. -/
def numberOf (a : Bytes) : Except Bytes Int :=
  match Arithmetic.integerOf? a with
  | some n => .ok n
  | none => .error (ascii "Illegal number: " ++ a)

/-- The answer to a question about one operand; no descriptor is a terminal. -/
def question (s : Surroundings) (letter : Char) (a : Bytes) : Except Bytes Bool := do
  if letter == 't' then
    let _ ← numberOf a
    return false
  else
    match pathDescriptor? a with
    | some n => return answerAbout s letter n
    | none => return answer s letter a

def compare (s : Surroundings) (operator : String) (a b : Bytes) : Except Bytes Bool :=
  let numbers (holds : Int → Int → Bool) : Except Bytes Bool := do
    return holds (← numberOf a) (← numberOf b)
  let changed (name : Bytes) : Option Moment :=
    ((s.files.find s.cwd name).toOption).map fun (l, e) => (s.files.attributes l e).modified
  match operator with
  | "-nt" => .ok ((changed a).any fun x => (changed b).any (· < x))
  | "-ot" => .ok ((changed a).any fun x => (changed b).any (x < ·))
  | "=" => .ok (a = b)
  | "!=" => .ok (a ≠ b)
  | "<" => .ok (FileTree.nameBefore a b && a ≠ b)
  | ">" => .ok (FileTree.nameBefore b a && a ≠ b)
  | "-eq" => numbers fun x y => x = y
  | "-ne" => numbers fun x y => x ≠ y
  | "-lt" => numbers fun x y => x < y
  | "-le" => numbers fun x y => x ≤ y
  | "-gt" => numbers fun x y => y < x
  | "-ge" => numbers fun x y => y ≤ x
  | "-ef" =>
    match s.files.find s.cwd a, s.files.find s.cwd b with
    | .ok (l, _), .ok (k, _) => .ok (l = k)
    | _, _ => .ok false
  | _ => .ok false

def lacksOperand (operator : Bytes) : Bytes := operator ++ ascii ": argument expected"

/-- A truth value and the arguments from the last one that was read on. -/
abbrev Decided := Except Bytes (Bool × List Bytes)

mutual

/-- Decides a condition of alternatives.  Like those below, it starts at the first argument, of
which it knows what it is, and stops at the last argument that belongs to it. -/
def alternatives (s : Surroundings) : Nat → Token → List Bytes → Decided
  | 0, _, args => .ok (false, args)
  | n + 1, token, args => do
    let (a, args) ← conjunction s n token args
    if tokenOf args.tail = .or then
      let (b, args) ← alternatives s n (tokenOf (args.drop 2)) (args.drop 2)
      return (a || b, args)
    else return (a, args)

/-- Decides conditions that all have to hold. -/
def conjunction (s : Surroundings) : Nat → Token → List Bytes → Decided
  | 0, _, args => .ok (false, args)
  | n + 1, token, args => do
    let (a, args) ← negation s n token args
    if tokenOf args.tail = .and then
      let (b, args) ← conjunction s n (tokenOf (args.drop 2)) (args.drop 2)
      return (a && b, args)
    else return (a, args)

def negation (s : Surroundings) : Nat → Token → List Bytes → Decided
  | 0, _, args => .ok (false, args)
  | n + 1, token, args => do
    if token = .not then
      let next := tokenOf args.tail
      let (a, args) ← negation s n next (if next = .nothing then args else args.tail)
      return (!a, args)
    else primary s n token args

def primary (s : Surroundings) : Nat → Token → List Bytes → Decided
  | 0, _, args => .ok (false, args)
  | n + 1, token, args => do
    match token with
    | .nothing => return (false, args)
    | .opening =>
      let next := tokenOf args.tail
      if next = .closing then return (false, args.tail)
      else
        let (a, args) ← alternatives s n next args.tail
        if tokenOf args.tail = .closing then return (a, args.tail)
        else throw (ascii "closing paren expected")
    | .unary letter =>
      match args with
      | _ :: a :: rest => return (← question s letter a, a :: rest)
      | o :: [] => throw (lacksOperand o)
      | [] => return (false, [])
    | _ =>
      match args with
      | a :: o :: rest =>
        match tokenOf (o :: rest) with
        | .binary operator =>
          match rest with
          | [] => throw (lacksOperand o)
          | b :: rest => return (← compare s operator a b, b :: rest)
        | _ => return (!a.isEmpty, args)
      | a :: [] => return (!a.isEmpty, args)
      | [] => return (false, [])

end

/-- Decides arguments from one of which it is known what it is; nothing may be left over. -/
def decideFrom (s : Surroundings) (token : Token) (args : List Bytes) : Except Bytes Bool := do
  match ← alternatives s (6 * args.length + 6) token args with
  | (_, [] :: _ :: _) => throw (ascii "unexpected operator")
  | (_, a :: _ :: _) => throw (a ++ ascii ": unexpected operator")
  | (value, _) => return value

/-- Decides the condition that some arguments write; an error is a complaint. -/
def decide (s : Surroundings) : List Bytes → Except Bytes Bool
  | [] => .ok false
  | [a, o, b] =>
    if isComparison o then decideFrom s .operand [a, o, b]
    else if a = ascii "(" && b = ascii ")" then decideFrom s (tokenOf [o]) [o]
    else if a = ascii "!" then (decide s [o, b]).map (!·)
    else decideFrom s (tokenOf [a, o, b]) [a, o, b]
  | [a, b, c, d] =>
    if a = ascii "(" && d = ascii ")" then decideFrom s (tokenOf [b, c]) [b, c]
    else if a = ascii "!" then (decide s [b, c, d]).map (!·)
    else decideFrom s (tokenOf [a, b, c, d]) [a, b, c, d]
  | args => decideFrom s (tokenOf args) args

end Relay.Shell.Condition
