import Relay.Userland.Floating

/-!
# Arithmetic expressions

Integer expressions with the operators of the shell.  A text is read into an `Expression`, and an
expression is evaluated where names stand for variables, which it may also set.  `evaluate` does
both and answers the value together with the new values of variables.

A flaw in the text is part of the expression that was read up to it: whatever stands before the flaw
is evaluated first, with all that this may lead to.
-/

namespace Relay.Shell.Arithmetic

open Userland

/-- Why an expression has no value. -/
inductive Flaw where
  | divisionByZero
  /-- A quotient is too large, which a machine does not survive. -/
  | overflow
  | noPrimary
  | openParenthesis
  | noAlternative
  | trailing
  /-- A variable holds something else than a number. -/
  | illegalNumber (text : Bytes)

def Flaw.message (expression : Bytes) : Flaw → Bytes
  | .divisionByZero => about "division by zero"
  | .overflow => about "overflow"
  | .noPrimary => about "expecting primary"
  | .openParenthesis => about "expecting ')'"
  | .noAlternative => about "expecting ':'"
  | .trailing => about "expecting EOF"
  | .illegalNumber text => ascii "Illegal number: " ++ text
where
  /-- A complaint about the whole expression. -/
  about (what : String) : Bytes :=
    ascii "arithmetic expression: " ++ ascii what ++ ascii ": \"" ++ expression ++ ascii "\""

inductive Expression where
  | number (n : Int)
  | named (name : List Char)
  | unary (operator : Char) (a : Expression)
  | binary (operator : String) (a b : Expression)
  | choice (test yes no : Expression)
  /-- Sets a variable, to the value of an operator on it and an expression if there is one. -/
  | assign (name : List Char) (operator : Option String) (value : Expression)
  | broken (flaw : Flaw)
  /-- The text behind an expression cannot be read. -/
  | followed (a : Expression) (flaw : Flaw)

/-! ## Reading -/

/-- The binary operators with how tightly they bind, longer ones before their beginnings. -/
def operators : List (String × Nat) :=
  [("||", 1), ("&&", 2), ("==", 6), ("!=", 6), ("<=", 7), (">=", 7), ("<<", 8), (">>", 8),
    ("|", 3), ("^", 4), ("&", 5), ("<", 7), (">", 7), ("+", 9), ("-", 9), ("*", 10), ("/", 10),
    ("%", 10)]

/-- The operators that can stand before the equals sign of an assignment. -/
def assignable : List String := ["<<", ">>", "|", "^", "&", "+", "-", "*", "/", "%"]

def skip (cs : List Char) : List Char := cs.dropWhile fun c => c == ' ' || c == '\t' || c == '\n'

def isNameChar (c : Char) : Bool := c.isAlphanum || c == '_'

/-- The largest number of a machine word. -/
def largest : Nat := Nat.pow 2 63 - 1

def numberIn (base : Nat) (digits : List Char) : Nat :=
  digits.foldl (fun n c => n * base + (if c.isDigit then c.toNat - 48 else c.toLower.toNat - 87)) 0

/-- Reads a number in the base that its first digits tell. -/
def readNumber (cs : List Char) : Nat × List Char :=
  let isHex (c : Char) : Bool := c.isDigit || ('a' ≤ c.toLower && c.toLower ≤ 'f')
  let isOctal (c : Char) : Bool := '0' ≤ c && c ≤ '7'
  match cs with
  | '0' :: x :: ds =>
    if x.toLower == 'x' && ds.head?.any isHex then
      (numberIn 16 (ds.takeWhile isHex), ds.dropWhile isHex)
    else (numberIn 8 ((x :: ds).takeWhile isOctal), (x :: ds).dropWhile isOctal)
  | _ => (numberIn 10 (cs.takeWhile Char.isDigit), cs.dropWhile Char.isDigit)

/-- The integer that a text writes between blanks, with an optional sign, if a machine word holds
it; its digits are read by some reader. -/
def integerBy? (read : List Char → Nat × List Char) (text : Bytes) : Option Int :=
  let cs := (chars text).dropWhile isNumberSpace
  let (negative, digits) := match cs with
    | '-' :: ds => (true, ds)
    | '+' :: ds => (false, ds)
    | ds => (false, ds)
  let (size, rest) := read digits
  let n : Int := if negative then -size else size
  if digits.head?.any Char.isDigit && (rest.dropWhile isNumberSpace).isEmpty
      && -(largest : Int) - 1 ≤ n && n ≤ largest then some n
  else none

/-- The integer that a text writes in base ten. -/
def integerOf? (text : Bytes) : Option Int :=
  integerBy? (fun cs => (numberIn 10 (cs.takeWhile Char.isDigit), cs.dropWhile Char.isDigit)) text

def largestArgument : Nat := Nat.pow 2 31 - 1

/-- The number that an argument writes. -/
def argumentOf? (text : Bytes) : Option Nat :=
  match integerOf? text with
  | some n => if 0 ≤ n && n ≤ largestArgument then some n.toNat else none
  | none => none

/-- Reads the sign of an assignment, if one stands here. -/
def readAssignment (cs : List Char) : Option (Option String × List Char) :=
  match cs with
  | '=' :: '=' :: _ => none
  | '=' :: rest => some (none, rest)
  | _ =>
    match assignable.find? fun o => (o ++ "=").toList.isPrefixOf cs with
    | some o => some (some o, cs.drop (o.length + 1))
    | none => none

mutual

/-- Reads an operand: a number, a name, a sign or an expression between parentheses.  Nothing is left
of a text that cannot be read. -/
def readOperand : Nat → List Char → Expression × List Char
  | 0, _ => (.broken .noPrimary, [])
  | n + 1, cs =>
    match skip cs with
    | '(' :: rest =>
      let (a, rest) := readExpression n rest
      match skip rest with
      | ')' :: rest => (a, rest)
      | _ => (.followed a .openParenthesis, [])
    | c :: rest =>
      if c == '-' || c == '+' || c == '!' || c == '~' then
        let (a, rest) := readOperand n rest
        (.unary c a, rest)
      else if c.isDigit then
        let (k, rest) := readNumber (c :: rest)
        (.number (min k largest : Nat), rest)
      else if isNameChar c then
        let name := (c :: rest).takeWhile isNameChar
        (.named name, (c :: rest).drop name.length)
      else (.broken .noPrimary, [])
    | [] => (.broken .noPrimary, [])

/-- Reads operands between operators that bind more tightly than a level. -/
def readBinary : Nat → Nat → List Char → Expression × List Char
  | 0, _, _ => (.broken .noPrimary, [])
  | n + 1, level, cs =>
    let (a, rest) := readOperand n cs
    readFurther n level a rest

/-- Reads the operators after an operand. -/
def readFurther : Nat → Nat → Expression → List Char → Expression × List Char
  | 0, _, a, cs => (a, cs)
  | n + 1, level, a, cs =>
    let cs := skip cs
    match operators.find? fun (o, _) => o.toList.isPrefixOf cs && (readAssignment cs).isNone with
    | none => (a, cs)
    | some (o, tightness) =>
      if tightness ≤ level then (a, cs)
      else
        let (b, rest) := readBinary n tightness (cs.drop o.length)
        readFurther n level (.binary o a b) rest

def readChoice : Nat → List Char → Expression × List Char
  | 0, _ => (.broken .noPrimary, [])
  | n + 1, cs =>
    let (a, rest) := readBinary n 0 cs
    match skip rest with
    | '?' :: rest =>
      let (yes, rest) := readExpression n rest
      match skip rest with
      | ':' :: rest =>
        let (no, rest) := readChoice n rest
        (.choice a yes no, rest)
      | _ => (.choice a yes (.broken .noAlternative), [])
    | rest => (a, rest)

def readExpression : Nat → List Char → Expression × List Char
  | 0, _ => (.broken .noPrimary, [])
  | n + 1, cs =>
    let start := skip cs
    let name := start.takeWhile isNameChar
    match readAssignment (skip (start.drop name.length)) with
    | some (operator, rest) =>
      if name.isEmpty || name.head?.any Char.isDigit then readChoice n cs
      else
        let (value, rest) := readExpression n rest
        (.assign name operator value, rest)
    | none => readChoice n cs

end

/-- Reads a whole text. -/
def read (cs : List Char) : Expression :=
  let (a, rest) := readExpression (8 * cs.length + 8) cs
  if (skip rest).isEmpty then a else .followed a .trailing

/-! ## Evaluating -/

/-- An integer for a truth value. -/
def truth (b : Bool) : Int := if b then 1 else 0

/-- The signal that a machine sends for a quotient that is too large. -/
def overflowSignal : Nat := 8

/-- A value between the limits of a machine word. -/
def wrap (n : Int) : Int := Int.bmod n (Nat.pow 2 64)

/-- A bitwise operation on machine words. -/
def bitwise (f : UInt64 → UInt64 → UInt64) (a b : Int) : Int :=
  (f (UInt64.ofInt a) (UInt64.ofInt b)).toInt64.toInt

/-- The value of a binary operator. -/
def apply (operator : String) (a b : Int) : Except Flaw Int :=
  match operator with
  | "==" => .ok (truth (a = b))
  | "!=" => .ok (truth (a ≠ b))
  | "<=" => .ok (truth (a ≤ b))
  | ">=" => .ok (truth (b ≤ a))
  | "<" => .ok (truth (a < b))
  | ">" => .ok (truth (b < a))
  | "|" => .ok (bitwise (· ||| ·) a b)
  | "^" => .ok (bitwise (· ^^^ ·) a b)
  | "&" => .ok (bitwise (· &&& ·) a b)
  | "<<" => .ok (wrap (a * (Nat.pow 2 (b % 64).toNat : Nat)))
  | ">>" => .ok (Int.fdiv a (Nat.pow 2 (b % 64).toNat : Nat))
  | "+" => .ok (wrap (a + b))
  | "-" => .ok (wrap (a - b))
  | "*" => .ok (wrap (a * b))
  | _ =>
    if b = 0 then .error .divisionByZero
    else if a = -(largest : Int) - 1 && b = -1 then .error .overflow
    else .ok (if operator = "/" then Int.tdiv a b else Int.tmod a b)

def applySign (operator : Char) (a : Int) : Int :=
  if operator == '-' then wrap (-a)
  else if operator == '!' then truth (a = 0)
  else if operator == '~' then -a - 1
  else a

/-- The values that variables were given, latest first. -/
abbrev Assigned := List (List Char × Int)

/-- The number that the value of a variable writes; a blank value counts as zero. -/
def valueOf (text : Bytes) : Except Flaw Int :=
  if (chars text).all isNumberSpace then .ok 0
  else
    match integerBy? readNumber text with
    | some n => .ok n
    | none => .error (.illegalNumber text)

/-- A computation that gives values to variables, also if it comes to a flaw. -/
abbrev Calculation := ExceptT Flaw (StateM Assigned)

/-- The value of a variable. -/
def current (lookup : List Char → Bytes) (name : List Char) : Calculation Int := do
  match (← get).lookup name with
  | some n => return n
  | none => valueOf (lookup name)

/-- The value of an expression.  What is not needed for the value is only looked through for flaws
of the text. -/
def Expression.value (lookup : List Char → Bytes) : Bool → Expression → Calculation Int
  | _, .number n => return n
  | needed, .named name => if needed then current lookup name else return 0
  | needed, .unary operator a => return applySign operator (← a.value lookup needed)
  | needed, .binary operator a b => do
    let x ← a.value lookup needed
    if operator = "||" then
      let y ← b.value lookup (needed && x = 0)
      return truth (x ≠ 0 || y ≠ 0)
    else if operator = "&&" then
      let y ← b.value lookup (needed && x ≠ 0)
      return truth (x ≠ 0 && y ≠ 0)
    else
      let y ← b.value lookup needed
      if needed then apply operator x y else return y
  | needed, .choice test yes no => do
    let t ← test.value lookup needed
    let y ← yes.value lookup (needed && t ≠ 0)
    let n ← no.value lookup (needed && t = 0)
    return if t ≠ 0 then y else n
  | needed, .assign name operator value => do
    let y ← value.value lookup needed
    if !needed then return y
    let result ← match operator with
      | none => pure y
      | some o => apply o (← current lookup name) y
    modify ((name, result) :: ·)
    return result
  | _, .broken flaw => throw flaw
  | needed, .followed a flaw => do
    let _ ← a.value lookup needed
    throw flaw

/-- The value of a text, or its flaw, and the values that it gives to variables, latest first. -/
def evaluate (lookup : List Char → Bytes) (cs : List Char) : Except Flaw Int × Assigned :=
  ((read cs).value lookup true).run.run []

end Relay.Shell.Arithmetic
