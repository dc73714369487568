import Relay.Userland.RegexSyntax

/-!
# Mistakes in scripts

A mistake in a script is reported with the place up to which the script has been read, so every
reader of a part of a script answers what is left of it.
-/

namespace Relay.Userland.Edit

/-- Why a script cannot be read. -/
inductive ScriptFlaw where
  | openSubstitution
  | openTransliteration
  | openAddress
  | missingCommand
  | unknownCommand (name : Char)
  | unknownOption
  | twice (what : String)
  | extraCharacters
  | lengths
  | zeroNumber
  | badReference (number : Nat)
  | flaggedEmpty
  | comma
  | manyNegations
  | relativeFirst
  | lineZero
  | noText
  | noFile
  | noLabel
  | openBlock
  | strayClosing
  | closingAddress
  | labelAddress
  | commentAddress
  | oneAddress
  | newerVersion
  | nestedEscape
  | incomplete
  | disabled
  | noPattern
  | pattern (flaw : Regex.Flaw)

/-- A text between the signs that stand for quotes. -/
def named (cs : List Char) : Bytes := octets ('\x60' :: cs ++ ['\''])

def ScriptFlaw.message : ScriptFlaw → Bytes
  | .openSubstitution => ascii "unterminated " ++ command 's'
  | .openTransliteration => ascii "unterminated " ++ command 'y'
  | .openAddress => ascii "unterminated address regex"
  | .missingCommand => ascii "missing command"
  | .unknownCommand name => ascii "unknown command: " ++ named [name]
  | .unknownOption => ascii "unknown option to " ++ named ['s']
  | .twice what => ascii "multiple " ++ ascii what ++ ascii " options to " ++ command 's'
  | .extraCharacters => ascii "extra characters after command"
  | .lengths => ascii "strings for " ++ command 'y' ++ ascii " are different lengths"
  | .zeroNumber => ascii "number option to " ++ command 's' ++ ascii " may not be zero"
  | .badReference number =>
    ascii "invalid reference \\" ++ decimal number ++ ascii " on " ++ command 's' ++ ascii "'s RHS"
  | .flaggedEmpty => ascii "cannot specify modifiers on empty regexp"
  | .comma => ascii "unexpected " ++ named [',']
  | .manyNegations => ascii "multiple " ++ named ['!'] ++ ascii "s"
  | .relativeFirst => ascii "invalid usage of +N or ~N as first address"
  | .lineZero => ascii "invalid usage of line address 0"
  | .noText =>
    ascii "expected \\ after " ++ named ['a'] ++ ascii ", " ++ named ['c'] ++ ascii " or "
      ++ named ['i']
  | .noFile => ascii "missing filename in r/R/w/W commands"
  | .noLabel => ascii "\":\" lacks a label"
  | .openBlock => ascii "unmatched " ++ named ['\x7b']
  | .strayClosing => ascii "unexpected " ++ named ['\x7d']
  | .closingAddress => named ['\x7d'] ++ ascii " doesn't want any addresses"
  | .labelAddress => ascii ": doesn't want any addresses"
  | .commentAddress => ascii "comments don't accept any addresses"
  | .oneAddress => ascii "command only uses one address"
  | .newerVersion => ascii "expected newer version of sed"
  | .nestedEscape => ascii "recursive escaping after \\c not allowed"
  | .incomplete => ascii "incomplete command"
  | .disabled => ascii "e/r/w commands disabled in sandbox mode"
  | .noPattern => ascii "no previous regular expression"
  | .pattern flaw => ascii flaw.message
where
  command (name : Char) : Bytes := named [name] ++ ascii " command"

/-- A reader of a script; a flaw comes with the number of characters that are left. -/
abbrev Reading (α : Type) := Except (ScriptFlaw × Nat) α

end Relay.Userland.Edit
