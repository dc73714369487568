import Relay.CommandLine
import Relay.Proofs.Pipeline.Redirect
import Relay.Proofs.Text.LineEndings

/-!
# Pipeline files

`pipelineIn_agrees`: reading a pipeline from a file is reading the command that stands in it.

1. A file is followed line by line.  A line is skipped if it is blank or a comment (`IsSkipped`);
   the first other line is the command (`IsCommandOf`), and the carriage return of a line ending
   makes no difference, because lines are trimmed (`exists_lines`).
2. The command is trimmed before it is read.  A delimiter with something in front of it survives
   that; only one at the very start loses its space.  So a command is read like the trimmed one
   unless that starts with the mark of a redirect (`parse_trim`).
3. A file without a command is read as nothing at all: one stage without tokens.
-/

namespace Relay.Pipeline

open Text

/-! ## Reading a trimmed command -/

theorem splitRedirect_trim_of_unmarked {m t : Text} (hm : m.IsWord) (h : ¬ m <+: trim t)
    (hne : occurrences (' ' :: m) t ≠ 0) :
    splitRedirect (' ' :: m) (trim t) = splitRedirect (' ' :: m) t := by
  obtain ⟨x, y, rfl, hx⟩ := exists_delimiter hne
  refine splitRedirect_trim hm (fun hnil => h ?_) hx y
  rw [trim_delimiter_of_blank hm (forall_blank_of_trimStart hnil)]
  exact List.prefix_append m _

theorem parse_congr {t u : Text}
    (h : splitRedirect stderrDelimiter t = splitRedirect stderrDelimiter u) : parse t = parse u := by
  unfold parse
  rw [h]

/-- **Blanks at the ends of a command do not count**, unless a redirect stands at its start. -/
theorem parse_trim {t : Text} (hout : ¬ stdoutMark <+: trim t) (herr : ¬ stderrMark <+: trim t) :
    parse (trim t) = parse t := by
  by_cases hzero : occurrences stderrDelimiter t = 0
  · -- without an error-output redirect reading does not trim before it looks for the other one
    have hstart : ¬ StartsRedirected t := by
      rintro ⟨b, r, hb, rfl⟩
      apply hout
      rw [stdoutDelimiter_eq, trim_delimiter_of_blank isWord_stdoutMark hb]
      exact List.prefix_append _ _
    rw [parse_of_splitRedirect (splitRedirect_of_zero hzero),
      parse_of_splitRedirect (splitRedirect_of_zero (occurrences_trim_of_zero hzero)),
      readRest_trim hstart]
  · exact parse_congr (splitRedirect_trim_of_unmarked isWord_stderrMark herr hzero)

/-- The redirect at the start of this command is none of the trimmed one. -/
example :
    let t : Text := [' ', '>', ' ', 'a']
    parse t = .ok ⟨[⟨[]⟩], some ['a'], none⟩ ∧
      parse (trim t) = .ok ⟨[⟨[['>'], ['a']]⟩], none, none⟩ := ⟨rfl, rfl⟩

/-! ## Lines and their endings -/

/-- What ends a line. -/
inductive IsEnding : Text → Prop where
  | lineFeed : IsEnding ['\n']
  | returnLineFeed : IsEnding ['\r', '\n']

def firstVisible? (t : Text) : Option Char := t.find? fun c => !isBlank c

/-- Whether a line is blank or a comment. -/
def IsSkipped (l : Text) : Prop := firstVisible? l = none ∨ firstVisible? l = some '#'

instance (l : Text) : Decidable (IsSkipped l) :=
  inferInstanceAs (Decidable (firstVisible? l = none ∨ firstVisible? l = some '#'))

theorem head?_trim (l : Text) : (trim l).head? = firstVisible? l := by
  induction l with
  | nil => rfl
  | cons c l ih =>
    unfold firstVisible?
    by_cases hc : isBlank c = true
    · rw [trim_cons hc, ih, List.find?_cons_of_neg (by simp [hc])]
      rfl
    · have hc' : isBlank c = false := by simpa using hc
      have hvisible : trim (c :: l) = c :: trimEnd l := trim_append_cons hc' [] l
      rw [hvisible, List.find?_cons_of_pos (by simp [hc'])]
      rfl

theorem isCommandLine_trim (l : Text) : isCommandLine (trim l) = !decide (IsSkipped l) := by
  have hhead := head?_trim l
  rw [Bool.eq_iff_iff, Bool.not_eq_true', decide_eq_false_iff_not, IsSkipped, ← hhead,
    isCommandLine]
  cases trim l <;> simp

theorem trim_dropReturn (l : Text) : trim (dropReturn l) = trim l := by
  induction l using List.reverseRecOn with
  | nil => rfl
  | append_singleton l c =>
    rw [dropReturn_concat]
    split
    · rename_i hc
      subst hc
      exact (trim_of_between (b := []) nofun (List.forall_mem_singleton.2 (by decide)) l).symm
    · rfl

section Line

variable {l : Text} (hl : '\n' ∉ l)
include hl

theorem exists_lines {e : Text} (he : IsEnding e) (r : Text) :
    ∃ l', trim l' = trim l ∧ lines (l ++ e ++ r) = l' :: lines r := by
  cases he with
  | lineFeed =>
    refine ⟨dropReturn l, trim_dropReturn l, ?_⟩
    rw [List.append_assoc]
    exact lines_append_newline hl r
  | returnLineFeed =>
    have hreturn : '\n' ∉ l ++ ['\r'] := by
      rw [List.mem_append, not_or]
      exact ⟨hl, by decide⟩
    refine ⟨dropReturn (l ++ ['\r']), ?_, ?_⟩
    · rw [dropReturn_concat, if_pos rfl]
    · rw [List.append_assoc, ← lines_append_newline hreturn, List.append_assoc]
      rfl

/-! ## The command of a file -/

theorem commandOfFile_line {e : Text} (he : IsEnding e) (r : Text) :
    commandOfFile (l ++ e ++ r) = if IsSkipped l then commandOfFile r else trim l := by
  obtain ⟨l', htrim, hlines⟩ := exists_lines hl he r
  unfold commandOfFile
  rw [hlines, List.map_cons, htrim, List.find?_cons, isCommandLine_trim]
  by_cases h : IsSkipped l <;> simp [h]

theorem commandOfFile_rest : commandOfFile l = if IsSkipped l then [] else trim l := by
  by_cases hne : l = []
  · subst hne
    rfl
  · unfold commandOfFile
    rw [lines_of_not_mem hl hne, List.map_singleton, List.find?_singleton,
      isCommandLine_trim]
    by_cases h : IsSkipped l <;> simp [h]

end Line

/-- What can stand behind a line: nothing, or the line's ending and any text. -/
def Follows (r : Text) : Prop := r = [] ∨ ∃ e s, IsEnding e ∧ r = e ++ s

/-- A file that has a command: in its first line, which is neither blank nor a comment, or behind a
line that is. -/
inductive IsCommandOf (c : Text) : Text → Prop where
  | here {r : Text} (hc : '\n' ∉ c) (hcommand : ¬ IsSkipped c) (hr : Follows r) :
      IsCommandOf c (c ++ r)
  | later {l e r : Text} (hl : '\n' ∉ l) (hskipped : IsSkipped l) (he : IsEnding e)
      (h : IsCommandOf c r) : IsCommandOf c (l ++ e ++ r)

theorem IsCommandOf.commandOfFile {c t : Text} (h : IsCommandOf c t) : commandOfFile t = trim c := by
  induction h with
  | here hc hcommand hr =>
    rcases hr with rfl | ⟨e, s, he, rfl⟩
    · rw [List.append_nil, commandOfFile_rest hc, if_neg hcommand]
    · rw [← List.append_assoc, commandOfFile_line hc he, if_neg hcommand]
  | later hl hskipped he _ ih => rw [commandOfFile_line hl he, if_pos hskipped, ih]

theorem IsCommandOf.trim_ne_nil {c t : Text} (h : IsCommandOf c t) : trim c ≠ [] := by
  induction h with
  | here _ hcommand _ =>
    intro hnil
    refine hcommand (.inl ?_)
    rw [← head?_trim, hnil]
    rfl
  | later _ _ _ _ ih => exact ih

/-- A file has a command, or none is found. -/
theorem exists_isCommandOf (t : Text) : (∃ c, IsCommandOf c t) ∨ commandOfFile t = [] := by
  induction t using pieceRec '\n' with
  | rest l hl =>
    by_cases hskipped : IsSkipped l
    · exact .inr (by rw [commandOfFile_rest hl, if_pos hskipped])
    · have hcommand := IsCommandOf.here hl hskipped (.inl rfl)
      rw [List.append_nil] at hcommand
      exact .inl ⟨l, hcommand⟩
  | piece l r hl ih =>
    rw [List.append_cons]
    by_cases hskipped : IsSkipped l
    · rcases ih with ⟨c, hcommand⟩ | hnone
      · exact .inl ⟨c, .later hl hskipped .lineFeed hcommand⟩
      · refine .inr ?_
        rw [commandOfFile_line hl .lineFeed, if_pos hskipped, hnone]
    · refine .inl ⟨l, ?_⟩
      rw [List.append_assoc]
      exact .here hl hskipped (.inr ⟨_, r, .lineFeed, rfl⟩)

theorem commandOfFile_eq_nil_iff (t : Text) : commandOfFile t = [] ↔ ∀ c, ¬ IsCommandOf c t := by
  constructor
  · intro hnil c hc
    exact hc.trim_ne_nil (hc.commandOfFile.symm.trans hnil)
  · intro hnone
    exact (exists_isCommandOf t).resolve_left fun ⟨c, hc⟩ => hnone c hc

/-! ## Files and commands -/

def blank : Pipeline := { stages := [⟨[]⟩] }

theorem check_blank : blank.check = .error (.invalid ["stage 1 has no program"]) := by decide

theorem pipelineIn_eq {h : Host} {path content : Text}
    (hfile : h.files.readBytes h.cwd path = .ok (utf8 content)) :
    CommandLine.pipelineIn h path = Pipeline.read (commandOfFile content) := by
  have htext : h.readText path = .ok content := by
    simp only [Host.readText, FileTree.readText, hfile, bind, Except.bind, ofUtf8?_utf8]
    rfl
  unfold CommandLine.pipelineIn
  rw [htext]
  rfl

/-- **A pipeline file is read as its command.**  The command is the first line that is neither blank
nor a comment, whatever stands before and behind it, if it does not start with a redirect.  A file
without such a line is read as a pipeline that is refused. -/
theorem pipelineIn_agrees {h : Host} {path content : Text}
    (hfile : h.files.readBytes h.cwd path = .ok (utf8 content)) :
    (∀ c, IsCommandOf c content → ¬ stdoutMark <+: trim c → ¬ stderrMark <+: trim c →
        CommandLine.pipelineIn h path = Pipeline.read c ∧
          ∀ config, CommandLine.carryOut ⟨.runFile path, config⟩ h =
            CommandLine.carryOut ⟨.run c, config⟩ h) ∧
      ((∀ c, ¬ IsCommandOf c content) →
        CommandLine.pipelineIn h path = .ok blank ∧
          blank.check = .error (.invalid ["stage 1 has no program"])) := by
  constructor
  · intro c hc hout herr
    have hread : CommandLine.pipelineIn h path = Pipeline.read c := by
      rw [pipelineIn_eq hfile, hc.commandOfFile, Pipeline.read, parse_trim hout herr]
      rfl
    refine ⟨hread, fun config => ?_⟩
    show CommandLine.runWith config (CommandLine.pipelineIn h path) h = _
    rw [hread]
    rfl
  · intro hnone
    refine ⟨?_, check_blank⟩
    rw [pipelineIn_eq hfile, (commandOfFile_eq_nil_iff content).2 hnone]
    rfl

/-- A command between comments, with mixed line endings. -/
def script : Text := "\r\n # sort\r\n\t\n ls | sort > out \r\n# done\nls".toList

def notes : Text := "  # nothing\n ".toList

/-- A host with these two files. -/
def shelf : Host :=
  { files :=
      { entries := [([[112]], .regular 0), ([[113]], .regular 1)]
        records := [⟨utf8 script, { mode := 420 }⟩, ⟨utf8 notes, { mode := 420 }⟩] } }

theorem pipelineIn_agrees_shelf :
    shelf.files.readBytes shelf.cwd ['p'] = .ok (utf8 script) ∧
      shelf.files.readBytes shelf.cwd ['q'] = .ok (utf8 notes) ∧
      CommandLine.pipelineIn shelf ['p'] =
        .ok ⟨[⟨["ls".toList]⟩, ⟨["sort".toList]⟩], some "out".toList, none⟩ ∧
      CommandLine.pipelineIn shelf ['q'] = .ok blank := by
  have hp : shelf.files.readBytes shelf.cwd ['p'] = .ok (utf8 script) := by rfl
  have hq : shelf.files.readBytes shelf.cwd ['q'] = .ok (utf8 notes) := by rfl
  have hscript : IsCommandOf " ls | sort > out ".toList script := by
    refine .later (l := []) (e := "\r\n".toList) (by decide) (by decide) .returnLineFeed ?_
    refine .later (l := " # sort".toList) (e := "\r\n".toList) (by decide) (by decide)
      .returnLineFeed ?_
    refine .later (l := ['\t']) (e := ['\n']) (by decide) (by decide) .lineFeed ?_
    exact .here (r := "\r\n# done\nls".toList) (by decide) (by decide)
      (.inr ⟨_, "# done\nls".toList, .returnLineFeed, rfl⟩)
  have hnotes : ∀ c, ¬ IsCommandOf c notes := (commandOfFile_eq_nil_iff notes).1 (by decide)
  have hread := ((pipelineIn_agrees hp).1 _ hscript (by decide) (by decide)).1
  exact ⟨hp, hq, hread.trans (by decide +kernel), ((pipelineIn_agrees hq).2 hnotes).1⟩

end Relay.Pipeline
