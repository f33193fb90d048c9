import WebviewHost.Bridge.Picker
import WebviewHost.Proofs.Text.Blank
import WebviewHost.Proofs.Text.Utf8

/-!
# One line for each question

A terminal answers every question that can be written with the next line of its input, and none
that cannot. So of the questions before it only their number counts, whatever they were answered.
-/

set_option autoImplicit false

namespace WebviewHost.Bridge

open WebviewHost.Files (Disk)
open WebviewHost.Text (Trimmed decodeUtf8 decodeUtf8_eq_ok_iff encodeUtf8 isBlank
  trimBlanks trimBlanks_eq_nil_iff trimBlanks_of_trimmed trimmed_trimBlanks)

/-! ## Lines -/

/-- The lines of an input. Each ends with a line break and has no other one; the last may lack it. -/
inductive Lines : List UInt8 → List (List UInt8) → Prop where
  | nil : Lines [] []
  | last {line : List UInt8} : line ≠ [] → 0x0a ∉ line → Lines line [line]
  | ended {line rest : List UInt8} {lines : List (List UInt8)} : 0x0a ∉ line → Lines rest lines →
      Lines (line ++ 0x0a :: rest) ((line ++ [0x0a]) :: lines)

section Lines

variable {input line : List UInt8} {lines : List (List UInt8)}

theorem takeLine_append_break (unbroken : 0x0a ∉ line) (rest : List UInt8) :
    takeLine (line ++ 0x0a :: rest) = (line ++ [0x0a], rest) := by
  induction line with
  | nil => simp [takeLine]
  | cons byte line ih =>
      obtain ⟨other, unbroken⟩ := List.ne_and_not_mem_of_not_mem_cons unbroken
      rw [List.cons_append, takeLine, if_neg (Ne.symm other), ih unbroken]
      rfl

theorem takeLine_of_unbroken (unbroken : 0x0a ∉ line) : takeLine line = (line, []) := by
  induction line with
  | nil => rfl
  | cons byte line ih =>
      obtain ⟨other, unbroken⟩ := List.ne_and_not_mem_of_not_mem_cons unbroken
      rw [takeLine, if_neg (Ne.symm other), ih unbroken]

theorem exists_lines (input : List UInt8) : ∃ lines, Lines input lines := by
  induction input with
  | nil => exact ⟨[], .nil⟩
  | cons byte input ih =>
      obtain ⟨lines, isLines⟩ := ih
      by_cases ends : byte = 0x0a
      · subst ends
        have ended : Lines ([] ++ 0x0a :: input) (([] ++ [0x0a]) :: lines) :=
          .ended List.not_mem_nil isLines
        exact ⟨_, ended⟩
      · have apart : ∀ {line : List UInt8}, 0x0a ∉ line → 0x0a ∉ byte :: line :=
          fun unbroken => List.not_mem_cons_of_ne_of_not_mem (Ne.symm ends) unbroken
        cases isLines with
        | nil => exact ⟨_, .last (List.cons_ne_nil _ _) (apart List.not_mem_nil)⟩
        | last _ unbroken => exact ⟨_, .last (List.cons_ne_nil _ _) (apart unbroken)⟩
        | @ended line rest lines unbroken isLines =>
            have longer : Lines ((byte :: line) ++ 0x0a :: rest)
                (((byte :: line) ++ [0x0a]) :: lines) :=
              .ended (apart unbroken) isLines
            exact ⟨_, longer⟩

theorem Lines.flatten (isLines : Lines input lines) : lines.flatten = input := by
  induction isLines with
  | nil => rfl
  | last _ _ => exact List.append_nil _
  | ended _ _ ih => rw [List.flatten_cons, ih, List.append_assoc, List.singleton_append]

/-- The first line is taken as a whole. At the end of the input there is nothing to take. -/
theorem Lines.takeLine (isLines : Lines input lines) :
    takeLine input = (lines.head?.getD [], lines.tail.flatten) := by
  cases isLines with
  | nil => rfl
  | last _ unbroken => exact takeLine_of_unbroken unbroken
  | ended unbroken isLines =>
      rw [takeLine_append_break unbroken, List.tail_cons, isLines.flatten]
      rfl

theorem Lines.tail (isLines : Lines input lines) : Lines lines.tail.flatten lines.tail := by
  cases isLines with
  | nil => exact .nil
  | last _ _ => exact .nil
  | ended _ isLines =>
      rw [List.tail_cons, isLines.flatten]
      exact isLines

theorem Lines.ne_nil (isLines : Lines input lines) : ∀ line ∈ lines, line ≠ [] := by
  induction isLines with
  | nil => exact List.forall_mem_nil _
  | last nonempty _ => exact List.forall_mem_singleton.mpr nonempty
  | ended _ _ ih =>
      refine List.forall_mem_cons.mpr ⟨?_, ih⟩
      exact List.append_ne_nil_of_right_ne_nil _ (List.cons_ne_nil _ _)

theorem Lines.eq_nil (isLines : Lines [] lines) : lines = [] := by
  cases lines with
  | nil => rfl
  | cons line lines =>
      have nothing : line = [] := (List.append_eq_nil_iff.mp isLines.flatten).1
      exact absurd nothing (isLines.ne_nil line List.mem_cons_self)

theorem Lines.unique {other : List (List UInt8)} (isLines : Lines input lines)
    (too : Lines input other) : lines = other := by
  induction lines generalizing input other with
  | nil =>
      cases isLines.flatten
      exact too.eq_nil.symm
  | cons line lines ih =>
      cases other with
      | nil =>
          cases too.flatten
          exact isLines.eq_nil
      | cons otherLine others =>
          have same := isLines.takeLine.symm.trans too.takeLine
          obtain ⟨rfl, rest⟩ : line = otherLine ∧ lines.flatten = others.flatten := by
            simpa using same
          have further : Lines lines.flatten others := rest ▸ too.tail
          rw [ih isLines.tail further]

end Lines

/-! ## Answers -/

/-- What a line answers, if there is one left. -/
inductive Answers (disk : Disk) : Option (List UInt8) → Pick → Prop where
  | exhausted : Answers disk none (.ok none)
  | blank {text : String} : (∀ c ∈ text.toList, isBlank c = true) →
      Answers disk (some (encodeUtf8 text)) (.ok none)
  | unreadable {line : List UInt8} {fault : Text.Utf8Fault} : (∀ text, line ≠ encodeUtf8 text) →
      decodeUtf8 line = .error fault → Answers disk (some line) (.error (.io fault.message))
  | directory {text path : String} : Trimmed text.toList path.toList →
      disk.isDirectory path = true →
      Answers disk (some (encodeUtf8 text)) (.ok (some (encodeUtf8 path)))
  | notADirectory {text path : String} : Trimmed text.toList path.toList →
      disk.isDirectory path = false →
      Answers disk (some (encodeUtf8 text)) (.error (.notADirectory path))

section Answers

variable {disk : Disk} {line : List UInt8} {pick : Pick}

theorem pickOfLine_of_blank {text : String} (blank : ∀ c ∈ text.toList, isBlank c = true) :
    pickOfLine disk (encodeUtf8 text) = .ok none := by
  unfold pickOfLine
  rw [decodeUtf8_eq_ok_iff.mpr rfl]
  dsimp only
  rw [trimBlanks_eq_nil_iff.mpr blank]
  rfl

theorem pickOfLine_of_trimmed {text path : String} (trimmed : Trimmed text.toList path.toList) :
    pickOfLine disk (encodeUtf8 text) =
      if disk.isDirectory path then .ok (some (encodeUtf8 path))
      else .error (.notADirectory path) := by
  have nonempty : path.isEmpty = false := by
    obtain ⟨c, head, _⟩ := trimmed.first
    rw [String.isEmpty_eq_false_iff]
    rintro rfl
    cases head
  unfold pickOfLine
  rw [decodeUtf8_eq_ok_iff.mpr rfl]
  dsimp only
  rw [trimBlanks_of_trimmed trimmed, String.ofList_toList, nonempty]
  rfl

theorem answers_pickOfLine (disk : Disk) (line : List UInt8) :
    Answers disk (some line) (pickOfLine disk line) := by
  cases decoded : decodeUtf8 line with
  | error fault =>
      have unreadable : ∀ text, line ≠ encodeUtf8 text := by
        rintro text same
        cases decoded.symm.trans (decodeUtf8_eq_ok_iff.mpr same)
      unfold pickOfLine
      rw [decoded]
      exact .unreadable unreadable decoded
  | ok text =>
      cases decodeUtf8_eq_ok_iff.mp decoded
      by_cases blank : trimBlanks text.toList = []
      · have all := trimBlanks_eq_nil_iff.mp blank
        rw [pickOfLine_of_blank all]
        exact .blank all
      · have trimmed : Trimmed text.toList (String.ofList (trimBlanks text.toList)).toList := by
          rw [String.toList_ofList]
          exact trimmed_trimBlanks blank
        rw [pickOfLine_of_trimmed trimmed]
        split
        next there => exact .directory trimmed there
        next missing => exact .notADirectory trimmed (Bool.eq_false_iff.mpr missing)

/-- A line has one answer, and the end of the input answers as an empty line would. -/
theorem answers_iff {found : Option (List UInt8)} :
    Answers disk found pick ↔ pick = pickOfLine disk (found.getD []) := by
  constructor
  · intro answers
    cases answers with
    | exhausted =>
        have empty : pickOfLine disk (encodeUtf8 "") = .ok none := pickOfLine_of_blank (by simp)
        exact empty.symm
    | blank blank => exact (pickOfLine_of_blank blank).symm
    | unreadable _ decoded =>
        unfold pickOfLine
        rw [Option.getD_some, decoded]
    | directory trimmed there =>
        rw [Option.getD_some, pickOfLine_of_trimmed trimmed, if_pos there]
    | notADirectory trimmed missing =>
        rw [Option.getD_some, pickOfLine_of_trimmed trimmed, if_neg (by simp [missing])]
  · rintro rfl
    cases found with
    | some line => exact answers_pickOfLine disk line
    | none =>
        rw [Option.getD_none, show ([] : List UInt8) = encodeUtf8 "" from rfl,
          pickOfLine_of_blank (by simp)]
        exact .exhausted

end Answers

/-! ## Questions -/

/-- A question: where the dialog starts, and why the question cannot be written, if it cannot. -/
structure Question where
  start : Option String
  broken : Option String

namespace Terminal

def pose (terminal : Terminal) (disk : Disk) (question : Question) : Pick × Terminal :=
  { terminal with broken := question.broken }.ask disk question.start

/-- What is left of a terminal after a number of questions. -/
def poseAll (terminal : Terminal) (disk : Disk) (questions : List Question) : Terminal :=
  questions.foldl (fun terminal question => (terminal.pose disk question).2) terminal

/-- How many of some questions can be written. -/
def written (questions : List Question) : Nat := questions.countP (·.broken.isNone)

/-- How a terminal takes a question, of which a number have been written before. -/
structure TakesInTurn (disk : Disk) (lines : List (List UInt8)) (before : Nat)
    (terminal : Terminal) (question : Question) : Prop where
  answered : question.broken = none →
    ∀ pick, Answers disk lines[before]? pick ↔ pick = (terminal.pose disk question).1
  prompted : question.broken = none →
    (terminal.pose disk question).2.prompted = terminal.prompted ++ promptText question.start
  consumed : question.broken = none →
    (terminal.pose disk question).2.input = (lines.drop (before + 1)).flatten
  unwritten : ∀ reason, question.broken = some reason →
    (terminal.pose disk question).1 = .error (.io reason) ∧
      (terminal.pose disk question).2.input = terminal.input

section Turns

variable {disk : Disk} {lines : List (List UInt8)} {terminal : Terminal} {before : Nat}

theorem takesInTurn (isLines : Lines terminal.input (lines.drop before)) (question : Question) :
    TakesInTurn disk lines before terminal question := by
  obtain ⟨start, broken⟩ := question
  cases broken with
  | some reason =>
      constructor
      case unwritten =>
        rintro other ⟨⟩
        exact ⟨rfl, rfl⟩
      all_goals exact fun working => nomatch working
  | none =>
      have asked : terminal.pose disk ⟨start, none⟩ =
          (pickOfLine disk (takeLine terminal.input).1,
            ⟨(takeLine terminal.input).2, terminal.prompted ++ promptText start, none⟩) := rfl
      rw [isLines.takeLine, List.tail_drop, List.head?_drop] at asked
      constructor
      case answered =>
        intro _ pick
        rw [asked]
        exact answers_iff
      case prompted => exact fun _ => by rw [asked]
      case consumed => exact fun _ => by rw [asked]
      case unwritten => exact fun reason broken => nomatch broken

theorem lines_pose (isLines : Lines terminal.input (lines.drop before)) (question : Question) :
    Lines (terminal.pose disk question).2.input (lines.drop (before + written [question])) := by
  have turn : TakesInTurn disk lines before terminal question := takesInTurn isLines question
  cases broken : question.broken with
  | some reason =>
      rw [(turn.unwritten reason broken).2]
      simpa [written, broken] using isLines
  | none =>
      rw [turn.consumed broken]
      have further : written [question] = 1 := by simp [written, broken]
      rw [further, ← List.tail_drop]
      exact isLines.tail

theorem lines_poseAll (isLines : Lines terminal.input (lines.drop before))
    (questions : List Question) :
    Lines (terminal.poseAll disk questions).input (lines.drop (before + written questions)) := by
  induction questions generalizing terminal before with
  | nil => exact isLines
  | cons question rest ih =>
      have counted : written ([question] ++ rest) = written [question] + written rest :=
        List.countP_append
      rw [← List.singleton_append, counted, ← Nat.add_assoc]
      exact ih (lines_pose isLines question)

end Turns

/-- Whatever has been asked before, the next question is answered by the line whose number is that
of the questions that could be written. -/
theorem pose_lineByLine (terminal : Terminal) (disk : Disk) :
    ∃ lines, (∀ other, Lines terminal.input other ↔ other = lines) ∧
      ∀ earlier question, TakesInTurn disk lines (written earlier)
        (terminal.poseAll disk earlier) question := by
  obtain ⟨lines, isLines⟩ := exists_lines terminal.input
  refine ⟨lines, fun other => ⟨fun too => too.unique isLines, ?_⟩, fun earlier question => ?_⟩
  · rintro rfl
    exact isLines
  · have left : Lines (terminal.poseAll disk earlier).input (lines.drop (0 + written earlier)) :=
      lines_poseAll isLines earlier
    rw [Nat.zero_add] at left
    exact takesInTurn left question

/-- A line that is not UTF-8 is used up like any other, and a question that fails uses up none. -/
example :
    let terminal : Terminal := ⟨[0xff, 0x0a, 0x20, 0x2f, 0x0d, 0x0a], "", none⟩
    let disk : Disk := ⟨[], 0o022, "/"⟩
    let earlier : List Question := [⟨none, none⟩, ⟨none, some "closed"⟩]
    ((terminal.poseAll disk earlier).pose disk ⟨none, none⟩).1 = .ok (some [0x2f]) := by
  rfl

end Terminal

end WebviewHost.Bridge
