import Bitslice.Campaign
import Mathlib.Data.String.Basic

/-!
# Paths below a directory, and the names of a campaign's files

A plain name joined to a path adds one step to it (`Path.steps_join`). The
names that a campaign gives to its files are plain and differ from one
another: `Campaign.fileName` has at least four digits and an ending, and the
digits determine the number.
-/

namespace Bitslice

namespace Path

section Splitting

/-- Splitting at a separator of one character is splitting where that character stands. The
induction is on what is left of the text. -/
theorem splitOnAux_eq (text : String) (start position : String.Pos.Raw) (pieces : List String) :
    String.splitOnAux text "/" start position 0 pieces =
      String.splitAux text (· == '/') start position pieces := by
  have separator : String.Pos.Raw.get "/" 0 = '/' := by decide
  have onlyOne : String.Pos.Raw.atEnd "/" (String.Pos.Raw.next "/" 0) = true := by decide
  fun_induction String.splitAux text (· == '/') start position pieces with
  | case1 start position pieces ended => rw [String.splitOnAux, if_pos ended]
  | case2 start position pieces unfinished shorter found next ih =>
    have stepBack : (String.Pos.Raw.next text position).unoffsetBy (String.Pos.Raw.next "/" 0) =
        position := by
      have here : String.Pos.Raw.get text position = '/' := beq_iff_eq.mp found
      have width : String.Pos.Raw.next "/" 0 = ⟨1⟩ := by decide
      rw [width, String.Pos.Raw.next, here]
      rfl
    rw [String.splitOnAux, if_neg unfinished, separator, if_pos found]
    simp only [if_pos onlyOne, stepBack]
    exact ih
  | case3 start position pieces unfinished shorter other ih =>
    rw [String.splitOnAux, if_neg unfinished, separator, if_neg other]
    exact ih

theorem splitOn_eq (path : String) :
    path.splitOn "/" = (path.toList.splitOn '/').map String.ofList := by
  rw [String.splitOn, if_neg (by decide), splitOnAux_eq]
  exact String.splitToList_of_valid path (· == '/')

theorem steps_eq (path : String) :
    steps path = ((path.toList.splitOn '/').map String.ofList).filter (· ≠ "") := by
  rw [steps, splitOn_eq]

example : steps "/a//./b/" = ["a", ".", "b"] := by
  rw [steps_eq]
  decide

end Splitting

/-- A name that leads to an entry of its directory and nowhere else. -/
structure Plain (name : String) : Prop where
  given : name ≠ ""
  stays : name ≠ "."
  descends : name ≠ ".."
  whole : '/' ∉ name.toList

section Join

variable {directory name : String}

theorem Plain.of_mem {character : Char} (member : character ∈ name.toList)
    (other : character ≠ '.') (whole : '/' ∉ name.toList) : Plain name := by
  refine ⟨?_, ?_, ?_, whole⟩
  · rintro rfl
    cases member
  · rintro rfl
    exact other (List.mem_singleton.mp member)
  · rintro rfl
    exact other (List.eq_of_mem_replicate (n := 2) member)

theorem namesDirectory_iff : namesDirectory directory = true ↔
    ∃ front, directory.toList = front ++ ['/'] := by
  have separator : "/".toList = ['/'] := by decide
  rw [namesDirectory, String.endsWith, String.Slice.endsWith_string_iff, String.copy_toSlice,
    separator]
  constructor
  · rintro ⟨front, whole⟩
    exact ⟨front, whole.symm⟩
  · rintro ⟨front, whole⟩
    exact ⟨front, whole.symm⟩

theorem isAbsolute_iff : isAbsolute directory = true ↔
    ∃ rest, directory.toList = '/' :: rest := by
  have separator : "/".toList = ['/'] := by decide
  rw [isAbsolute, String.startsWith_string_iff, separator]
  constructor
  · rintro ⟨rest, whole⟩
    exact ⟨rest, whole.symm⟩
  · rintro ⟨rest, whole⟩
    exact ⟨rest, whole.symm⟩

/-- A separator stands between the directory and the name, and what is in front of it has the
directory's steps. -/
theorem join_split (directory name : String) :
    ∃ front, (join directory name).toList = front ++ '/' :: name.toList ∧
      steps directory = ((front.splitOn '/').map String.ofList).filter (· ≠ "") := by
  by_cases ended : directory.endsWith "/" = true
  · obtain ⟨front, whole⟩ := namesDirectory_iff.mp ended
    have last : ([] : List Char).splitOn '/' = [[]] := rfl
    refine ⟨front, ?_, ?_⟩
    · rw [join, if_pos ended, String.toList_append, whole, List.append_assoc]
      rfl
    · rw [steps_eq, whole, List.splitOn_append_cons_self, last, List.map_append,
        List.filter_append]
      exact List.append_nil _
  · have separator : "/".toList = ['/'] := by decide
    refine ⟨directory.toList, ?_, steps_eq directory⟩
    rw [join, if_neg ended, String.toList_append, String.toList_append, separator,
      List.append_assoc]
    rfl

theorem steps_join (plain : Plain name) :
    steps (join directory name) = steps directory ++ [name] := by
  obtain ⟨front, whole, same⟩ := join_split directory name
  have last : [name].filter (· ≠ "") = [name] := by simp [plain.given]
  rw [steps_eq, whole, List.splitOn_append_cons_self, List.splitOn_eq_singleton plain.whole,
    List.map_append, List.filter_append, same, List.map_singleton, String.ofList_toList, last]

theorem join_ne_empty (plain : Plain name) : join directory name ≠ "" := by
  intro empty
  have none : steps (join directory name) = [] := by
    rw [empty, steps_eq]
    decide
  rw [steps_join plain] at none
  exact List.append_ne_nil_of_right_ne_nil _ (List.cons_ne_nil _ _) none

theorem namesDirectory_join (plain : Plain name) :
    namesDirectory (join directory name) = false := by
  rw [Bool.eq_false_iff]
  intro ended
  obtain ⟨before, atEnd⟩ := namesDirectory_iff.mp ended
  obtain ⟨front, whole, -⟩ := join_split directory name
  have some : name.toList ≠ [] := by
    intro none
    exact plain.given (String.toList_inj.mp none)
  -- The last character is one of the name.
  have last := congrArg List.getLast? (whole.symm.trans atEnd)
  rw [List.getLast?_append_cons, List.getLast?_cons_of_ne_nil some, List.getLast?_concat] at last
  exact plain.whole (List.mem_of_getLast? last)

theorem isAbsolute_join (given : directory ≠ "") (name : String) :
    isAbsolute (join directory name) = isAbsolute directory := by
  obtain ⟨first, rest, whole⟩ : ∃ first rest, directory.toList = first :: rest := by
    apply List.exists_cons_of_ne_nil
    intro none
    exact given (String.toList_inj.mp none)
  have begins : ∃ behind, (join directory name).toList = first :: behind := by
    unfold join
    split
    · exact ⟨_, by rw [String.toList_append, whole, List.cons_append]⟩
    · exact ⟨_, by rw [String.toList_append, String.toList_append, whole, List.cons_append,
        List.cons_append]⟩
  obtain ⟨behind, joined⟩ := begins
  rw [Bool.eq_iff_iff, isAbsolute_iff, isAbsolute_iff, whole, joined]
  simp

end Join

end Path

namespace Campaign

section Numbers

/-- The digits of a number, filled up with zeros in front. -/
theorem toList_fourDigits (number : Nat) :
    ∃ zeros, (fourDigits number).toList =
      List.replicate zeros '0' ++ Nat.toDigits 10 number := by
  refine ⟨4 - (toString number).length, ?_⟩
  rw [fourDigits, String.toList_append, String.toList_ofList, Nat.toString_eq_repr,
    Nat.toList_repr]

theorem isDigit_of_mem_fourDigits {number : Nat} {character : Char}
    (member : character ∈ (fourDigits number).toList) : character.isDigit = true := by
  obtain ⟨zeros, whole⟩ := toList_fourDigits number
  rw [whole] at member
  rcases List.mem_append.mp member with zero | digit
  · rw [List.eq_of_mem_replicate zero]
    decide
  · exact Nat.isDigit_of_mem_toDigits (by decide) (by decide) digit

/-- The digits are read back as the number. -/
theorem ofDigitChars_fourDigits (number : Nat) :
    Nat.ofDigitChars 10 (fourDigits number).toList 0 = number := by
  obtain ⟨zeros, whole⟩ := toList_fourDigits number
  rw [whole, Nat.ofDigitChars_append, Nat.ofDigitChars_replicate_zero, Nat.mul_zero,
    Nat.ofDigitChars_ten_toDigits]

example : fourDigits 12345 = "12345" ∧ fourDigits 7 = "0007" := by decide

end Numbers

/-- The endings of the files that a trace leaves: its bits, the plaintext and the ciphertext. -/
def endings : List String :=
  [".bin", ".pt", ".ct"]

/-- The name of a file that belongs to a trace. -/
def fileName (number : Nat) (ending : String) : String :=
  fourDigits number ++ ending

/-- The name of the file that holds the trace of a whole batch. -/
def batchName (number : Nat) : String :=
  ".chunk" ++ fourDigits number ++ ".bin"

section Names

variable {number other : Nat} {ending otherEnding : String}

/-- An ending begins with its only dot and goes on with letters. -/
theorem toList_ending (listed : ending ∈ endings) :
    ∃ letters, ending.toList = '.' :: letters ∧ letters ≠ [] ∧ '.' ∉ letters ∧ '/' ∉ letters ∧
      'h' ∉ letters := by
  simp only [endings, List.mem_cons, List.not_mem_nil, or_false] at listed
  rcases listed with rfl | rfl | rfl
  · exact ⟨['b', 'i', 'n'], by decide⟩
  · exact ⟨['p', 't'], by decide⟩
  · exact ⟨['c', 't'], by decide⟩

theorem not_mem_fourDigits {character : Char} (other : character.isDigit = false) (number : Nat) :
    character ∉ (fourDigits number).toList := by
  intro member
  rw [isDigit_of_mem_fourDigits member] at other
  cases other

theorem toList_fileName (number : Nat) {letters : List Char}
    (spelled : ending.toList = '.' :: letters) :
    (fileName number ending).toList = (fourDigits number).toList ++ '.' :: letters := by
  rw [fileName, String.toList_append, spelled]

/-- The digits end where the ending's dot stands, so the name determines both. -/
theorem fileName_inj (listed : ending ∈ endings) (otherListed : otherEnding ∈ endings) :
    fileName number ending = fileName other otherEnding ↔
      number = other ∧ ending = otherEnding := by
  constructor
  · intro same
    obtain ⟨letters, spelled, -, noDot, -⟩ := toList_ending listed
    obtain ⟨otherLetters, otherSpelled, -⟩ := toList_ending otherListed
    have lists := congrArg String.toList same
    rw [toList_fileName number spelled, toList_fileName other otherSpelled,
      List.append_cons_inj_of_notMem (not_mem_fourDigits (by decide) number) noDot] at lists
    obtain ⟨digits, -, behind⟩ := lists
    refine ⟨?_, ?_⟩
    · rw [← ofDigitChars_fourDigits number, digits, ofDigitChars_fourDigits]
    · apply String.toList_inj.mp
      rw [spelled, otherSpelled, behind]
  · rintro ⟨rfl, rfl⟩
    rfl

theorem plain_fileName (number : Nat) (listed : ending ∈ endings) :
    Path.Plain (fileName number ending) := by
  obtain ⟨letters, spelled, some, noDot, noSlash, -⟩ := toList_ending listed
  obtain ⟨letter, member⟩ := List.exists_mem_of_ne_nil letters some
  have other : letter ≠ '.' := by
    rintro rfl
    exact noDot member
  rw [← String.ofList_toList (s := fileName number ending), toList_fileName number spelled]
  refine .of_mem ?_ other ?_
  · simp [member]
  · simp [not_mem_fourDigits (by decide : Char.isDigit '/' = false) number, noSlash]

theorem toList_batchName (number : Nat) : (batchName number).toList =
    ['.', 'c', 'h', 'u', 'n', 'k'] ++ (fourDigits number).toList ++ ['.', 'b', 'i', 'n'] := by
  have front : ".chunk".toList = ['.', 'c', 'h', 'u', 'n', 'k'] := by decide
  have behind : ".bin".toList = ['.', 'b', 'i', 'n'] := by decide
  rw [batchName, String.toList_append, String.toList_append, front, behind]

theorem plain_batchName (number : Nat) : Path.Plain (batchName number) := by
  have member : 'c' ∈ (batchName number).toList := by
    rw [toList_batchName]
    simp
  refine .of_mem member (by decide) ?_
  rw [toList_batchName]
  simp [not_mem_fourDigits (by decide : Char.isDigit '/' = false) number]

/-- The file of a batch is none of the files that stay. -/
theorem batchName_ne_fileName (number other : Nat) (listed : ending ∈ endings) :
    batchName number ≠ fileName other ending := by
  intro same
  obtain ⟨letters, spelled, -, -, -, noLetter⟩ := toList_ending listed
  have member : 'h' ∈ (batchName number).toList := by
    rw [toList_batchName]
    simp
  rw [same, toList_fileName other spelled] at member
  simp [not_mem_fourDigits (by decide : Char.isDigit 'h' = false) other, noLetter] at member

end Names

end Campaign

end Bitslice
