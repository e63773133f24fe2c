import Mathlib.Algebra.Ring.Nat

/-!
# Lines of a text

A text is read line by line. A line ends with a line break, and what stands behind the last line
break is a line as well, unless it is empty. A text that was put together from lines is read back
as these very lines exactly if none of them has a line break inside (`lines_ofLines_eq_iff`). Each
break that a line has inside adds one more line to what is read (`length_lines_ofLines`).
-/

namespace HostBoard.Text

/-- The text has no line break. -/
def Unbroken (text : String) : Prop :=
  '\n' ∉ text.toList

instance (text : String) : Decidable (Unbroken text) :=
  inferInstanceAs (Decidable ('\n' ∉ text.toList))

/-- How many line breaks a text has. -/
def breaks (text : String) : Nat :=
  text.toList.count '\n'

/-- The text of some lines, each with a line break behind it. -/
def ofLines (lines : List String) : String :=
  String.join (lines.map (· ++ "\n"))

/-- Cut characters at the line breaks, which are dropped. -/
def cut : List Char → List (List Char)
  | [] => []
  | c :: rest =>
    if c = '\n' then [] :: cut rest
    else
      match cut rest with
      | [] => [[c]]
      | line :: more => (c :: line) :: more

/-- The lines of a text. -/
def lines (text : String) : List String :=
  (cut text.toList).map String.ofList

lemma breaks_eq_zero_iff (text : String) : breaks text = 0 ↔ Unbroken text :=
  List.count_eq_zero

lemma unbroken_append {first second : String} (left : Unbroken first) (right : Unbroken second) :
    Unbroken (first ++ second) := by
  rw [Unbroken, String.toList_append, List.mem_append]
  exact fun either => either.elim left right

lemma breaks_append (first second : String) :
    breaks (first ++ second) = breaks first + breaks second := by
  rw [breaks, String.toList_append, List.count_append, breaks, breaks]

lemma toList_ofLines_cons (line : String) (more : List String) :
    (ofLines (line :: more)).toList = line.toList ++ '\n' :: (ofLines more).toList := by
  simp [ofLines]

lemma ofLines_append (first second : List String) :
    ofLines (first ++ second) = ofLines first ++ ofLines second := by
  rw [ofLines, List.map_append, String.join_append, ofLines, ofLines]

/-! ### Cutting -/

lemma cut_break (rest : List Char) : cut ('\n' :: rest) = [] :: cut rest := by
  rw [cut, if_pos rfl]

lemma cut_other {c : Char} (other : c ≠ '\n') {rest line : List Char} {more : List (List Char)}
    (after : cut rest = line :: more) : cut (c :: rest) = (c :: line) :: more := by
  rw [cut, if_neg other, after]

lemma cut_unbroken {line : List Char} (unbroken : '\n' ∉ line) (rest : List Char) :
    cut (line ++ '\n' :: rest) = line :: cut rest := by
  induction line with
  | nil => exact cut_break rest
  | cons c line ih =>
    rw [List.mem_cons, not_or] at unbroken
    obtain ⟨other, unbroken⟩ := unbroken
    exact cut_other (Ne.symm other) (ih unbroken)

/-- Up to a line break there are as many lines as line breaks, whatever follows. -/
lemma length_cut_append (before rest : List Char) :
    (cut (before ++ '\n' :: rest)).length = before.count '\n' + 1 + (cut rest).length := by
  induction before with
  | nil =>
    rw [List.nil_append, cut_break, List.length_cons, List.count_nil]
    omega
  | cons c before ih =>
    by_cases broken : c = '\n'
    · rw [broken, List.cons_append, cut_break, List.length_cons, ih, List.count_cons_self]
      omega
    · -- The character joins the line that is cut behind it, and there is one.
      cases after : cut (before ++ '\n' :: rest) with
      | nil =>
        rw [after, List.length_nil] at ih
        omega
      | cons line more =>
        rw [after, List.length_cons] at ih
        rw [List.cons_append, cut_other broken after, List.length_cons, ih,
          List.count_cons_of_ne broken]

/-! ### Lines that were put together -/

lemma lines_ofLines_cons {line : String} (unbroken : Unbroken line) (more : List String) :
    lines (ofLines (line :: more)) = line :: lines (ofLines more) := by
  rw [lines, toList_ofLines_cons, cut_unbroken unbroken, List.map_cons, String.ofList_toList, lines]

/-- Every line is read as one line more than it has line breaks. -/
lemma length_lines_ofLines (written : List String) :
    (lines (ofLines written)).length = (written.map fun line => breaks line + 1).sum := by
  induction written with
  | nil => rfl
  | cons line more ih =>
    have here := length_cut_append line.toList (ofLines more).toList
    rw [lines, List.length_map] at ih
    rw [lines, List.length_map, toList_ofLines_cons, here, ih, List.map_cons, List.sum_cons, breaks]

/-- Lines are read back as they were written if they have no line breaks. -/
lemma lines_ofLines {written : List String} (unbroken : ∀ line ∈ written, Unbroken line) :
    lines (ofLines written) = written := by
  induction written with
  | nil => rfl
  | cons line more ih =>
    rw [lines_ofLines_cons (unbroken line List.mem_cons_self)]
    exact congrArg (line :: ·) (ih fun other among => unbroken other (List.mem_cons_of_mem _ among))

lemma length_le_sum_breaks (written : List String) :
    written.length ≤ (written.map fun line => breaks line + 1).sum := by
  induction written with
  | nil => exact Nat.le_refl 0
  | cons line more ih =>
    rw [List.length_cons, List.map_cons, List.sum_cons]
    omega

/-- As many lines are read as were written only if none of them has a line break. -/
lemma length_lines_ofLines_eq_iff (written : List String) :
    (lines (ofLines written)).length = written.length ↔ ∀ line ∈ written, Unbroken line := by
  refine ⟨fun same => ?_, fun unbroken => by rw [lines_ofLines unbroken]⟩
  rw [length_lines_ofLines] at same
  induction written with
  | nil => exact nofun
  | cons line more ih =>
    have least := length_le_sum_breaks more
    rw [List.map_cons, List.sum_cons, List.length_cons] at same
    have here : breaks line = 0 := by omega
    have rest : (more.map fun line => breaks line + 1).sum = more.length := by omega
    exact List.forall_mem_cons.mpr ⟨(breaks_eq_zero_iff line).mp here, ih rest⟩

/-- Lines without line breaks are the only ones that are read back as they were written. -/
lemma lines_ofLines_eq_iff (written : List String) :
    lines (ofLines written) = written ↔ ∀ line ∈ written, Unbroken line :=
  ⟨fun same => (length_lines_ofLines_eq_iff written).mp (congrArg List.length same), lines_ofLines⟩

end HostBoard.Text
