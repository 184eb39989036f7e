import Tunnix.Library.Utf8Chunks
import Mathlib.Data.List.DropRight

namespace Text

/-- These characters have the Unicode property `White_Space`. -/
def isWhitespace (char : Char) : Bool :=
  (0x09 ≤ char.toNat && char.toNat ≤ 0x0D) || char.toNat = 0x20 || char.toNat = 0x85 ||
    char.toNat = 0xA0 || char.toNat = 0x1680 || (0x2000 ≤ char.toNat && char.toNat ≤ 0x200A) ||
    char.toNat = 0x2028 || char.toNat = 0x2029 || char.toNat = 0x202F || char.toNat = 0x205F ||
    char.toNat = 0x3000

/-- Trimmed text has lost the whitespace at both ends. -/
def trim (text : List Char) : List Char :=
  (text.dropWhile isWhitespace).rdropWhile isWhitespace

/-- A carriage return before a newline belongs to the line end. -/
def stripReturn (line : List Char) : List Char :=
  if line.getLast? = some '\r' then line.dropLast else line

/-- A newline ends the line that is read, and the last line may go without one. -/
def linesFrom (line : List Char) : List Char → List (List Char)
  | [] => if line = [] then [] else [line]
  | char :: rest =>
      if char = '\n' then stripReturn line :: linesFrom [] rest
      else linesFrom (line ++ [char]) rest

/-- A text consists of these lines. -/
def lines (text : List Char) : List (List Char) := linesFrom [] text

/-- Text without whitespace is trimmed. -/
theorem trim_eq {text : List Char} (dense : ∀ char ∈ text, isWhitespace char = false) :
    trim text = text := by
  have front : text.dropWhile isWhitespace = text := by
    apply List.dropWhile_eq_self_iff.mpr
    intro some_
    rw [dense _ (List.getElem_mem _)]
    exact Bool.false_ne_true
  rw [trim, front]
  apply List.rdropWhile_eq_self_iff.mpr
  intro some_
  rw [dense _ (List.getLast_mem _)]
  exact Bool.false_ne_true

/-- Trimming removes nothing but whitespace. -/
theorem mem_trim {text : List Char} {char : Char} (member : char ∈ text)
    (dense : isWhitespace char = false) : char ∈ trim text := by
  have front : char ∈ text.dropWhile isWhitespace := by
    rw [← List.takeWhile_append_dropWhile (p := isWhitespace) (l := text), List.mem_append] at member
    apply member.resolve_left
    intro dropped
    rw [List.mem_takeWhile_imp dropped] at dense
    cases dense
  rw [← List.rdropWhile_append_rtakeWhile (p := isWhitespace) (l := text.dropWhile isWhitespace),
    List.mem_append] at front
  apply front.resolve_right
  intro dropped
  rw [List.mem_rtakeWhile_imp dropped] at dense
  cases dense

/-- Text without a newline continues the line that is read. -/
theorem linesFrom_append (line : List Char) {text : List Char} (same : '\n' ∉ text) (rest : List Char) :
    linesFrom line (text ++ rest) = linesFrom (line ++ text) rest := by
  induction text generalizing line with
  | nil => rw [List.append_nil, List.nil_append]
  | cons char more ih =>
      rw [List.mem_cons, not_or] at same
      rw [List.cons_append, linesFrom, if_neg (Ne.symm same.1), ih _ same.2, List.append_assoc]
      rfl

/-- The first newline ends the first line. -/
theorem lines_newline {line : List Char} (same : '\n' ∉ line) (rest : List Char) :
    lines (line ++ '\n' :: rest) = stripReturn line :: lines rest := by
  rw [lines, linesFrom_append [] same, List.nil_append, linesFrom, if_pos rfl]
  rfl

/-- Text without a newline is one line, unless it is empty. -/
theorem lines_single {line : List Char} (same : '\n' ∉ line) :
    lines line = if line = [] then [] else [line] := by
  have whole := linesFrom_append [] same []
  rw [List.append_nil, List.nil_append] at whole
  exact whole

/-- A line that ends in a carriage return loses it. -/
theorem stripReturn_concat (line : List Char) : stripReturn (line ++ ['\r']) = line := by
  rw [stripReturn, if_pos (List.getLast?_concat ..), List.dropLast_concat]

open Utf8 (Reading)

/-- A line end is stripped alike, however its line is read. -/
theorem stripReturn_reading {bytes : List UInt8} {line : List Char} (reading : Reading bytes line) :
    ∃ part, Reading part (stripReturn line) ∧ Utf8.lossy part = stripReturn (Utf8.lossy bytes) := by
  by_cases returns : line.getLast? = some '\r'
  · obtain ⟨front, rfl⟩ := List.getLast?_eq_some_iff.mp returns
    obtain ⟨before, after, rfl, reads, none_⟩ :=
      reading.unsplit 0x0D (by decide) (by decide)
    obtain rfl := none_.nil_iff.mp rfl
    refine ⟨before, ?_, ?_⟩
    · rw [stripReturn_concat]
      exact reads
    · have ended : Utf8.lossy (before ++ [0x0D]) = Utf8.lossy before ++ ['\r'] :=
        Utf8.lossyFrom_append_ascii (by decide) .between before []
      rw [ended, stripReturn_concat]
  · refine ⟨bytes, ?_, ?_⟩
    · rw [stripReturn, if_neg returns]
      exact reading
    · rw [stripReturn, if_neg]
      intro ends
      obtain ⟨front, same⟩ := List.getLast?_eq_some_iff.mp ends
      have whole := Reading.lossy bytes
      rw [same] at whole
      obtain ⟨before, after, rfl, -, none_⟩ := whole.unsplit 0x0D (by decide) (by decide)
      obtain rfl := none_.nil_iff.mp rfl
      obtain ⟨first, second, rfl, -, rest⟩ := reading.split 0x0D (by decide)
      obtain rfl := rest.nil_iff.mpr rfl
      exact returns (List.getLast?_concat ..)

/-- Every line of a reading reads the bytes of one line. -/
theorem lines_reading {bytes : List UInt8} {text line : List Char} (reading : Reading bytes text)
    (member : line ∈ lines text) :
    ∃ part, Reading part line ∧ Utf8.lossy part ∈ lines (Utf8.lossy bytes) := by
  induction length : bytes.length using Nat.strongRecOn generalizing bytes text with
  | _ count ih =>
      have clean {part : List UInt8} {line : List Char} (absent : 0x0A ∉ part)
          (reads : Reading part line) : '\n' ∉ line :=
        fun inside => absent (reads.mem 0x0A (by decide) (by decide) inside)
      by_cases newline : 0x0A ∈ bytes
      · obtain ⟨before, after, rfl, absent⟩ := List.eq_append_cons_of_mem newline
        obtain ⟨first, second, rfl, reads, follows⟩ := reading.split 0x0A (by decide)
        have split : Utf8.lossy (before ++ 0x0A :: after) =
            Utf8.lossy before ++ '\n' :: Utf8.lossy after :=
          Utf8.lossyFrom_append_ascii (by decide) .between before after
        have cut : lines (first ++ '\n' :: second) = stripReturn first :: lines second :=
          lines_newline (clean absent reads) second
        change line ∈ lines (first ++ '\n' :: second) at member
        rw [cut, List.mem_cons] at member
        rw [split, lines_newline (clean absent (.lossy before))]
        rcases member with rfl | later
        · obtain ⟨part, reads, same⟩ := stripReturn_reading reads
          exact ⟨part, reads, same ▸ List.mem_cons_self⟩
        · have shorter : after.length < count := by
            rw [← length, List.length_append, List.length_cons]
            omega
          obtain ⟨part, reads, inside⟩ := ih _ shorter follows later rfl
          exact ⟨part, reads, List.mem_cons_of_mem _ inside⟩
      · rw [lines_single (clean newline reading)] at member
        split at member
        · cases member
        · next some_ =>
            rw [List.mem_singleton] at member
            subst member
            refine ⟨bytes, reading, ?_⟩
            have whole : Utf8.lossy bytes ≠ [] :=
              mt (Reading.lossy bytes).nil_iff.mp (mt reading.nil_iff.mpr some_)
            rw [lines_single (clean newline (.lossy bytes)), if_neg whole]
            exact List.mem_singleton_self _

end Text
