import PxManager.Core.Lines
import PxManager.Core.Utf8
import Mathlib.Data.PNat.Basic

/-!
# PxManager.Admin.TailLines

`read_tail_lines`, which the admin pages read the logs with. The file is read backwards in blocks
until more newlines are read than lines are wanted. The bytes read are then a part of the file that
may begin inside a character and inside a line, and the lines asked for come after its first
newline, where both the decoder and `splitlines` start afresh.
-/

namespace PxManager.Admin

open PxManager.Core

/-- `data[start:]`. -/
def sliceFrom {α : Type} (data : List α) (start : ℤ) : List α :=
  data.drop (if start < 0 then (data.length + start).toNat else start.toNat)

/-- The loop of `read_tail_lines`: `position` is where the bytes in `data` begin. -/
def readBlocks (file : List UInt8) (lineCount : ℤ) (blockSize : ℕ+) (position : ℕ)
    (data : List UInt8) (newlineCount : ℕ) : List UInt8 :=
  if 0 < position ∧ (newlineCount : ℤ) ≤ lineCount then
    let readSize := min (blockSize : ℕ) position
    let chunk := (file.drop (position - readSize)).take readSize
    readBlocks file lineCount blockSize (position - readSize) (chunk ++ data)
      ((chunk ++ data).count 0x0a)
  else data
termination_by position
decreasing_by
  have := blockSize.pos
  omega

/-- `read_tail_lines`, in blocks of any size. A file that does not exist is `none`. -/
def readTailLines (blockSize : ℕ+) (file : Option (List UInt8)) (lineCount : ℤ) : List Text :=
  match file with
  | none => []
  | some file =>
      if lineCount ≤ 0 then []
      else
        let data := readBlocks file lineCount blockSize file.length [] 0
        sliceFrom (splitlines (decodeReplace data)) (-lineCount)

/-! ### The bytes read -/

/-- The bytes read are the end of the file, and either all of it or more lines than are wanted. -/
theorem readBlocks_eq_drop (file : List UInt8) (lineCount : ℤ) (blockSize : ℕ+) (position : ℕ)
    (data : List UInt8) (newlineCount : ℕ) (hdata : data = file.drop position)
    (hcount : newlineCount = data.count 0x0a) :
    ∃ start, readBlocks file lineCount blockSize position data newlineCount = file.drop start ∧
      (start = 0 ∨ lineCount < (file.drop start).count 0x0a) := by
  fun_induction readBlocks file lineCount blockSize position data newlineCount with
  | case1 position data newlineCount hguard readSize chunk ih =>
      have hchunk : chunk ++ data = file.drop (position - readSize) := by
        have hsize : position - readSize + readSize = position := by omega
        rw [hdata, ← hsize, ← List.drop_drop, hsize]
        exact List.take_append_drop _ _
      exact ih hchunk rfl
  | case2 position data newlineCount hguard =>
      refine ⟨position, hdata, ?_⟩
      rw [← hdata, ← hcount]
      omega

/-! ### The lines of the end -/

/-- The last elements of a list are those of a long enough end of it. -/
theorem sliceFrom_append {α : Type} (xs ys : List α) {n : ℤ} (hn : 0 < n) (h : n ≤ ys.length) :
    sliceFrom (xs ++ ys) (-n) = sliceFrom ys (-n) := by
  have hstart : ((xs ++ ys).length + -n).toNat = xs.length + (ys.length + -n).toNat := by
    rw [List.length_append]
    omega
  rw [sliceFrom, sliceFrom, if_pos (by omega), if_pos (by omega), hstart,
    List.drop_length_add_append]

/-- A part of the file with more newlines than lines are wanted has the same last lines. -/
theorem sliceFrom_splitlines_append (before data : List UInt8) {n : ℤ} (hn : 0 < n)
    (hcount : n < data.count 0x0a) :
    sliceFrom (splitlines (decodeReplace (before ++ data))) (-n) =
      sliceFrom (splitlines (decodeReplace data)) (-n) := by
  have hmem : 0x0a ∈ data := List.count_pos_iff.mp (by omega)
  obtain ⟨line, rest, rfl, hline⟩ := List.eq_append_cons_of_mem hmem
  -- the lines after the first newline of the part are enough
  have hrest : n ≤ (splitlines (decodeReplace rest)).length := by
    have hnewlines := count_newline_le_decodeReplace rest
    have hlines := count_newline_le_length_splitlines (decodeReplace rest)
    rw [List.count_append, List.count_cons_self, List.count_eq_zero_of_not_mem hline] at hcount
    omega
  rw [← List.append_assoc, decodeReplace_append_newline, decodeReplace_append_newline,
    splitlines_append_newline, splitlines_append_newline (decodeReplace line),
    sliceFrom_append _ _ hn hrest, sliceFrom_append _ _ hn hrest]

/-- `read_tail_lines` returns the last lines of the file. -/
theorem readTailLines_eq (file : List UInt8) (lineCount : ℤ) (blockSize : ℕ+)
    (h : 1 ≤ lineCount) :
    readTailLines blockSize (some file) lineCount =
      sliceFrom (splitlines (decodeReplace file)) (-lineCount) := by
  obtain ⟨start, hdata, hstart⟩ :=
    readBlocks_eq_drop file lineCount blockSize file.length [] 0 (by simp) rfl
  rw [readTailLines, if_neg (by omega), hdata]
  rcases hstart with rfl | hcount
  · rfl
  · have hfile := sliceFrom_splitlines_append (file.take start) (file.drop start) (by omega) hcount
    rw [List.take_append_drop] at hfile
    exact hfile.symm

/-- A file whose last line follows a `\r\n` and begins with a broken character, in blocks of one
byte. -/
theorem readTailLines_eq_crlf :
    readTailLines 1 (some [0x61, 0x0d, 0x0a, 0xe2, 0x82, 0x62]) 1 =
      [[replacementChar, 'b']] :=
  (readTailLines_eq [0x61, 0x0d, 0x0a, 0xe2, 0x82, 0x62] 1 1 (by decide)).trans
    (by decide +kernel)

end PxManager.Admin
