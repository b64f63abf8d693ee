/-!
# Lines of a byte stream

A line ends at a line feed, and a carriage return just before that line feed belongs to the line
end. What follows the last line feed is a line too, unless it is empty; a carriage return at its
end is text. A line whose bytes are not UTF-8 has no text.
-/

namespace MemShell.Text

/-- A line feed. -/
def lineFeed : UInt8 := 10

/-- The bytes up to the first line feed, with the bytes after it if there is one. -/
def splitLine : List UInt8 → List UInt8 × Option (List UInt8)
  | [] => ([], none)
  | b :: bs =>
    if b = lineFeed then ([], some bs)
    else
      let (line, rest) := splitLine bs
      (b :: line, rest)

theorem splitLine_rest_length {bs line rest : List UInt8}
    (h : splitLine bs = (line, some rest)) : rest.length < bs.length := by
  induction bs generalizing line with
  | nil => simp [splitLine] at h
  | cons b bs ih =>
    by_cases hb : b = lineFeed
    · simp only [splitLine, hb, ↓reduceIte, Prod.mk.injEq, Option.some.injEq] at h
      simp [← h.2]
    · simp only [splitLine, hb, ↓reduceIte, Prod.mk.injEq] at h
      have := @ih (splitLine bs).1 (by rw [← h.2])
      simp only [List.length_cons]
      omega

/-- The line without the carriage return that belongs to its line end. -/
def dropReturn (line : List UInt8) : List UInt8 :=
  if line.getLast? = some 13 then line.dropLast else line

/-- The text of the bytes, `none` if they are not UTF-8. -/
def ofBytes? (bytes : List UInt8) : Option String :=
  String.fromUTF8? ⟨bytes.toArray⟩

/-- The lines of a byte stream, `none` for each line that is not UTF-8. -/
def linesOfBytes (bytes : List UInt8) : List (Option String) :=
  match _h : splitLine bytes with
  | (line, some rest) => ofBytes? (dropReturn line) :: linesOfBytes rest
  | ([], none) => []
  | (line, none) => [ofBytes? line]
termination_by bytes.length
decreasing_by exact splitLine_rest_length _h

end MemShell.Text
