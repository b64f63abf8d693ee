import MemShell.Proofs.Text.Words
import MemShell.Text.Lines

/-!
# Lines as bytes and back

A text becomes a byte stream when each of its lines is written in UTF-8 and ended by a line feed
(`bytesOfLines`). In UTF-8 a byte of ASCII stands for its own character only
(`utf8EncodeChar_of_ascii`), so the line feeds of the stream are the ends of the lines, and reading
gives the lines back but for the carriage returns that they end in (`linesOfBytes_bytesOfLines`).
A carriage return may also belong to the end of the line (`linesOfBytes_bytesOfEnded`). Either way
it is a blank, and neither a line's words nor the trimmed line shows it. Bytes that are not UTF-8
are no line, with or without a carriage return (`linesOfBytes_of_undecodable`).
-/

namespace MemShell.Text

def utf8 (text : String) : List UInt8 := text.toUTF8.data.toList

def bytesOfLines (lines : List String) : List UInt8 :=
  lines.flatMap fun line => utf8 line ++ [lineFeed]

/-- The line as it is read, which is without the carriage return that it may end in. -/
def withoutReturn (line : String) : String :=
  if line.toList.getLast? = some '\r' then String.ofList line.toList.dropLast else line

/-! ## UTF-8 -/

theorem utf8_eq (text : String) : utf8 text = text.toList.flatMap String.utf8EncodeChar := by
  rw [utf8, String.toUTF8_eq_toByteArray, ← String.utf8Encode_toList, List.utf8Encode,
    List.data_toByteArray, List.toList_toArray]

theorem utf8_ofList (cs : List Char) :
    utf8 (String.ofList cs) = cs.flatMap String.utf8EncodeChar := by
  rw [utf8_eq, String.toList_ofList]

theorem ofBytes?_utf8 (text : String) : ofBytes? (utf8 text) = some text := by
  have hbytes : (⟨(utf8 text).toArray⟩ : ByteArray) = text.toUTF8 := by
    rw [utf8, Array.toArray_toList]
  rw [ofBytes?, hbytes, String.fromUTF8?, String.toUTF8_eq_toByteArray, dif_pos text.isValidUTF8]
  rfl

theorem eq_utf8_of_ofBytes? {bytes : List UInt8} {text : String} (h : ofBytes? bytes = some text) :
    bytes = utf8 text := by
  rw [ofBytes?, String.fromUTF8?] at h
  split at h
  · cases h
    rfl
  · cases h

theorem utf8_append (text other : String) : utf8 (text ++ other) = utf8 text ++ utf8 other := by
  rw [utf8_eq, utf8_eq, utf8_eq, String.toList_append, List.flatMap_append]

/-- Only a character of ASCII has a byte of ASCII, and then no other byte. -/
theorem utf8EncodeChar_of_ascii {c : Char} {b : UInt8} (hmem : b ∈ String.utf8EncodeChar c)
    (hb : b.toNat < 128) : String.utf8EncodeChar c = [b] ∧ c.toNat = b.toNat := by
  unfold String.utf8EncodeChar at hmem ⊢
  dsimp only at hmem ⊢
  by_cases hascii : c.val.toNat ≤ 127
  · rw [if_pos hascii, List.mem_singleton] at hmem
    rw [if_pos hascii, hmem]
    refine ⟨rfl, ?_⟩
    rw [UInt8.toNat_ofNat']
    change c.val.toNat = _
    omega
  · -- Every byte of a longer code has its highest bit set.
    exfalso
    rw [if_neg hascii] at hmem
    split at hmem
    · simp only [List.mem_cons, List.not_mem_nil, or_false] at hmem
      rcases hmem with rfl | rfl <;> rw [UInt8.toNat_ofNat'] at hb <;> omega
    · split at hmem
      · simp only [List.mem_cons, List.not_mem_nil, or_false] at hmem
        rcases hmem with rfl | rfl | rfl <;> rw [UInt8.toNat_ofNat'] at hb <;> omega
      · simp only [List.mem_cons, List.not_mem_nil, or_false] at hmem
        rcases hmem with rfl | rfl | rfl | rfl <;> rw [UInt8.toNat_ofNat'] at hb <;> omega

theorem lineFeed_not_mem_utf8 {text : String} (h : '\n' ∉ text.toList) : lineFeed ∉ utf8 text := by
  rw [utf8_eq]
  intro hmem
  obtain ⟨c, hc, hbyte⟩ := List.mem_flatMap.1 hmem
  obtain ⟨-, hcode⟩ := utf8EncodeChar_of_ascii hbyte (by decide)
  have hfeed : c = '\n' := Char.toNat_inj.1 hcode
  exact h (hfeed ▸ hc)

/-- The carriage return at the end of the bytes is the one at the end of the text. -/
theorem dropReturn_utf8 (text : String) : dropReturn (utf8 text) = utf8 (withoutReturn text) := by
  rcases List.eq_nil_or_concat text.toList with hnil | ⟨init, last, hlast⟩
  · rw [withoutReturn, hnil, utf8_eq, hnil]
    simp [dropReturn, utf8_eq, hnil]
  rw [List.concat_eq_append] at hlast
  have hbytes : utf8 text =
      init.flatMap String.utf8EncodeChar ++ String.utf8EncodeChar last := by
    rw [utf8_eq, hlast]
    simp
  have hend : (utf8 text).getLast? = (String.utf8EncodeChar last).getLast? := by
    rw [hbytes, List.getLast?_append,
      List.getLast?_eq_some_getLast String.utf8EncodeChar_ne_nil, Option.some_or]
  by_cases hreturn : last = '\r'
  · subst hreturn
    have hcode : String.utf8EncodeChar '\r' = [13] := by decide
    rw [dropReturn, if_pos (by rw [hend, hcode]; rfl), withoutReturn, if_pos (by rw [hlast]; simp),
      utf8_ofList, hbytes, hcode, hlast]
    simp
  · rw [dropReturn, if_neg, withoutReturn, if_neg]
    · rw [hlast]
      simpa using hreturn
    · intro hthirteen
      rw [hend] at hthirteen
      obtain ⟨-, hcode⟩ := utf8EncodeChar_of_ascii (List.mem_of_getLast? hthirteen) (by decide)
      exact hreturn (Char.toNat_inj.1 hcode)

/-! ## Reading lines -/

theorem splitLine_append {bs : List UInt8} (h : lineFeed ∉ bs) (rest : List UInt8) :
    splitLine (bs ++ lineFeed :: rest) = (bs, some rest) := by
  induction bs with
  | nil => simp [splitLine]
  | cons b bs ih =>
    simp only [List.mem_cons, not_or] at h
    rw [List.cons_append, splitLine, if_neg (Ne.symm h.1), ih h.2]

theorem linesOfBytes_append {bs : List UInt8} (h : lineFeed ∉ bs) (rest : List UInt8) :
    linesOfBytes (bs ++ lineFeed :: rest) = ofBytes? (dropReturn bs) :: linesOfBytes rest := by
  rw [linesOfBytes]
  split
  · next line others hsplit =>
    rw [splitLine_append h] at hsplit
    cases hsplit
    rfl
  · next hsplit =>
    rw [splitLine_append h] at hsplit
    cases hsplit
  · next line _ hsplit =>
    rw [splitLine_append h] at hsplit
    cases hsplit

theorem linesOfBytes_bytesOfLines_append {lines : List String}
    (h : ∀ line ∈ lines, '\n' ∉ line.toList) (rest : List UInt8) :
    linesOfBytes (bytesOfLines lines ++ rest) =
      (lines.map withoutReturn).map some ++ linesOfBytes rest := by
  induction lines with
  | nil => rfl
  | cons line lines ih =>
    have hhead : lineFeed ∉ utf8 line := lineFeed_not_mem_utf8 (h line (by simp))
    have hrest := ih fun other hother => h other (List.mem_cons_of_mem _ hother)
    have hcut : bytesOfLines (line :: lines) ++ rest =
        utf8 line ++ lineFeed :: (bytesOfLines lines ++ rest) := by
      simp [bytesOfLines]
    rw [hcut, linesOfBytes_append hhead, hrest, dropReturn_utf8, ofBytes?_utf8]
    rfl

theorem linesOfBytes_bytesOfLines {lines : List String}
    (h : ∀ line ∈ lines, '\n' ∉ line.toList) :
    linesOfBytes (bytesOfLines lines) = (lines.map withoutReturn).map some := by
  have hnil : linesOfBytes [] = [] := by
    rw [linesOfBytes]
    rfl
  have happend := linesOfBytes_bytesOfLines_append h []
  rw [hnil, List.append_nil, List.append_nil] at happend
  exact happend

/-! ## Lines that are not UTF-8 -/

/-- The first line of the bytes is not UTF-8. -/
def Undecodable (bytes : List UInt8) : Prop :=
  ofBytes? (bytes.takeWhile (· ≠ lineFeed)) = none

instance (bytes : List UInt8) : Decidable (Undecodable bytes) :=
  inferInstanceAs (Decidable (_ = _))

theorem splitLine_fst (bs : List UInt8) : (splitLine bs).1 = bs.takeWhile (· ≠ lineFeed) := by
  induction bs with
  | nil => rfl
  | cons b bs ih =>
    rw [splitLine, List.takeWhile_cons]
    by_cases hb : b = lineFeed
    · simp [hb]
    · simp [hb, ih]

/-- A carriage return is a character of its own, so bytes that are not UTF-8 are not UTF-8 without
one either. -/
theorem ofBytes?_dropReturn {line : List UInt8} (h : ofBytes? line = none) :
    ofBytes? (dropReturn line) = none := by
  rw [dropReturn]
  split
  · next hreturn =>
    obtain ⟨init, rfl⟩ := List.getLast?_eq_some_iff.1 hreturn
    rw [List.dropLast_concat]
    cases htext : ofBytes? init with
    | none => rfl
    | some text =>
      have hcode : utf8 "\r" = [13] := by decide
      have hreturned : init ++ [13] = utf8 (text ++ "\r") := by
        rw [utf8_append, ← eq_utf8_of_ofBytes? htext, hcode]
      rw [hreturned, ofBytes?_utf8] at h
      cases h
  · exact h

theorem linesOfBytes_of_undecodable {bytes : List UInt8} (h : Undecodable bytes) :
    ∃ rest, linesOfBytes bytes = none :: rest := by
  rw [Undecodable, ← splitLine_fst] at h
  rw [linesOfBytes]
  split
  · next line rest hsplit =>
    rw [hsplit] at h
    exact ⟨_, congrArg (· :: _) (ofBytes?_dropReturn h)⟩
  · next hsplit =>
    -- No bytes at all are the empty text.
    rw [hsplit] at h
    cases (ofBytes?_utf8 "").symm.trans h
  · next line _ hsplit =>
    rw [hsplit] at h
    exact ⟨_, congrArg (· :: _) h⟩

/-! ## Carriage returns -/

theorem withoutReturn_of_getLast? {line : String} (h : line.toList.getLast? ≠ some '\r') :
    withoutReturn line = line := if_neg h

theorem dropTrailing_concat {α : Type} {sep : α → Bool} {c : α} (h : sep c = true) (cs : List α) :
    dropTrailing sep (cs ++ [c]) = dropTrailing sep cs := by
  simp [dropTrailing, h]

theorem withoutReturn_append_return (line : String) : withoutReturn (line ++ "\r") = line := by
  have hreturn : (line ++ "\r").toList = line.toList ++ ['\r'] := by simp
  rw [withoutReturn, hreturn, if_pos (by simp), List.dropLast_concat, String.ofList_toList]

/-- A carriage return is a blank, so it does not show in a trimmed line. -/
theorem trim_withoutReturn (line : String) : trim (withoutReturn line) = trim line := by
  rw [withoutReturn]
  split
  · next hreturn =>
    obtain ⟨init, hline⟩ := List.getLast?_eq_some_iff.1 hreturn
    have hblank : isBlank '\r' = true := rfl
    rw [trim, trim, String.toList_ofList, hline, List.dropLast_concat, List.dropWhile_append]
    split
    · next hnil => simp [List.isEmpty_iff.1 hnil, hblank]
    · rw [dropTrailing_concat hblank]
  · rfl

theorem words_withoutReturn (line : String) : words (withoutReturn line) = words line := by
  rw [withoutReturn]
  split
  · next hreturn =>
    obtain ⟨init, hline⟩ := List.getLast?_eq_some_iff.1 hreturn
    have hblank : isBlank '\r' = true := rfl
    rw [words, words, String.toList_ofList, hline, List.dropLast_concat, runs_append_sep hblank,
      runs_nil, List.append_nil]
  · rfl

/-! ## Line ends of both kinds -/

/-- How a line ends in a byte stream. -/
inductive LineEnd where
  | feed
  /-- A carriage return and a line feed. -/
  | returnFeed
deriving DecidableEq, Repr

def LineEnd.bytes : LineEnd → List UInt8
  | .feed => [lineFeed]
  | .returnFeed => [13, lineFeed]

/-- The byte stream of lines that end each in its own way. -/
def bytesOfEnded (ended : List (String × LineEnd)) : List UInt8 :=
  ended.flatMap fun line => utf8 line.1 ++ line.2.bytes

/-- What stands in front of the line feed. -/
def beforeFeed : String × LineEnd → String
  | (line, .feed) => line
  | (line, .returnFeed) => line ++ "\r"

theorem bytes_of_beforeFeed (line : String × LineEnd) :
    utf8 line.1 ++ line.2.bytes = utf8 (beforeFeed line) ++ [lineFeed] := by
  obtain ⟨line, lineEnd⟩ := line
  cases lineEnd with
  | feed => rfl
  | returnFeed =>
    have hcode : String.utf8EncodeChar '\r' = [13] := by decide
    simp [LineEnd.bytes, beforeFeed, utf8_eq, hcode]

theorem linesOfBytes_bytesOfEnded {ended : List (String × LineEnd)}
    (h : ∀ line ∈ ended, '\n' ∉ line.1.toList) :
    linesOfBytes (bytesOfEnded ended) =
      ((ended.map beforeFeed).map withoutReturn).map some := by
  have hbytes : bytesOfEnded ended = bytesOfLines (ended.map beforeFeed) := by
    rw [bytesOfEnded, bytesOfLines, List.flatMap_map]
    simp only [bytes_of_beforeFeed]
  rw [hbytes, linesOfBytes_bytesOfLines]
  intro before hbefore
  obtain ⟨⟨line, lineEnd⟩, hline, rfl⟩ := List.mem_map.1 hbefore
  have hfree := h _ hline
  cases lineEnd with
  | feed => exact hfree
  | returnFeed => simpa [beforeFeed] using hfree

theorem words_beforeFeed (line : String × LineEnd) :
    words (withoutReturn (beforeFeed line)) = words line.1 := by
  obtain ⟨line, lineEnd⟩ := line
  cases lineEnd with
  | feed => exact words_withoutReturn line
  | returnFeed => rw [beforeFeed, withoutReturn_append_return]

theorem trim_beforeFeed (line : String × LineEnd) :
    trim (withoutReturn (beforeFeed line)) = trim line.1 := by
  obtain ⟨line, lineEnd⟩ := line
  cases lineEnd with
  | feed => exact trim_withoutReturn line
  | returnFeed => rw [beforeFeed, withoutReturn_append_return]

end MemShell.Text
